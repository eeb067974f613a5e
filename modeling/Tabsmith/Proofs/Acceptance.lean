import Tabsmith.Proofs.Acceptance.Halts
import Tabsmith.Proofs.Acceptance.Program

/-!
Which documents are accepted. The check is a walk along tables of rules that refer to each other; what
it accepts is said here by what the nodes of a program description hold, without the tables.
-/

namespace Tabsmith

/-- The check of a document comes to its end without a problem exactly if the document is an object
with the fields of a program: all its nodes hold what their kind asks for, at every depth. A field that
is `null` counts as absent, and keys of which no kind knows are no problem. -/
theorem checkDocument_accepts_iff (document : Value) :
    ((checkDocument document).halt? = none ∧ (checkDocument document).problems = []) ↔
      ∃ node, document = .object node ∧ IsProgram node := by
  rw [← problems_checkDocument_eq_nil_iff]
  constructor
  · rintro ⟨_, hproblems⟩
    exact hproblems
  · intro hproblems
    exact ⟨Report.halt?_eq_none (not_halts_checkDocument document) hproblems, hproblems⟩

end Tabsmith
