import Tabsmith.Program.Site
import Tabsmith.Proofs.Text

/-!
The names of completion functions: they are names that every shell takes, and two paths share one
exactly if the letters and digits of their names, cut at everything else, are the same runs.
-/

namespace Tabsmith

/-- A name that every shell takes: a letter or an underscore, then letters, digits and
underscores. -/
def IsShellIdentifier (name : String) : Prop :=
  ∃ first rest, name.toList = first :: rest ∧ (first.isAlpha = true ∨ first = '_') ∧
    rest.all isIdentifierChar = true

theorem functionName_toList (segments : List String) : (functionName segments).toList =
    '_' :: ['_'].intercalate (segments.map fun name => (identifier name).toList) := by
  simp [functionName, String.toList_intercalate, Function.comp_def]

theorem all_isIdentifierChar_identifier (name : String) :
    (identifier name).toList.all isIdentifierChar = true := by
  simp only [identifier, String.toList_ofList, List.all_map, List.all_eq_true]
  intro c _
  by_cases h : isIdentifierChar c = true
  · rw [Function.comp_apply, if_pos h, h]
  · rw [Function.comp_apply, if_neg h]
    rfl

theorem all_isIdentifierChar_functionName (segments : List String) :
    (functionName segments).toList.all isIdentifierChar = true := by
  rw [functionName_toList, List.all_cons, all_intercalate rfl]
  · rfl
  · simp only [List.mem_map]
    rintro _ ⟨name, _, rfl⟩
    exact all_isIdentifierChar_identifier name

theorem isShellIdentifier_functionName (segments : List String) :
    IsShellIdentifier (functionName segments) := by
  have hall := all_isIdentifierChar_functionName segments
  rw [functionName_toList, List.all_cons, Bool.and_eq_true] at hall
  exact ⟨'_', _, functionName_toList segments, Or.inr rfl, hall.2⟩

/-- Functions named after paths have names that every shell takes. -/
theorem isShellIdentifier_of_mem_map {α : Type} {name : α → String} {functions : List α}
    (hnamed : ∀ f ∈ functions, ∃ segments, name f = functionName segments) :
    ∀ defined ∈ functions.map name, IsShellIdentifier defined := by
  intro defined hdefined
  obtain ⟨f, hf, rfl⟩ := List.mem_map.1 hdefined
  obtain ⟨segments, hsegments⟩ := hnamed f hf
  rw [hsegments]
  exact isShellIdentifier_functionName segments

/-! ## When two paths share a name -/

/-- The runs of letters and digits of a name, cut at every other character. -/
def nameRuns (name : String) : List (List Char) :=
  name.toList.splitOnP fun c => !c.isAlphanum

theorem nameRuns_ne_nil (name : String) : nameRuns name ≠ [] :=
  List.splitOnP_ne_nil _ _

/-- What becomes an underscore in a part of a function name is what cuts the runs of a name. -/
theorem splitOn_identifier (name : String) :
    (identifier name).toList.splitOn '_' = nameRuns name := by
  rw [identifier, nameRuns, String.toList_ofList, List.splitOn_eq_splitOnP]
  induction name.toList with
  | nil => rfl
  | cons c rest ih =>
    rw [List.map_cons, List.splitOnP_cons_eq_if_modifyHead, List.splitOnP_cons_eq_if_modifyHead, ih]
    cases hc : c.isAlphanum with
    | true =>
      have hne : c ≠ '_' := by
        rintro rfl
        revert hc
        decide
      simp [isIdentifierChar, hc, hne]
    | false =>
      -- An underscore stays one, and anything else that cuts a run becomes one.
      by_cases hu : c = '_'
      · simp [isIdentifierChar, hu]
      · simp [isIdentifierChar, hc, hu]

theorem splitOn_intercalate_identifiers {segments : List String} (hne : segments ≠ []) :
    (['_'].intercalate (segments.map fun name => (identifier name).toList)).splitOn '_' =
      segments.flatMap nameRuns := by
  induction segments with
  | nil => exact absurd rfl hne
  | cons name rest ih =>
    cases rest with
    | nil => simp [splitOn_identifier]
    | cons next rest =>
      rw [List.map_cons, List.map_cons, List.intercalate_cons_cons, List.append_assoc,
        List.singleton_append, List.splitOn_append_cons_self, splitOn_identifier,
        List.flatMap_cons, ← ih (List.cons_ne_nil _ _), List.map_cons]

/-- Two paths have the same function name exactly if the runs of their names are the same. -/
theorem functionName_eq_iff {a b : List String} (ha : a ≠ []) (hb : b ≠ []) :
    functionName a = functionName b ↔ a.flatMap nameRuns = b.flatMap nameRuns := by
  rw [← String.toList_inj, functionName_toList, functionName_toList, List.cons_inj_right,
    ← splitOn_intercalate_identifiers ha, ← splitOn_intercalate_identifiers hb]
  constructor
  · exact congrArg _
  · intro h
    have hjoin := congrArg (['_'].intercalate ·) h
    simpa only [List.intercalate_splitOn] using hjoin

end Tabsmith
