import Tabsmith.Grammar.Program
import Tabsmith.Proofs.Acceptance.Nodes

/-!
Whether a check comes to its end. It looks at a value as a node, or goes through it as a list, without
asking what it is; a grammar whose rules ask for objects and lists in these places makes that safe.
-/

namespace Tabsmith

/-- The check met a value that it cannot look at as a node or go through. -/
def Report.Halts (report : Report) : Prop :=
  ∃ cause, .halt cause ∈ report

/-- A rule looks for nodes only in values of which it asks that they are objects or lists. -/
structure Rule.IsGuarded {κ : Type} (rule : Rule κ) : Prop where
  children : rule.children ≠ none → rule.kinds = [.object]
  items : rule.items ≠ none → rule.kinds = [.list]

/-- All rules of a grammar look for nodes only where there are some. -/
def Grammar.IsGuarded {κ : Type} (g : Grammar κ) : Prop :=
  ∀ kind, ∀ rule ∈ g.rules kind, rule.IsGuarded

theorem Report.not_halts_append {a b : Report} :
    ¬ Report.Halts (a ++ b) ↔ ¬ a.Halts ∧ ¬ b.Halts := by
  simp only [Report.Halts, List.mem_append, exists_or, not_or]

theorem Report.not_halts_flatMap {α : Type} {f : α → Report} {xs : List α} :
    ¬ Report.Halts (xs.flatMap f) ↔ ∀ x ∈ xs, ¬ (f x).Halts := by
  simp only [Report.Halts, List.mem_flatMap, not_exists, not_and]
  exact ⟨fun h x hx cause => h cause x hx, fun h cause x hx => h x hx cause⟩

theorem Report.not_halts_ofProblems (problems : List Problem) :
    ¬ (Report.ofProblems problems).Halts := by
  simp [Report.Halts, Report.ofProblems]

theorem Report.not_halts_map_warning (warnings : List Warning) :
    ¬ Report.Halts (warnings.map .warning) := by
  simp [Report.Halts]

/-- Without such a value only a problem that cannot be shown ends a check early. -/
theorem Report.halt?_eq_none {report : Report} (hhalts : ¬ report.Halts)
    (hproblems : report.problems = []) : report.halt? = none := by
  rw [Report.halt?, List.findSome?_eq_none_iff]
  intro observation hmem
  cases observation with
  | warning w => rfl
  | halt cause => exact absurd ⟨cause, hmem⟩ hhalts
  | problem p =>
    have hp : p ∈ report.problems := List.mem_filterMap.2 ⟨_, hmem, rfl⟩
    rw [hproblems] at hp
    cases hp

/-- A check that meets no value it cannot look at ends early for problems only that cannot be shown. -/
theorem Report.halt?_eq_some_iff {report : Report} (hhalts : ¬ report.Halts) (cause : Halt) :
    report.halt? = some cause ↔
      cause = .unwritable ∧ ∃ problem ∈ report.problems, problem.cause.isUnwritable = true := by
  have hends : ∀ observation ∈ report, ∀ cause, observation.halt? = some cause ↔
      cause = .unwritable ∧ ∃ problem, observation = .problem problem ∧
        problem.cause.isUnwritable = true := by
    intro observation hmem cause
    cases observation with
    | problem problem =>
      by_cases hcause : problem.cause.isUnwritable = true
      · rw [Observation.halt?, if_pos hcause]
        constructor
        · rintro ⟨⟩
          exact ⟨rfl, problem, rfl, hcause⟩
        · rintro ⟨rfl, _⟩
          rfl
      · simp [Observation.halt?, hcause]
    | warning warning => simp [Observation.halt?]
    | halt cause => exact absurd ⟨cause, hmem⟩ hhalts
  have hproblem : ∀ problem, problem ∈ report.problems ↔ .problem problem ∈ report := by
    intro problem
    rw [problems, List.mem_filterMap]
    constructor
    · rintro ⟨observation, hmem, hsame⟩
      cases observation with
      | problem found =>
        obtain rfl : found = problem := Option.some.inj hsame
        exact hmem
      | _ => cases hsame
    · exact fun hmem => ⟨_, hmem, rfl⟩
  unfold halt?
  constructor
  · intro hfirst
    obtain ⟨observation, hmem, hcause⟩ := List.exists_of_findSome?_eq_some hfirst
    obtain ⟨rfl, problem, rfl, hunwritable⟩ := (hends observation hmem cause).1 hcause
    exact ⟨rfl, problem, (hproblem problem).2 hmem, hunwritable⟩
  · rintro ⟨rfl, problem, hmem, hunwritable⟩
    have hsome : (report.findSome? Observation.halt?).isSome = true := by
      rw [List.findSome?_isSome_iff]
      refine ⟨_, (hproblem problem).1 hmem, ?_⟩
      rw [((hends _ ((hproblem problem).1 hmem) _).2 ⟨rfl, problem, rfl, hunwritable⟩)]
      rfl
    obtain ⟨cause, hfirst⟩ := Option.isSome_iff_exists.1 hsome
    obtain ⟨observation, hmem, hcause⟩ := List.exists_of_findSome?_eq_some hfirst
    rw [hfirst, ((hends observation hmem cause).1 hcause).1]

/-- A check that meets no value it cannot look at comes to its end exactly if all problems can be shown. -/
theorem Report.halt?_eq_none_iff {report : Report} (hhalts : ¬ report.Halts) :
    report.halt? = none ↔ ∀ problem ∈ report.problems, problem.cause.isUnwritable = false := by
  constructor
  · intro hnone problem hproblem
    by_contra hcause
    have hsome := (Report.halt?_eq_some_iff hhalts .unwritable).2
      ⟨rfl, problem, hproblem, by simpa using hcause⟩
    rw [hnone] at hsome
    cases hsome
  · intro hall
    cases hhalt : report.halt? with
    | none => rfl
    | some cause =>
      obtain ⟨-, problem, hproblem, hcause⟩ := (Report.halt?_eq_some_iff hhalts cause).1 hhalt
      rw [hall problem hproblem] at hcause
      cases hcause

theorem Rule.isObject_of_refusal? {κ : Type} {rule : Rule κ} {value : Value}
    (hkinds : rule.kinds = [.object]) (hrefusal : rule.refusal? value = none) :
    ∃ fields, value = .object fields := by
  rw [Rule.refusal?, hkinds] at hrefusal
  cases value with
  | object fields => exact ⟨fields, rfl⟩
  | _ => simp [Kind.holds] at hrefusal

theorem Rule.isList_of_refusal? {κ : Type} {rule : Rule κ} {value : Value}
    (hkinds : rule.kinds = [.list]) (hrefusal : rule.refusal? value = none) :
    ∃ items, value = .list items := by
  rw [Rule.refusal?, hkinds] at hrefusal
  cases value with
  | list items => exact ⟨items, rfl⟩
  | _ => simp [Kind.holds] at hrefusal

namespace Grammar

variable {κ : Type} {g : Grammar κ}

theorem not_halts_checkItems {kind : κ} {items : List Value}
    (hitems : ∀ node, .object node ∈ items → ∀ location,
      ¬ (g.check kind location (.object node)).Halts)
    (field : String) (unique : Bool) (location : String) (index : Nat) (seen : List String) :
    ¬ (g.checkItems kind field unique location index seen items).Halts := by
  induction items generalizing index seen with
  | nil => simp [checkItems, Report.Halts]
  | cons item rest ih =>
    have hrest := ih fun node hnode => hitems node (List.mem_cons_of_mem _ hnode)
    cases item with
    | object node =>
      rw [checkItems, Report.not_halts_append, Report.not_halts_append]
      exact ⟨⟨hitems node (by simp) _, Report.not_halts_ofProblems _⟩, hrest _ _⟩
    | _ =>
      rw [checkItems, Report.not_halts_append]
      · exact ⟨Report.not_halts_ofProblems _, hrest _ _⟩
      · simp

/-- The nodes inside a value can be checked to the end. -/
def ChecksBelow (g : Grammar κ) (value : Value) : Prop :=
  ∀ sub : Fields, sizeOf (Value.object sub) ≤ sizeOf value → ∀ kind location,
    ¬ (g.check kind location (.object sub)).Halts

theorem not_halts_childReport {rule : Rule κ} {value : Value} (hrule : rule.IsGuarded)
    (hrefusal : rule.refusal? value = none) (hbelow : g.ChecksBelow value) (location : String) :
    ¬ (g.childReport location rule value).Halts := by
  unfold childReport
  split
  next below hchildren =>
    have hkinds := hrule.children (by simp [hchildren])
    obtain ⟨fields, rfl⟩ := Rule.isObject_of_refusal? hkinds hrefusal
    exact hbelow fields (Nat.le_refl _) below _
  next => simp [Report.Halts]

theorem not_halts_itemsReport {rule : Rule κ} {value : Value} (hrule : rule.IsGuarded)
    (hrefusal : rule.refusal? value = none) (hbelow : g.ChecksBelow value) (location : String) :
    ¬ (g.itemsReport location rule value).Halts := by
  cases hitems : rule.items with
  | none => simp [itemsReport, hitems, Report.Halts]
  | some below =>
    have hkinds := hrule.items (by simp [hitems])
    obtain ⟨items, rfl⟩ := Rule.isList_of_refusal? hkinds hrefusal
    simp only [itemsReport, hitems]
    refine not_halts_checkItems (fun sub hsub => hbelow sub ?_ below) _ _ _ _ _
    have hitem := List.sizeOf_lt_of_mem hsub
    simp only [Value.list.sizeOf_spec]
    omega

theorem not_halts_fieldReport {rule : Rule κ} {node : Fields} (hrule : rule.IsGuarded)
    (hbelow : (node.get rule.name).isNull = false → g.ChecksBelow (node.get rule.name))
    (location : String) : ¬ (g.fieldReport location node rule).Halts := by
  unfold fieldReport
  split
  next => exact Report.not_halts_ofProblems _
  next hnull =>
    have hvalue := hbelow (by simpa using hnull)
    unfold valueReport
    split
    next => exact Report.not_halts_ofProblems _
    next hrefusal =>
      rw [Report.not_halts_append, Report.not_halts_append]
      exact ⟨⟨Report.not_halts_ofProblems _, not_halts_childReport hrule hrefusal hvalue location⟩,
        not_halts_itemsReport hrule hrefusal hvalue location⟩

/-- The check of a node with a guarded grammar halts nowhere, however deep the nodes below it nest. -/
theorem not_halts_check (hg : g.IsGuarded) (kind : κ) (location : String) (node : Fields) :
    ¬ (g.check kind location (.object node)).Halts := by
  rw [check_object, Report.not_halts_append, Report.not_halts_append, Report.not_halts_flatMap]
  refine ⟨⟨fun rule hrule => ?_, Report.not_halts_ofProblems _⟩, Report.not_halts_map_warning _⟩
  refine not_halts_fieldReport (hg kind rule hrule) (fun hnull sub hsub below path => ?_) location
  -- The kinds of node refer to each other, so the recursion is over the document.
  have hsmaller := Fields.sizeOf_lt_of_get hnull hsub
  exact not_halts_check hg below path sub
termination_by sizeOf node

end Grammar

theorem programGrammar_isGuarded : programGrammar.IsGuarded := by
  intro kind rule hrule
  have hkinds : (rule.children ≠ none → rule.kinds = [.object]) ∧
      (rule.items ≠ none → rule.kinds = [.list]) := by
    revert rule
    cases kind <;> decide
  exact ⟨hkinds.1, hkinds.2⟩

/-- The check of a document never meets a value that it cannot look at. -/
theorem not_halts_checkDocument (document : Value) : ¬ (checkDocument document).Halts := by
  cases document with
  | object node => exact Grammar.not_halts_check programGrammar_isGuarded _ _ _
  | _ => exact Report.not_halts_ofProblems _

end Tabsmith
