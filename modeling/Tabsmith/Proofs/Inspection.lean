import Tabsmith.Proofs.Acceptance.Halts
import Tabsmith.Proofs.Outcome
import Tabsmith.Source

/-!
What an inspection comes to. The report of a check lists problems and warnings as they are come upon; an
inspection hands back the first, gathers and notes the second, and ends where the report says that the
check ends.
-/

namespace Tabsmith

namespace Report

theorem halt?_append (a b : Report) : halt? (a ++ b) = a.halt?.or b.halt? :=
  List.findSome?_append

theorem reached_append_of_none {a : Report} (b : Report) (hhalt : a.halt? = none) :
    reached (a ++ b) = a ++ b.reached := by
  refine List.takeWhile_append_of_pos fun observation hmem => ?_
  rw [List.findSome?_eq_none_iff.1 hhalt observation hmem]
  rfl

theorem reached_append_of_some {a : Report} {cause : Halt} (b : Report)
    (hhalt : a.halt? = some cause) : reached (a ++ b) = a.reached := by
  induction a with
  | nil => cases hhalt
  | cons observation rest ih =>
    rw [halt?, List.findSome?_cons] at hhalt
    cases hends : observation.halt? with
    | some found => simp [reached, hends]
    | none =>
      rw [hends] at hhalt
      have hrest := ih hhalt
      rw [reached, reached] at hrest
      simp [reached, hends, hrest]

theorem halt?_ofProblems (problems : List Problem) : (ofProblems problems).halt? =
    if problems.any fun problem => problem.cause.isUnwritable then some .unwritable else none := by
  induction problems with
  | nil => rfl
  | cons problem rest ih =>
    rw [ofProblems, halt?] at ih
    rw [ofProblems, halt?, List.map_cons, List.findSome?_cons, ih, List.any_cons, Observation.halt?]
    cases problem.cause.isUnwritable <;> rfl

theorem warnings_reached_ofProblems (problems : List Problem) :
    (ofProblems problems).reached.warnings = [] := by
  refine List.filterMap_eq_nil_iff.2 fun observation hmem => ?_
  obtain ⟨problem, _, rfl⟩ := List.mem_map.1 (List.takeWhile_subset _ hmem)
  rfl

theorem halt?_map_warning (warnings : List Warning) : halt? (warnings.map .warning) = none := by
  rw [halt?, List.findSome?_map]
  exact List.findSome?_eq_none_iff.2 fun _ _ => rfl

theorem warnings_map_warning (ws : List Warning) : warnings (ws.map .warning) = ws := by
  rw [warnings, List.filterMap_map]
  exact List.filterMap_some

end Report

namespace Inspecting

/-- How work ends and what it leaves behind, if it adds to the problems `found` and the things gathered
`before` what a report says. Of an early end the notes up to there are known. -/
inductive Leaves (found : List Problem) (report : Report) (before : Gathered) :
    Except Halt (List Problem) × Gathered → Prop
  | done (hhalt : report.halt? = none) :
      Leaves found report before (.ok (found ++ report.problems),
        ⟨before.warnings ++ report.warnings, before.notes ++ report.warnings.map Warning.note⟩)
  | halted {cause : Halt} (hhalt : report.halt? = some cause) (warnings : List Warning) :
      Leaves found report before (.error cause,
        ⟨warnings, before.notes ++ report.reached.warnings.map Warning.note⟩)

/-- Work adds to the problems `found` what a report says, whatever was gathered before. -/
def Follows (found : List Problem) (work : Inspecting (List Problem)) (report : Report) : Prop :=
  ∀ before, Leaves found report before (outcomeFrom work before)

theorem follows_pure {found problems : List Problem} (hsame : problems = found) :
    Follows found (pure problems) [] := by
  intro before
  have hdone : Leaves found [] before _ := .done rfl
  simpa [hsame, Report.problems, Report.warnings] using hdone

theorem follows_raise (problems : List Problem) : Follows [] (raise problems) (.ofProblems problems) := by
  intro before
  have hhalt := Report.halt?_ofProblems problems
  rw [raise]
  split
  next hunwritable =>
    rw [if_pos hunwritable] at hhalt
    have hended : Leaves [] (.ofProblems problems) before _ := .halted hhalt before.warnings
    rwa [Report.warnings_reached_ofProblems, List.map_nil, List.append_nil] at hended
  next hwritable =>
    rw [if_neg hwritable] at hhalt
    have hdone : Leaves [] (.ofProblems problems) before _ := .done hhalt
    simpa using hdone

/-- Work that goes on after other work adds what a second report says. -/
theorem Follows.bind {found : List Problem} {first : Inspecting (List Problem)}
    {next : List Problem → Inspecting (List Problem)} {a b : Report} (hfirst : Follows [] first a)
    (hnext : Follows (found ++ a.problems) (next a.problems) b) :
    Follows found (first >>= next) (a ++ b) := by
  intro before
  rw [outcomeFrom_bind]
  have hleaves := hfirst before
  generalize outcomeFrom first before = ended at hleaves ⊢
  cases hleaves with
  | halted hhalt warnings =>
    rw [← Report.reached_append_of_some b hhalt]
    exact .halted (by rw [Report.halt?_append, hhalt]; rfl) warnings
  | done hhalt =>
    have hrest := hnext ⟨before.warnings ++ a.warnings, before.notes ++ a.warnings.map Warning.note⟩
    dsimp only
    rw [List.nil_append]
    generalize outcomeFrom (next a.problems) _ = ended at hrest ⊢
    have hboth : Report.halt? (a ++ b) = b.halt? := by
      rw [Report.halt?_append, hhalt]
      rfl
    cases hrest with
    | done hhalt' =>
      have hdone : Leaves found (a ++ b) before _ := .done (hboth.trans hhalt')
      simpa [List.append_assoc] using hdone
    | halted hhalt' warnings =>
      have hended : Leaves found (a ++ b) before _ := .halted (hboth.trans hhalt') warnings
      rw [Report.reached_append_of_none b hhalt] at hended
      simpa [List.append_assoc] using hended

theorem follows_each {α : Type} {work : α → Inspecting (List Problem)} {report : α → Report}
    {xs : List α} (hwork : ∀ x ∈ xs, Follows [] (work x) (report x)) :
    Follows [] (each work xs) (xs.flatMap report) := by
  induction xs with
  | nil => exact follows_pure rfl
  | cons x rest ih =>
    rw [each, List.flatMap_cons, ← List.append_nil (rest.flatMap report)]
    refine (hwork x (by simp)).bind ?_
    exact (ih fun y hy => hwork y (by simp [hy])).bind (follows_pure rfl)

theorem outcomeFrom_logUnknownKeys (known : List String) (location : String) (node : Fields)
    (before : Gathered) :
    let warnings := (node.filter fun field => !known.contains field.1).map fun field =>
      Warning.mk location field.1 (Text.closest? field.1 known)
    outcomeFrom (logUnknownKeys known location node) before =
      (.ok warnings, { before with notes := before.notes ++ warnings.map Warning.note }) := by
  induction node generalizing before with
  | nil => simp [logUnknownKeys]
  | cons field rest ih =>
    obtain ⟨key, value⟩ := field
    rw [logUnknownKeys]
    by_cases hknown : known.contains key = true
    · rw [if_pos hknown, List.filter_cons_of_neg (by simpa using hknown)]
      exact ih before
    · rw [if_neg hknown, List.filter_cons_of_pos (by simpa using hknown), outcomeFrom_bind, log,
        outcomeFrom_modify]
      dsimp only
      rw [outcomeFrom_bind, ih]
      simp

/-- The unknown keys of a node are noted one by one, and then gathered together. -/
theorem follows_unknownKeys {found problems : List Problem} (hsame : problems = found) {κ : Type}
    (g : Grammar κ) (kind : κ) (location : String) (node : Fields) :
    Follows found (do
        let warnings ← logUnknownKeys ((g.rules kind).map (·.name)) location node
        gather warnings
        return problems)
      ((g.unknownKeys kind location node).map .warning) := by
  intro before
  rw [outcomeFrom_bind, outcomeFrom_logUnknownKeys, hsame]
  have hdone : Leaves found ((g.unknownKeys kind location node).map .warning) before _ :=
    .done (Report.halt?_map_warning _)
  rw [Report.warnings_map_warning, Grammar.problems_map_warning, List.append_nil] at hdone
  exact hdone

end Inspecting

namespace Grammar

open Inspecting

variable {κ : Type} {g : Grammar κ}

/-- The inspection of the node in a field that takes one. -/
def inspectChild (g : Grammar κ) (location : String) (rule : Rule κ) (value : Value) :
    Inspecting (List Problem) :=
  match rule.children with
  | some below => g.inspect below s!"{location}.{rule.name}" value
  | none => pure []

/-- The inspection of the nodes in a field that takes a list of them. -/
def inspectElements (g : Grammar κ) (location : String) (rule : Rule κ) (value : Value) :
    Inspecting (List Problem) :=
  match rule.items, value with
  | some below, .list items => g.inspectItems below rule.name rule.uniqueNames location 0 [] items
  | some _, _ => throw .noElements
  | none, _ => pure []

/-- The inspection of a value that is there. -/
def inspectValue (g : Grammar κ) (location : String) (rule : Rule κ) (value : Value) :
    Inspecting (List Problem) :=
  match rule.refusal? value with
  | some cause => raise [⟨location, rule.name, cause⟩]
  | none => do
    let own ← raise ((rule.condition.causes value).map fun cause => ⟨location, rule.name, cause⟩)
    let inside ← g.inspectChild location rule value
    let among ← g.inspectElements location rule value
    return own ++ inside ++ among

/-- The inspection of one field of a node. -/
def inspectField (g : Grammar κ) (location : String) (node : Fields) (rule : Rule κ) :
    Inspecting (List Problem) :=
  if (node.get rule.name).isNull then
    raise (if rule.required then [⟨location, rule.name, .missing⟩] else [])
  else g.inspectValue location rule (node.get rule.name)

/-- The inspection of a node, field by field. -/
theorem inspect_object (g : Grammar κ) (kind : κ) (location : String) (node : Fields) :
    g.inspect kind location (.object node) = do
      let found ← each (g.inspectField location node) (g.rules kind)
      let demanded ← raise (g.demands kind location node)
      let warnings ← logUnknownKeys ((g.rules kind).map (·.name)) location node
      gather warnings
      return found ++ demanded := by
  rw [inspect]
  congr 1
  congr 1
  funext rule
  split
  next hlookup => simp [inspectField, Fields.get, hlookup, Value.isNull]
  next hlookup => simp [inspectField, Fields.get, hlookup, Value.isNull]
  next value hnull hlookup =>
    have hthere : value.isNull = false := by
      cases value <;> first | rfl | exact absurd rfl hnull
    have hfield : g.inspectField location node rule = g.inspectValue location rule value := by
      simp [inspectField, Fields.get, hlookup, hthere]
    rw [hfield, inspectValue]
    cases hrefusal : rule.refusal? value with
    | some cause => rfl
    | none =>
      simp only [inspectChild]
      congr 1
      funext own
      congr 1
      funext inside
      congr 1
      unfold inspectElements
      cases rule.items with
      | none => rfl
      | some below => cases value <;> rfl

/-! ## Inspection and report -/

theorem follows_inspectItems {kind : κ} {items : List Value}
    (hitems : ∀ node, .object node ∈ items → ∀ location,
      Follows [] (g.inspect kind location (.object node)) (g.check kind location (.object node)))
    (field : String) (unique : Bool) (location : String) (index : Nat) (seen : List String) :
    Follows [] (g.inspectItems kind field unique location index seen items)
      (g.checkItems kind field unique location index seen items) := by
  induction items generalizing index seen with
  | nil =>
    rw [inspectItems, checkItems]
    exact follows_pure rfl
  | cons item rest ih =>
    have hrest := ih fun node hnode => hitems node (List.mem_cons_of_mem _ hnode)
    cases item with
    | object node =>
      rw [inspectItems, checkItems, List.append_assoc]
      refine (hitems node (by simp) _).bind ((follows_raise _).bind ?_)
      rw [← List.append_nil (g.checkItems ..)]
      exact (hrest _ _).bind (follows_pure (by simp))
    | _ =>
      rw [inspectItems, checkItems]
      · refine (follows_raise _).bind ?_
        rw [← List.append_nil (g.checkItems ..)]
        exact (hrest _ _).bind (follows_pure (by simp))
      all_goals simp

/-- The nodes inside a value are inspected as they are checked. -/
def InspectsBelow (g : Grammar κ) (value : Value) : Prop :=
  ∀ sub : Fields, sizeOf (Value.object sub) ≤ sizeOf value → ∀ kind location,
    Follows [] (g.inspect kind location (.object sub)) (g.check kind location (.object sub))

theorem follows_inspectChild {rule : Rule κ} {value : Value} (hrule : rule.IsGuarded)
    (hrefusal : rule.refusal? value = none) (hbelow : g.InspectsBelow value) (location : String) :
    Follows [] (g.inspectChild location rule value) (g.childReport location rule value) := by
  rw [inspectChild, childReport]
  cases hchildren : rule.children with
  | none => exact follows_pure rfl
  | some below =>
    have hkinds := hrule.children (by simp [hchildren])
    obtain ⟨fields, rfl⟩ := Rule.isObject_of_refusal? hkinds hrefusal
    exact hbelow fields (Nat.le_refl _) below _

theorem follows_inspectElements {rule : Rule κ} {value : Value} (hrule : rule.IsGuarded)
    (hrefusal : rule.refusal? value = none) (hbelow : g.InspectsBelow value) (location : String) :
    Follows [] (g.inspectElements location rule value) (g.itemsReport location rule value) := by
  unfold inspectElements itemsReport
  cases hitems : rule.items with
  | none => exact follows_pure rfl
  | some below =>
    have hkinds := hrule.items (by simp [hitems])
    obtain ⟨items, rfl⟩ := Rule.isList_of_refusal? hkinds hrefusal
    refine follows_inspectItems (fun sub hsub => hbelow sub ?_ below) _ _ _ _ _
    have hitem := List.sizeOf_lt_of_mem hsub
    simp only [Value.list.sizeOf_spec]
    omega

theorem follows_inspectField {rule : Rule κ} {node : Fields} (hrule : rule.IsGuarded)
    (hbelow : (node.get rule.name).isNull = false → g.InspectsBelow (node.get rule.name))
    (location : String) :
    Follows [] (g.inspectField location node rule) (g.fieldReport location node rule) := by
  rw [inspectField, fieldReport]
  split
  next => exact follows_raise _
  next hnull =>
    have hvalue := hbelow (by simpa using hnull)
    unfold inspectValue valueReport
    cases hrefusal : rule.refusal? (node.get rule.name) with
    | some cause => exact follows_raise _
    | none =>
      dsimp only
      rw [List.append_assoc]
      refine (follows_raise _).bind ((follows_inspectChild hrule hrefusal hvalue location).bind ?_)
      rw [← List.append_nil (g.itemsReport ..)]
      exact (follows_inspectElements hrule hrefusal hvalue location).bind (follows_pure (by simp))

/-- With a guarded grammar the inspection of a node is what the report of its check says, however deep
the nodes below it nest. -/
theorem follows_inspect (hg : g.IsGuarded) (kind : κ) (location : String) (node : Fields) :
    Follows [] (g.inspect kind location (.object node)) (g.check kind location (.object node)) := by
  rw [inspect_object, check_object, List.append_assoc]
  refine (follows_each fun rule hrule => ?_).bind ((follows_raise _).bind ?_)
  · refine follows_inspectField (hg kind rule hrule) (fun hnull sub hsub below path => ?_) location
    -- The kinds of node refer to each other, so the recursion is over the document.
    have hsmaller := Fields.sizeOf_lt_of_get hnull hsub
    exact follows_inspect hg below path sub
  · exact follows_unknownKeys (by simp) g kind location node
termination_by sizeOf node

end Grammar

/-- The inspection of a document hands back, gathers and notes what the report of its check says. -/
theorem follows_inspectDocument (document : Value) :
    Inspecting.Follows [] (inspectDocument document) (checkDocument document) := by
  cases document with
  | object node => exact Grammar.follows_inspect programGrammar_isGuarded _ _ _
  | _ => exact Inspecting.follows_raise _

/-- What came of a document, by the report of its check. -/
theorem Source.readDocument_eq (path : Path) (document : Value) :
    readDocument path document =
      let report := checkDocument document
      match report.halt? with
      | some cause =>
        { notes := report.reached.warnings.map Warning.note
          outcome := throw (.breakdown (.ofHalt cause)) }
      | none =>
        let warned := report.warnings.map Warning.note
        if report.problems.isEmpty then
          { notes := warned, warnings := report.warnings, outcome := Program.ofDocument document }
        else
          { notes := warned ++ report.problems.map fun problem => ⟨.error, problem.text, .main⟩
            warnings := report.warnings
            outcome := throw (.invalid (.rejected path.text report.problems)) } := by
  have hleaves := follows_inspectDocument document {}
  rw [readDocument]
  change (match outcomeFrom (inspectDocument document) {} with
    | (.error cause, found) => _
    | (.ok problems, found) => _) = _
  generalize outcomeFrom (inspectDocument document) {} = ended at hleaves ⊢
  cases hleaves with
  | done hhalt => simp only [hhalt, List.nil_append]
  | halted hhalt warnings => simp only [hhalt, List.nil_append]

end Tabsmith
