import Mathlib.Data.List.Basic
import Tabsmith.Grammar.Check

/-!
What the check of a document says about a node, field by field, and when it has nothing against the
node. An absent field and one that holds `null` are the same to it.
-/

namespace Tabsmith

namespace Grammar

variable {κ : Type}

/-- The report on the node in a field that takes one. -/
def childReport (g : Grammar κ) (location : String) (rule : Rule κ) (value : Value) : Report :=
  match rule.children with
  | some below => g.check below s!"{location}.{rule.name}" value
  | none => []

/-- The report on the nodes in a field that takes a list of them. -/
def itemsReport (g : Grammar κ) (location : String) (rule : Rule κ) (value : Value) : Report :=
  match rule.items, value with
  | some below, .list items =>
    g.checkItems below rule.name rule.uniqueNames location 0 [] items
  | some _, value => strangerReport rule.name location value
  | none, _ => []

/-- The report on a value that is there: why it is refused, or else what its members have against
them. -/
def valueReport (g : Grammar κ) (location : String) (rule : Rule κ) (value : Value) : Report :=
  match rule.refusal? value with
  | some cause => Report.ofProblems [⟨location, rule.name, cause⟩]
  | none =>
    Report.ofProblems ((rule.condition.causes value).map fun cause => ⟨location, rule.name, cause⟩) ++
      g.childReport location rule value ++ g.itemsReport location rule value

/-- The report on one field of a node. -/
def fieldReport (g : Grammar κ) (location : String) (node : Fields) (rule : Rule κ) : Report :=
  if (node.get rule.name).isNull then
    Report.ofProblems (if rule.required then [⟨location, rule.name, .missing⟩] else [])
  else g.valueReport location rule (node.get rule.name)

/-- The report on a node: on its fields in the order of the rules, on what its kind demands of them
together, and on its unknown keys. -/
theorem check_object (g : Grammar κ) (kind : κ) (location : String) (node : Fields) :
    g.check kind location (.object node) =
      (g.rules kind).flatMap (g.fieldReport location node) ++
        Report.ofProblems (g.demands kind location node) ++
        (g.unknownKeys kind location node).map .warning := by
  rw [check]
  congr 2
  refine List.flatMap_congr fun rule _ => ?_
  split
  next hlookup => simp [fieldReport, Fields.get, hlookup, Value.isNull]
  next hlookup => simp [fieldReport, Fields.get, hlookup, Value.isNull]
  next value hnull hlookup =>
    have hthere : value.isNull = false := by
      cases value <;> first | rfl | exact absurd rfl hnull
    have hfield : g.fieldReport location node rule = g.valueReport location rule value := by
      simp [fieldReport, Fields.get, hlookup, hthere]
    rw [hfield]
    split
    next cause hcause => simp only [valueReport, hcause]
    next hcause =>
      simp only [valueReport, hcause, childReport, itemsReport]
      congr 1
      cases rule.items with
      | none => rfl
      | some below => cases value <;> rfl

/-! ## Reports without problems -/

theorem problems_flatMap {α : Type} (f : α → Report) (xs : List α) :
    Report.problems (xs.flatMap f) = xs.flatMap fun x => (f x).problems :=
  List.filterMap_flatMap

theorem problems_map_warning (warnings : List Warning) :
    Report.problems (warnings.map .warning) = [] := by
  simp [Report.problems, Observation.problem?]

/-- Nothing is against a node if nothing is against its fields and its kind demands no more of
them. -/
theorem problems_check_object_eq_nil_iff {g : Grammar κ} {kind : κ} {location : String}
    {node : Fields} : (g.check kind location (.object node)).problems = [] ↔
      (∀ rule ∈ g.rules kind, (g.fieldReport location node rule).problems = []) ∧
        g.demand kind node = [] := by
  rw [check_object, Report.problems_append, Report.problems_append, problems_flatMap,
    Report.problems_ofProblems, problems_map_warning, List.append_nil, List.append_eq_nil_iff,
    List.flatMap_eq_nil_iff, demands, List.map_eq_nil_iff]

end Grammar

/-- What a rule asks of the value in its field, where it does not look at the nodes in it. -/
def Rule.Admits {κ : Type} (rule : Rule κ) (value : Value) : Prop :=
  if value.isNull then rule.required = false
  else rule.refusal? value = none ∧ rule.condition.causes value = []

namespace Grammar

variable {κ : Type}

/-- Nothing is against a field if its rule admits the value, and nothing is against the nodes in
it. -/
theorem problems_fieldReport_eq_nil_iff {g : Grammar κ} {location : String} {node : Fields}
    {rule : Rule κ} : (g.fieldReport location node rule).problems = [] ↔
      rule.Admits (node.get rule.name) ∧ ((node.get rule.name).isNull = false →
        rule.refusal? (node.get rule.name) = none →
          (g.childReport location rule (node.get rule.name)).problems = [] ∧
          (g.itemsReport location rule (node.get rule.name)).problems = []) := by
  rw [fieldReport, Rule.Admits]
  cases hnull : (node.get rule.name).isNull with
  | true => cases rule.required <;> simp
  | false =>
    rw [valueReport]
    cases hrefusal : rule.refusal? (node.get rule.name) with
    | some cause => simp
    | none => simp

/-- Names differ from each other and from those seen before. -/
def Fresh (seen names : List String) : Prop :=
  names.Nodup ∧ ∀ name ∈ names, name ∉ seen

theorem fresh_cons {seen names : List String} {name : String} :
    Fresh seen (name :: names) ↔ name ∉ seen ∧ Fresh (name :: seen) names := by
  rw [Fresh, Fresh, List.nodup_cons, List.forall_mem_cons]
  constructor
  · rintro ⟨⟨hname, hnames⟩, hseen, hrest⟩
    refine ⟨hseen, hnames, fun other hother hmem => ?_⟩
    rcases List.mem_cons.1 hmem with rfl | hmem
    · exact hname hother
    · exact hrest other hother hmem
  · rintro ⟨hseen, hnames, hrest⟩
    exact ⟨⟨fun hname => hrest name hname (by simp), hnames⟩, hseen,
      fun other hother hmem => hrest other hother (List.mem_cons_of_mem _ hmem)⟩

theorem fresh_names_cons {seen : List String} {node : Fields} {nodes : List Fields} :
    Fresh seen ((node :: nodes).filterMap nodeName?) ↔
      (∀ name, nodeName? node = some name → name ∉ seen) ∧
        Fresh ((nodeName? node).toList ++ seen) (nodes.filterMap nodeName?) := by
  rw [List.filterMap_cons]
  cases nodeName? node with
  | none => simp
  | some name => simp [fresh_cons]

/-- The elements of a list have nothing against them if they are nodes that have nothing against
them, and no two of them have one name where names have to differ. -/
theorem problems_checkItems_eq_nil_iff {g : Grammar κ} {kind : κ} {P : Fields → Prop}
    {items : List Value} (hP : ∀ node, .object node ∈ items → ∀ location,
      (g.check kind location (.object node)).problems = [] ↔ P node)
    (field : String) (unique : Bool) (location : String) (index : Nat) (seen : List String) :
    (g.checkItems kind field unique location index seen items).problems = [] ↔
      ∃ nodes : List Fields, items = nodes.map .object ∧ (∀ node ∈ nodes, P node) ∧
        (unique = true → Fresh seen (nodes.filterMap nodeName?)) := by
  induction items generalizing index seen with
  | nil =>
    rw [checkItems]
    simp [Report.problems, Fresh]
  | cons item rest ih =>
    cases item with
    | object node =>
      rw [checkItems, Report.problems_append, Report.problems_append, List.append_eq_nil_iff,
        List.append_eq_nil_iff, hP node (by simp), Report.problems_ofProblems,
        ih fun other hother => hP other (List.mem_cons_of_mem _ hother)]
      constructor
      · rintro ⟨⟨hnode, hduplicate⟩, others, rfl, hothers, hfresh⟩
        refine ⟨node :: others, rfl, by simpa using ⟨hnode, hothers⟩, fun hunique => ?_⟩
        refine fresh_names_cons.2 ⟨fun name hname hmem => ?_, hfresh hunique⟩
        simp [hname, hunique, hmem] at hduplicate
      · rintro ⟨nodes, hnodes, hall, hfresh⟩
        cases nodes with
        | nil => cases hnodes
        | cons first others =>
          obtain ⟨rfl, rfl⟩ : node = first ∧ rest = others.map .object := by simpa using hnodes
          rw [List.forall_mem_cons] at hall
          refine ⟨⟨hall.1, ?_⟩, others, rfl, hall.2,
            fun hunique => (fresh_names_cons.1 (hfresh hunique)).2⟩
          split
          next name hname =>
            rw [if_neg]
            intro hboth
            obtain ⟨hunique, hmem⟩ := Bool.and_eq_true_iff.1 hboth
            exact (fresh_names_cons.1 (hfresh hunique)).1 name hname (by simpa using hmem)
          next => rfl
    | _ =>
      rw [checkItems]
      · constructor
        · intro hnil
          simp at hnil
        · rintro ⟨nodes, hnodes, _⟩
          cases nodes <;> simp at hnodes
      · simp

end Grammar

end Tabsmith
