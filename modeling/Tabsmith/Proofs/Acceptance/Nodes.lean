import Tabsmith.Proofs.Acceptance.Fields

/-!
What the rules of a grammar ask of fields that hold nodes, one or a list of them.
-/

namespace Tabsmith

/-- The fields of an object. -/
def Value.fields? : Value → Option Fields
  | .object fields => some fields
  | _ => none

/-- The nodes of the list in a field. -/
def Fields.nodes (node : Fields) (key : String) : List Fields :=
  match node.get key with
  | .list items => items.filterMap Value.fields?
  | _ => []

/-- A field that is absent or `null`, or holds a list of nodes and of nothing else. -/
def Fields.HoldsNodes (node : Fields) (key : String) : Prop :=
  node.May key (· = .list ((node.nodes key).map .object))

/-- The names of the nodes in a field differ. -/
def Fields.NamesDiffer (node : Fields) (key : String) : Prop :=
  ((node.nodes key).filterMap nodeName?).Nodup

theorem Fields.lookup_of_get {node : Fields} {key : String} {value : Value}
    (hget : node.get key = value) (hvalue : value ≠ .null) : List.lookup key node = some value := by
  rw [Fields.get] at hget
  cases hlookup : List.lookup key node with
  | none => exact absurd (hget.symm.trans (by rw [hlookup, Option.getD_none])) hvalue
  | some found => rw [← hget, hlookup, Option.getD_some]

theorem Fields.get_eq_of_lookup {a b : Fields} {key : String}
    (hlookup : List.lookup key a = List.lookup key b) : a.get key = b.get key := by
  rw [Fields.get, Fields.get, hlookup]

theorem Fields.get_of_lookup {node : Fields} {key : String} {value : Value}
    (hlookup : List.lookup key node = some value) : node.get key = value := by
  rw [Fields.get, hlookup, Option.getD_some]

/-- A node inside the value of a field is smaller than the node with the field. -/
theorem Fields.sizeOf_lt_of_get {node sub : Fields} {key : String}
    (hthere : (node.get key).isNull = false)
    (hsub : sizeOf (Value.object sub) ≤ sizeOf (node.get key)) : sizeOf sub < sizeOf node := by
  have hlookup : List.lookup key node = some (node.get key) := by
    refine Fields.lookup_of_get rfl fun hget => ?_
    rw [hget] at hthere
    cases hthere
  have hvalue := Fields.sizeOf_lt_of_lookup hlookup
  simp only [Value.object.sizeOf_spec] at hsub
  omega

theorem Fields.mem_nodes {node sub : Fields} {key : String} :
    sub ∈ node.nodes key ↔ ∃ items, node.get key = .list items ∧ .object sub ∈ items := by
  have hobject : ∀ value : Value, value.fields? = some sub ↔ value = .object sub := by
    intro value
    cases value <;> simp [Value.fields?]
  unfold Fields.nodes
  cases node.get key <;> simp [List.mem_filterMap, hobject]

theorem Fields.sizeOf_lt_of_mem_nodes {node sub : Fields} {key : String}
    (hsub : sub ∈ node.nodes key) : sizeOf sub < sizeOf node := by
  obtain ⟨items, hget, hmem⟩ := Fields.mem_nodes.1 hsub
  have hlist := Fields.sizeOf_lt_of_lookup (Fields.lookup_of_get hget (by simp))
  have hitem := List.sizeOf_lt_of_mem hmem
  simp only [Value.list.sizeOf_spec, Value.object.sizeOf_spec] at hlist hitem
  omega

theorem Fields.nodes_of_get {node : Fields} {key : String} {nodes : List Fields}
    (hget : node.get key = .list (nodes.map .object)) : node.nodes key = nodes := by
  rw [Fields.nodes, hget]
  simp [Value.fields?, Function.comp_def]

namespace Grammar

variable {κ : Type} {g : Grammar κ} {location : String} {node : Fields} {P : Fields → Prop}

theorem problems_nodeField_eq_nil_iff {below : κ} (name : String)
    (hP : ∀ fields location, (g.check below location (.object fields)).problems = [] ↔ P fields) :
    (g.fieldReport location node
      { name := name, kinds := [.object], children := some below }).problems = [] ↔
      node.May name fun value => ∃ fields, value = .object fields ∧ P fields := by
  have hnil : Report.problems [] = [] := rfl
  rw [problems_fieldReport_eq_nil_iff, Fields.May, Rule.Admits]
  cases node.get name <;>
    simp [Value.isNull, Rule.refusal?, Kind.holds, Condition.causes, childReport, itemsReport, hP, hnil]

theorem problems_nodesField_eq_nil_iff {below : κ} (name : String) (unique : Bool)
    (hP : ∀ sub ∈ node.nodes name, ∀ location,
      (g.check below location (.object sub)).problems = [] ↔ P sub) :
    (g.fieldReport location node
      { name := name, kinds := [.list], items := some below, uniqueNames := unique }).problems = [] ↔
      node.HoldsNodes name ∧ (∀ sub ∈ node.nodes name, P sub) ∧
        (unique = true → node.NamesDiffer name) := by
  have hnil : Report.problems [] = [] := rfl
  rw [problems_fieldReport_eq_nil_iff, Fields.HoldsNodes, Fields.May, Rule.Admits, Fields.NamesDiffer]
  cases hget : node.get name with
  | null => simp [Fields.nodes, hget, Value.isNull]
  | list items =>
    have hbelow : ∀ sub, .object sub ∈ items → ∀ location,
        (g.check below location (.object sub)).problems = [] ↔ P sub :=
      fun sub hsub => hP sub (Fields.mem_nodes.2 ⟨items, hget, hsub⟩)
    have hitems := problems_checkItems_eq_nil_iff hbelow name unique location 0 []
    simp only [Value.isNull, Rule.refusal?, Kind.holds, Condition.causes, childReport, itemsReport,
      Bool.false_eq_true, if_false, List.any_cons, List.any_nil, Bool.or_false, Bool.not_true, and_self,
      hnil, hitems, true_and, forall_const, reduceCtorEq, Value.list.injEq, false_or]
    constructor
    · rintro ⟨nodes, rfl, hall, hnames⟩
      rw [Fields.nodes_of_get hget]
      exact ⟨rfl, hall, fun hunique => (hnames hunique).1⟩
    · rintro ⟨hnodes, hall, hnames⟩
      exact ⟨_, hnodes, hall, fun hunique => ⟨hnames hunique, by simp⟩⟩
  | _ => simp [Value.isNull, Rule.refusal?, Kind.holds, Condition.causes]

end Grammar

end Tabsmith
