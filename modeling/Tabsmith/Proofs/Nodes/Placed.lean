import Tabsmith.Proofs.Nodes.Agreement

/-!
Nodes by their addresses. An address leads from a node down to one below it, step by step; the node there
may be replaced by another one, and all else stays. What is said about a node depends on its kind, on the
path under which it is reported, and on its fields.
-/

namespace Tabsmith

/-- A step from a node to one below it: to the node in a field, or to an element of the list in a
field. -/
inductive NodeStep where
  | field (key : String)
  | item (key : String) (index : Nat)
deriving DecidableEq, Repr, Inhabited

/-- The field that a step leads through. -/
def NodeStep.key : NodeStep → String
  | field key => key
  | item key _ => key

/-- The steps from a node to one below it. -/
abbrev Address := List NodeStep

/-- A node with its kind and the path under which it is reported. -/
structure Placed where
  kind : NodeKind
  location : String
  fields : Fields
deriving Repr, Inhabited

namespace Placed

/-- The description of a program, as a node. -/
def root (fields : Fields) : Placed :=
  ⟨.program, rootLocation fields, fields⟩

/-- The same place with another node. -/
def withFields (node : Placed) (fields : Fields) : Placed :=
  { node with fields := fields }

/-- The report of the check of a node alone. -/
def report (node : Placed) : Report :=
  programGrammar.check node.kind node.location (.object node.fields)

/-- The node that a step leads to. -/
def below? (node : Placed) : NodeStep → Option Placed
  | .field key =>
    match List.lookup key node.kind.nodeFields, node.fields.get key with
    | some kind, .object sub => some ⟨kind, s!"{node.location}.{key}", sub⟩
    | _, _ => none
  | .item key index =>
    match List.lookup key node.kind.listFields, node.fields.get key with
    | some kind, .list items =>
      (items[index]?.bind Value.fields?).map fun sub =>
        ⟨kind, s!"{node.location}.{key}[{nodeLabel sub index}]", sub⟩
    | _, _ => none

/-- The node at an address. -/
def at? (node : Placed) : Address → Option Placed
  | [] => some node
  | step :: rest => (node.below? step).bind fun sub => sub.at? rest

/-- The fields of a node in which a step leads to another node. -/
def put (node : Placed) (step : NodeStep) (other : Fields) : Fields :=
  match step with
  | .field key => node.fields.set key (.object other)
  | .item key index =>
    match node.fields.get key with
    | .list items => node.fields.set key (.list (items.set index (.object other)))
    | _ => node.fields

/-- The fields of a node with another node at an address. -/
def replaceAt (node : Placed) (address : Address) (other : Fields) : Fields :=
  match address with
  | [] => other
  | step :: rest =>
    match node.below? step with
    | some sub => node.put step (sub.replaceAt rest other)
    | none => node.fields

end Placed

theorem nodeName?_congr {a b : Fields} (hname : a.get "name" = b.get "name") :
    nodeName? a = nodeName? b := by
  rw [nodeName?, nodeName?, hname]

theorem nodeLabel_congr {a b : Fields} (hname : nodeName? a = nodeName? b) (index : Nat) :
    nodeLabel a index = nodeLabel b index := by
  rw [nodeLabel, nodeLabel, hname]

/-! ## Setting a field that is there -/

theorem Fields.mem_keys_of_get {fields : Fields} {key : String} {value : Value}
    (hget : fields.get key = value) (hvalue : value ≠ .null) : key ∈ fields.map Prod.fst := by
  have hlookup := Fields.lookup_of_get hget hvalue
  by_contra hkey
  rw [List.lookup_eq_none_iff.2] at hlookup
  · cases hlookup
  · intro field hfield
    have hne : field.1 ≠ key := fun heq => hkey (heq ▸ List.mem_map_of_mem hfield)
    simpa using hne.symm

theorem Fields.keys_set {fields : Fields} {key : String} (hkey : key ∈ fields.map Prod.fst)
    (value : Value) : (fields.set key value).map Prod.fst = fields.map Prod.fst := by
  induction fields with
  | nil => cases hkey
  | cons field rest ih =>
    obtain ⟨k, v⟩ := field
    by_cases hsame : k = key
    · simp [Fields.set, hsame]
    · have hrest : key ∈ rest.map Prod.fst := by
        rcases List.mem_cons.1 hkey with heq | hrest
        · exact absurd heq.symm hsame
        · exact hrest
      simp [Fields.set, hsame, ih hrest]

theorem Fields.set_get_self {fields : Fields} {key : String} {value : Value}
    (hget : fields.get key = value) (hvalue : value ≠ .null) : fields.set key value = fields := by
  have hlookup := Fields.lookup_of_get hget hvalue
  induction fields with
  | nil => cases hlookup
  | cons field rest ih =>
    obtain ⟨k, v⟩ := field
    by_cases hsame : k = key
    · rw [List.lookup_cons, hsame] at hlookup
      simp only [BEq.rfl, Option.some.injEq] at hlookup
      simp [Fields.set, hsame, hlookup]
    · have hne : (key == k) = false := by simpa using Ne.symm hsame
      rw [List.lookup_cons, hne] at hlookup
      rw [Fields.set, if_neg hsame, ih (Fields.get_of_lookup hlookup) hlookup]

theorem Fields.get_set_self (fields : Fields) (key : String) (value : Value) :
    (fields.set key value).get key = value :=
  Fields.get_of_lookup (Fields.lookup_set_self fields key value)

theorem Fields.get_set_of_ne (fields : Fields) {key other : String} (hne : other ≠ key)
    (value : Value) : (fields.set key value).get other = fields.get other :=
  Fields.get_eq_of_lookup (Fields.lookup_set_of_ne fields hne value)

/-! ## Steps -/

namespace NodeKind

theorem lookup_eq_some_iff_mem_nodeFields {kind below : NodeKind} {key : String} :
    List.lookup key kind.nodeFields = some below ↔ (key, below) ∈ kind.nodeFields := by
  refine ⟨fun hlookup => ?_, fun hfield => (lookup_nodeField hfield).1⟩
  obtain ⟨first, last, heq, -⟩ := List.lookup_eq_some_iff.1 hlookup
  simp [heq]

theorem lookup_eq_some_iff_mem_listFields {kind below : NodeKind} {key : String} :
    List.lookup key kind.listFields = some below ↔ (key, below) ∈ kind.listFields := by
  refine ⟨fun hlookup => ?_, fun hfield => (lookup_listField hfield).2⟩
  obtain ⟨first, last, heq, -⟩ := List.lookup_eq_some_iff.1 hlookup
  simp [heq]

theorem nodup_keys (kind : NodeKind) : kind.keys.Nodup := by
  cases kind <;> decide

theorem mem_rules_of_nodeField {kind below : NodeKind} {key : String}
    (hfield : (key, below) ∈ kind.nodeFields) :
    { name := key, kinds := [.object], children := some below } ∈ kind.rules := by
  obtain ⟨rule, hrule, hchildren⟩ := List.mem_filterMap.1 hfield
  obtain ⟨hnone, -⟩ | ⟨name, inner, rfl, -⟩ | ⟨name, inner, unique, rfl, -⟩ := rule_cases hrule
  · rw [hnone] at hchildren
    cases hchildren
  · cases hchildren
    exact hrule
  · cases hchildren

theorem exists_rule_of_listField {kind below : NodeKind} {key : String}
    (hfield : (key, below) ∈ kind.listFields) : ∃ unique,
      { name := key, kinds := [.list], items := some below, uniqueNames := unique } ∈ kind.rules := by
  obtain ⟨rule, hrule, hitems⟩ := List.mem_filterMap.1 hfield
  obtain ⟨-, hnone, -⟩ | ⟨name, inner, rfl, -⟩ | ⟨name, inner, unique, rfl, -⟩ := rule_cases hrule
  · rw [hnone] at hitems
    cases hitems
  · cases hitems
  · cases hitems
    exact ⟨unique, hrule⟩

end NodeKind

theorem Value.fields?_eq_some_iff {value : Value} {fields : Fields} :
    value.fields? = some fields ↔ value = .object fields := by
  cases value <;> simp [Value.fields?]

namespace Placed

variable {node sub : Placed}

theorem below?_field_eq_some_iff {key : String} : node.below? (.field key) = some sub ↔
    (key, sub.kind) ∈ node.kind.nodeFields ∧ node.fields.get key = .object sub.fields ∧
      sub.location = s!"{node.location}.{key}" := by
  rw [← NodeKind.lookup_eq_some_iff_mem_nodeFields, below?]
  constructor
  · intro hbelow
    split at hbelow
    next hkind hget =>
      obtain rfl := Option.some.inj hbelow
      exact ⟨hkind, hget, rfl⟩
    next => cases hbelow
  · rintro ⟨hkind, hget, hlocation⟩
    rw [hkind, hget]
    dsimp only
    rw [← hlocation]

theorem below?_item_eq_some_iff {key : String} {index : Nat} :
    node.below? (.item key index) = some sub ↔
      (key, sub.kind) ∈ node.kind.listFields ∧
      (∃ items, node.fields.get key = .list items ∧ items[index]? = some (.object sub.fields)) ∧
      sub.location = s!"{node.location}.{key}[{nodeLabel sub.fields index}]" := by
  rw [← NodeKind.lookup_eq_some_iff_mem_listFields, below?]
  constructor
  · intro hbelow
    split at hbelow
    next items hkind hget =>
      obtain ⟨fields, hitem, rfl⟩ := Option.map_eq_some_iff.1 hbelow
      obtain ⟨item, hitem, hfields⟩ := Option.bind_eq_some_iff.1 hitem
      rw [Value.fields?_eq_some_iff.1 hfields] at hitem
      exact ⟨hkind, ⟨items, hget, hitem⟩, rfl⟩
    next => cases hbelow
  · rintro ⟨hkind, ⟨items, hget, hitem⟩, hlocation⟩
    rw [hkind, hget]
    dsimp only
    rw [hitem, Option.bind_some, Value.fields?, Option.map_some, ← hlocation]

/-- No step leads through the name of a node. -/
theorem get_name_put {step : NodeStep} (hbelow : node.below? step = some sub)
    (other : Fields) : (node.put step other).get "name" = node.fields.get "name" := by
  have hkey : ∀ key, ((key, sub.kind) ∈ node.kind.nodeFields ∨
      (key, sub.kind) ∈ node.kind.listFields) → "name" ≠ key := by
    rintro _ hfield rfl
    have hnone : ∀ kind : NodeKind, List.lookup "name" kind.nodeFields = none ∧
        List.lookup "name" kind.listFields = none := by
      intro kind
      cases kind <;> decide
    rcases hfield with hfield | hfield
    · cases (hnone node.kind).1.symm.trans (NodeKind.lookup_nodeField hfield).1
    · cases (hnone node.kind).2.symm.trans (NodeKind.lookup_listField hfield).2
  cases step with
  | field key =>
    exact Fields.get_set_of_ne _ (hkey key (.inl (below?_field_eq_some_iff.1 hbelow).1)) _
  | item key index =>
    obtain ⟨hfield, ⟨items, hget, -⟩, -⟩ := below?_item_eq_some_iff.1 hbelow
    rw [put, hget]
    exact Fields.get_set_of_ne _ (hkey key (.inr hfield)) _

/-- A node of the same name at an address leaves the nodes above it their names. -/
theorem get_name_replaceAt {node target : Placed} {address : Address} {other : Fields}
    (hat : node.at? address = some target) (hname : other.get "name" = target.fields.get "name") :
    (node.replaceAt address other).get "name" = node.fields.get "name" := by
  cases address with
  | nil =>
    obtain rfl := Option.some.inj hat
    exact hname
  | cons step rest =>
    obtain ⟨sub, hbelow, -⟩ := Option.bind_eq_some_iff.1 hat
    rw [replaceAt, hbelow]
    exact get_name_put hbelow _

/-- The step leads to the node that was put there. -/
theorem below?_put {step : NodeStep} {other : Fields} (hbelow : node.below? step = some sub)
    (hname : nodeName? other = nodeName? sub.fields) :
    (node.withFields (node.put step other)).below? step = some (sub.withFields other) := by
  cases step with
  | field key =>
    obtain ⟨hfield, -, hlocation⟩ := below?_field_eq_some_iff.1 hbelow
    exact below?_field_eq_some_iff.2 ⟨hfield, Fields.get_set_self _ key _, hlocation⟩
  | item key index =>
    obtain ⟨hfield, ⟨items, hget, hitem⟩, hlocation⟩ := below?_item_eq_some_iff.1 hbelow
    obtain ⟨hindex, -⟩ := List.getElem?_eq_some_iff.1 hitem
    refine below?_item_eq_some_iff.2 ⟨hfield, ⟨items.set index (.object other), ?_, ?_⟩, ?_⟩
    · rw [put, hget]
      exact Fields.get_set_self _ key _
    · rw [List.getElem?_set_self hindex]
      rfl
    · rw [nodeLabel_congr (a := (sub.withFields other).fields) hname]
      exact hlocation

/-- The address leads to the node that took the place, if its name is the one of the node before. -/
theorem at?_replaceAt {node target : Placed} {address : Address} {other : Fields}
    (hat : node.at? address = some target) (hname : other.get "name" = target.fields.get "name") :
    (node.withFields (node.replaceAt address other)).at? address = some (target.withFields other) := by
  induction address generalizing node with
  | nil =>
    obtain rfl := Option.some.inj hat
    rfl
  | cons step rest ih =>
    obtain ⟨sub, hbelow, hrest⟩ := Option.bind_eq_some_iff.1 hat
    rw [replaceAt, hbelow]
    dsimp only
    rw [at?, below?_put hbelow (nodeName?_congr (get_name_replaceAt hrest hname)), Option.bind_some]
    exact ih hrest

theorem put_self {step : NodeStep} (hbelow : node.below? step = some sub) :
    node.put step sub.fields = node.fields := by
  cases step with
  | field key =>
    obtain ⟨-, hget, -⟩ := below?_field_eq_some_iff.1 hbelow
    exact Fields.set_get_self hget (by simp)
  | item key index =>
    obtain ⟨-, ⟨items, hget, hitem⟩, -⟩ := below?_item_eq_some_iff.1 hbelow
    obtain ⟨hindex, hitem⟩ := List.getElem?_eq_some_iff.1 hitem
    rw [put, hget]
    dsimp only
    rw [← hitem, List.set_getElem_self]
    exact Fields.set_get_self hget (by simp)

/-- A node that takes its own place changes nothing. -/
theorem replaceAt_self {node target : Placed} {address : Address}
    (hat : node.at? address = some target) :
    node.replaceAt address target.fields = node.fields := by
  induction address generalizing node with
  | nil =>
    obtain rfl := Option.some.inj hat
    rfl
  | cons step rest ih =>
    obtain ⟨sub, hbelow, hrest⟩ := Option.bind_eq_some_iff.1 hat
    rw [replaceAt, hbelow]
    dsimp only
    rw [ih hrest, put_self hbelow]

end Placed

end Tabsmith
