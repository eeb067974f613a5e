import Tabsmith.Proofs.Acceptance.Nodes
import Tabsmith.Grammar.Program

/-!
The nodes of a program description, and where they stand in each other. A field holds a node, or a list
of nodes, or something that is looked at as it is; which of these it is, is said by the rule for it.
-/

namespace Tabsmith

namespace NodeKind

/-- The fields of a kind of node. -/
def keys (kind : NodeKind) : List String :=
  kind.rules.map (·.name)

/-- The fields in which no nodes are looked for. -/
def plainKeys (kind : NodeKind) : List String :=
  (kind.rules.filter fun rule => rule.children.isNone && rule.items.isNone).map (·.name)

/-- The fields that hold a node, with the kind of that node. -/
def nodeFields (kind : NodeKind) : List (String × NodeKind) :=
  kind.rules.filterMap fun rule => rule.children.map fun below => (rule.name, below)

/-- The fields that hold a list of nodes, with the kind of these nodes. -/
def listFields (kind : NodeKind) : List (String × NodeKind) :=
  kind.rules.filterMap fun rule => rule.items.map fun below => (rule.name, below)

/-- The rule of a field is one of three: it looks for no nodes, or for one and for nothing else, or for a
list of them. -/
theorem rule_cases {kind : NodeKind} {rule : Rule NodeKind} (hrule : rule ∈ kind.rules) :
    (rule.children = none ∧ rule.items = none ∧ rule.name ∈ kind.plainKeys) ∨
    (∃ name below, rule = { name := name, kinds := [.object], children := some below } ∧
      (name, below) ∈ kind.nodeFields) ∨
    ∃ name below unique, rule =
        { name := name, kinds := [.list], items := some below, uniqueNames := unique } ∧
      (name, below) ∈ kind.listFields := by
  revert rule
  cases kind <;>
    simp [rules, hintRules, optionRules, argumentRules, commandRules, programRules, plainKeys,
      nodeFields, listFields]

/-- All nodes of lists have names. -/
theorem name_mem_plainKeys {kind : NodeKind} {key : String} {below : NodeKind}
    (hlist : (key, below) ∈ kind.listFields) : "name" ∈ below.plainKeys := by
  have hall : ∀ field ∈ kind.listFields, "name" ∈ field.2.plainKeys := by
    cases kind <;> decide
  exact hall (key, below) hlist

theorem mem_keys_of_plainKeys {kind : NodeKind} {key : String} (hplain : key ∈ kind.plainKeys) :
    key ∈ kind.keys := by
  obtain ⟨rule, hrule, rfl⟩ := List.mem_map.1 hplain
  exact List.mem_map_of_mem (List.mem_filter.1 hrule).1

theorem mem_keys_of_fields {kind below : NodeKind} {key : String}
    (hfield : (key, below) ∈ kind.nodeFields ∨ (key, below) ∈ kind.listFields) : key ∈ kind.keys := by
  have hall : ∀ field ∈ kind.nodeFields ++ kind.listFields, field.1 ∈ kind.keys := by
    cases kind <;> decide
  exact hall (key, below) (List.mem_append.2 hfield)

/-! Each field is of one of the three sorts. -/

theorem lookup_plainKey {kind : NodeKind} {key : String} (hplain : key ∈ kind.plainKeys) :
    List.lookup key kind.nodeFields = none ∧ List.lookup key kind.listFields = none := by
  have hall : ∀ key ∈ kind.plainKeys,
      List.lookup key kind.nodeFields = none ∧ List.lookup key kind.listFields = none := by
    cases kind <;> decide
  exact hall key hplain

theorem lookup_nodeField {kind below : NodeKind} {key : String}
    (hfield : (key, below) ∈ kind.nodeFields) :
    List.lookup key kind.nodeFields = some below ∧ List.lookup key kind.listFields = none := by
  have hall : ∀ field ∈ kind.nodeFields, List.lookup field.1 kind.nodeFields = some field.2 ∧
      List.lookup field.1 kind.listFields = none := by
    cases kind <;> decide
  exact hall (key, below) hfield

theorem lookup_listField {kind below : NodeKind} {key : String}
    (hfield : (key, below) ∈ kind.listFields) :
    List.lookup key kind.nodeFields = none ∧ List.lookup key kind.listFields = some below := by
  have hall : ∀ field ∈ kind.listFields, List.lookup field.1 kind.nodeFields = none ∧
      List.lookup field.1 kind.listFields = some field.2 := by
    cases kind <;> decide
  exact hall (key, below) hfield

end NodeKind

/-- A node of a kind stands in another one: it is that node, or it stands in a node that one of the
fields holds. -/
inductive Within : NodeKind → Fields → NodeKind → Fields → Prop
  | self (kind : NodeKind) (node : Fields) : Within kind node kind node
  | node {kind below inner : NodeKind} {node sub part : Fields} {key : String}
      (hfield : (key, below) ∈ kind.nodeFields) (hsub : node.get key = .object sub)
      (hwithin : Within below sub inner part) : Within kind node inner part
  | list {kind below inner : NodeKind} {node sub part : Fields} {key : String}
      (hfield : (key, below) ∈ kind.listFields) (hsub : sub ∈ node.nodes key)
      (hwithin : Within below sub inner part) : Within kind node inner part

namespace Within

variable {inner : NodeKind} {node part : Fields}

theorem of_hint (hwithin : Within .hint node inner part) : inner = .hint := by
  cases hwithin with
  | self => rfl
  | node hfield => cases hfield
  | list hfield => cases hfield

/-- Below an option or an argument there are hints only. -/
theorem of_part {kind : NodeKind} (hwithin : Within kind node inner part)
    (hkind : kind = .option ∨ kind = .argument) (hinner : inner ≠ .hint) :
    inner = kind ∧ part = node := by
  have hnodes : ∀ field ∈ kind.nodeFields, field.2 = .hint := by
    rcases hkind with rfl | rfl <;> decide
  have hlists : kind.listFields = [] := by
    rcases hkind with rfl | rfl <;> decide
  cases hwithin with
  | self => exact ⟨rfl, rfl⟩
  | node hfield _ hbelow =>
    obtain rfl := hnodes _ hfield
    exact absurd hbelow.of_hint hinner
  | list hfield =>
    rw [hlists] at hfield
    cases hfield

theorem of_command (hwithin : Within .command node inner part) :
    inner = .command ∧ part = node ∨
    (∃ sub ∈ node.nodes "options", Within .option sub inner part) ∨
    (∃ sub ∈ node.nodes "arguments", Within .argument sub inner part) ∨
    ∃ sub ∈ node.nodes "subcommands", Within .command sub inner part := by
  cases hwithin with
  | self => exact .inl ⟨rfl, rfl⟩
  | node hfield => cases hfield
  | @list _ _ _ _ sub _ key hfield hsub hbelow =>
    have hlists : (key, _) ∈ [("options", NodeKind.option), ("arguments", .argument),
      ("subcommands", .command)] := hfield
    simp only [List.mem_cons, Prod.mk.injEq, List.not_mem_nil, or_false] at hlists
    rcases hlists with ⟨rfl, rfl⟩ | ⟨rfl, rfl⟩ | ⟨rfl, rfl⟩
    · exact .inr (.inl ⟨sub, hsub, hbelow⟩)
    · exact .inr (.inr (.inl ⟨sub, hsub, hbelow⟩))
    · exact .inr (.inr (.inr ⟨sub, hsub, hbelow⟩))

theorem of_program (hwithin : Within .program node inner part) :
    inner = .program ∧ part = node ∨
    (∃ sub ∈ node.nodes "commands", Within .command sub inner part) ∨
    ∃ sub ∈ node.nodes "globalOptions", Within .option sub inner part := by
  cases hwithin with
  | self => exact .inl ⟨rfl, rfl⟩
  | node hfield => cases hfield
  | @list _ _ _ _ sub _ key hfield hsub hbelow =>
    have hlists : (key, _) ∈ [("commands", NodeKind.command), ("globalOptions", .option)] := hfield
    simp only [List.mem_cons, Prod.mk.injEq, List.not_mem_nil, or_false] at hlists
    rcases hlists with ⟨rfl, rfl⟩ | ⟨rfl, rfl⟩
    · exact .inr (.inl ⟨sub, hsub, hbelow⟩)
    · exact .inr (.inr ⟨sub, hsub, hbelow⟩)

end Within

end Tabsmith
