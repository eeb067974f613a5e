import Tabsmith.Proofs.Acceptance.Halts
import Tabsmith.Proofs.Nodes.Placed

/-!
Problems are local. The report on a document is made of the reports on its nodes, each in a place of its
own: with another node of the same name in one place, what is said before and after it stays the same.
-/

namespace Tabsmith

/-! ## The report of a node with another value in a field -/

namespace Grammar

variable {kind : NodeKind} {key : String}

/-- What a kind demands of its fields together is not about the nodes below. -/
theorem demands_set (hfield : ∃ below, (key, below) ∈ kind.nodeFields ∨ (key, below) ∈ kind.listFields)
    (location : String) (fields : Fields) (value : Value) :
    programGrammar.demands kind location (fields.set key value) =
      programGrammar.demands kind location fields := by
  obtain ⟨below, hfield⟩ := hfield
  cases kind with
  | hint => rcases hfield with hfield | hfield <;> cases hfield
  | _ => rfl

theorem unknownKeys_congr {κ : Type} {g : Grammar κ} {kind : κ} {a b : Fields}
    (hkeys : a.map Prod.fst = b.map Prod.fst) (location : String) :
    g.unknownKeys kind location a = g.unknownKeys kind location b := by
  have hnames : ∀ node : Fields, g.unknownKeys kind location node =
      ((node.map Prod.fst).filter fun name => !((g.rules kind).map (·.name)).contains name).map
        fun name => ⟨location, name, Text.closest? name ((g.rules kind).map (·.name))⟩ := by
    intro node
    rw [unknownKeys, List.filter_map, List.map_map]
    rfl
  rw [hnames, hnames, hkeys]

/-- A field that holds nodes has a part of the report for itself. What is said before and after it does
not depend on what the field holds. -/
theorem exists_check_set {rule : Rule NodeKind} (hrule : rule ∈ kind.rules)
    (hfield : ∃ below, (rule.name, below) ∈ kind.nodeFields ∨ (rule.name, below) ∈ kind.listFields)
    {fields : Fields} (hkey : rule.name ∈ fields.map Prod.fst) (location : String) :
    ∃ before after : Report, ∀ value,
      programGrammar.check kind location (.object (fields.set rule.name value)) =
        before ++ programGrammar.fieldReport location (fields.set rule.name value) rule ++ after := by
  obtain ⟨first, last, hrules⟩ := List.append_of_mem hrule
  have hdistinct := kind.nodup_keys
  rw [NodeKind.keys, hrules, List.map_append, List.map_cons, List.nodup_append, List.nodup_cons] at hdistinct
  obtain ⟨-, ⟨hlast, -⟩, hfirst⟩ := hdistinct
  have hothers : ∀ other ∈ first ++ last, other.name ≠ rule.name := by
    intro other hother
    rcases List.mem_append.1 hother with hmem | hmem
    · exact hfirst _ (List.mem_map_of_mem hmem) _ List.mem_cons_self
    · exact fun heq => hlast (heq ▸ List.mem_map_of_mem hmem)
  have hsame : ∀ rules ⊆ first ++ last, ∀ value,
      rules.flatMap (programGrammar.fieldReport location (fields.set rule.name value)) =
        rules.flatMap (programGrammar.fieldReport location fields) := by
    intro rules hrules value
    refine List.flatMap_congr fun other hother => fieldReport_congr ?_
    exact Fields.get_set_of_ne _ (hothers other (hrules hother)) value
  refine ⟨first.flatMap (programGrammar.fieldReport location fields),
    last.flatMap (programGrammar.fieldReport location fields) ++
      Report.ofProblems (programGrammar.demands kind location fields) ++
      (programGrammar.unknownKeys kind location fields).map .warning, fun value => ?_⟩
  rw [check_object, demands_set hfield, unknownKeys_congr (Fields.keys_set hkey value)]
  change List.flatMap _ kind.rules ++ _ ++ _ = _
  rw [hrules, List.flatMap_append, List.flatMap_cons, hsame first (by simp), hsame last (by simp)]
  simp only [List.append_assoc]

/-- The check of a list says something about its first element, and goes on with the others. -/
theorem exists_checkItems_cons {κ : Type} (g : Grammar κ) (kind : κ) (field : String) (unique : Bool)
    (location : String) (index : Nat) (seen : List String) (item : Value) :
    ∃ (head : Report) (known : List String), ∀ rest,
      g.checkItems kind field unique location index seen (item :: rest) =
        head ++ g.checkItems kind field unique location (index + 1) known rest := by
  by_cases hnode : ∃ node, item = .object node
  · obtain ⟨node, rfl⟩ := hnode
    exact ⟨_, _, fun rest => by rw [checkItems]⟩
  · refine ⟨.ofProblems [⟨location, s!"{field}[{index}]", .element item⟩], seen, fun rest => ?_⟩
    rw [checkItems]
    exact fun node heq => hnode ⟨node, heq⟩

/-- An element of a list that is a node has a part of the report for itself. What is said before and after
it depends on its name only. -/
theorem exists_checkItems_set {κ : Type} (g : Grammar κ) (kind : κ) {items : List Value} {i : Nat}
    {sub : Fields} (hitem : items[i]? = some (.object sub)) (field : String) (unique : Bool)
    (location : String) (index : Nat) (seen : List String) :
    ∃ before after : Report, ∀ other, nodeName? other = nodeName? sub →
      g.checkItems kind field unique location index seen (items.set i (.object other)) =
        before ++ g.check kind s!"{location}.{field}[{nodeLabel sub (index + i)}]" (.object other) ++
          after := by
  induction items generalizing i index seen with
  | nil => cases hitem
  | cons item rest ih =>
    cases i with
    | zero =>
      refine ⟨[], .ofProblems ((nodeName? sub).elim [] fun name =>
          if unique && seen.contains name then [⟨location, field, .duplicate name⟩] else []) ++
        g.checkItems kind field unique location (index + 1) ((nodeName? sub).toList ++ seen) rest,
        fun other hname => ?_⟩
      rw [List.set_cons_zero, checkItems, hname, nodeLabel_congr hname, List.append_assoc]
      cases nodeName? sub <;> rfl
    | succ i =>
      rw [List.getElem?_cons_succ] at hitem
      have hindex : index + (i + 1) = index + 1 + i := by omega
      rw [hindex]
      obtain ⟨head, known, hcons⟩ := g.exists_checkItems_cons kind field unique location index seen item
      obtain ⟨before, after, hrest⟩ := ih hitem (index + 1) known
      refine ⟨head ++ before, after, fun other hname => ?_⟩
      rw [List.set_cons_succ, hcons, hrest other hname]
      simp only [List.append_assoc]

end Grammar

namespace Placed

/-- The node that a step leads to has a part of the report for itself. What is said before and after it
depends on its name only. -/
theorem exists_report_put {node sub : Placed} {step : NodeStep} (hbelow : node.below? step = some sub) :
    ∃ before after : Report, ∀ other, nodeName? other = nodeName? sub.fields →
      (node.withFields (node.put step other)).report =
        before ++ (sub.withFields other).report ++ after := by
  cases step with
  | field key =>
    obtain ⟨hfield, hget, hlocation⟩ := below?_field_eq_some_iff.1 hbelow
    obtain ⟨before, after, hcheck⟩ := Grammar.exists_check_set (NodeKind.mem_rules_of_nodeField hfield)
      ⟨sub.kind, .inl hfield⟩ (Fields.mem_keys_of_get hget (by simp)) node.location
    refine ⟨before, after, fun other _ => ?_⟩
    have hother := hcheck (.object other)
    rwa [Grammar.fieldReport_node (Fields.get_set_self _ key (.object other)), ← hlocation] at hother
  | item key index =>
    obtain ⟨hfield, ⟨items, hget, hitem⟩, hlocation⟩ := below?_item_eq_some_iff.1 hbelow
    obtain ⟨unique, hrule⟩ := NodeKind.exists_rule_of_listField hfield
    obtain ⟨before, after, hcheck⟩ := Grammar.exists_check_set hrule
      ⟨sub.kind, .inr hfield⟩ (Fields.mem_keys_of_get hget (by simp)) node.location
    obtain ⟨first, last, hitems⟩ := Grammar.exists_checkItems_set programGrammar sub.kind
      hitem key unique node.location 0 []
    refine ⟨before ++ first, last ++ after, fun other hname => ?_⟩
    have hother := hcheck (.list (items.set index (.object other)))
    rw [Grammar.fieldReport_list (Fields.get_set_self _ key _), hitems other hname, Nat.zero_add,
      ← hlocation] at hother
    rw [put, hget]
    refine hother.trans ?_
    simp only [List.append_assoc]
    rfl

/-- The node at an address has a part of the report for itself. -/
theorem exists_report_replaceAt {node target : Placed} {address : Address}
    (hat : node.at? address = some target) :
    ∃ before after : Report, ∀ other : Fields, other.get "name" = target.fields.get "name" →
      (node.withFields (node.replaceAt address other)).report =
        before ++ (target.withFields other).report ++ after := by
  induction address generalizing node with
  | nil =>
    obtain rfl := Option.some.inj hat
    exact ⟨[], [], fun other _ => (List.append_nil _).symm⟩
  | cons step rest ih =>
    obtain ⟨sub, hbelow, hrest⟩ := Option.bind_eq_some_iff.1 hat
    obtain ⟨before, after, hput⟩ := exists_report_put hbelow
    obtain ⟨first, last, hinner⟩ := ih hrest
    refine ⟨before ++ first, last ++ after, fun other hname => ?_⟩
    rw [replaceAt, hbelow]
    dsimp only
    rw [hput _ (nodeName?_congr (get_name_replaceAt hrest hname)), hinner other hname]
    simp only [List.append_assoc]

end Placed

theorem rootLocation_congr {a b : Fields} (hname : a.get "name" = b.get "name") :
    rootLocation a = rootLocation b := by
  rw [rootLocation, rootLocation, nodeName?_congr hname]

/-- Problems are local, and all of them are reported. Whatever stands at a place of a document where a node
stands, as long as it is an object of the same name: the problems of the document are those of this node,
checked alone under the same path, between others that are the same for all nodes in this place. So is
whether the check comes to its end. -/
theorem problems_with_node_replaced {root : Fields} {address : Address} {node : Placed}
    (hat : (Placed.root root).at? address = some node) :
    ∃ before after : List Problem,
      (checkDocument (.object root)).problems =
        before ++ (programGrammar.check node.kind node.location (.object node.fields)).problems ++ after ∧
      ∀ other : Fields, other.get "name" = node.fields.get "name" →
        let replaced := (Placed.root root).replaceAt address other
        let alone := programGrammar.check node.kind node.location (.object other)
        (Placed.root replaced).at? address = some (node.withFields other) ∧
          (checkDocument (.object replaced)).problems = before ++ alone.problems ++ after ∧
          ((checkDocument (.object replaced)).halt? = none ↔ alone.halt? = none ∧
            ∀ problem ∈ before ++ after, problem.cause.isUnwritable = false) := by
  obtain ⟨before, after, hreport⟩ := Placed.exists_report_replaceAt hat
  have hroot : ∀ other : Fields, other.get "name" = node.fields.get "name" →
      Placed.root ((Placed.root root).replaceAt address other) =
        (Placed.root root).withFields ((Placed.root root).replaceAt address other) := by
    intro other hname
    rw [Placed.root, rootLocation_congr (Placed.get_name_replaceAt hat hname)]
    rfl
  have hcheck : ∀ other : Fields, other.get "name" = node.fields.get "name" →
      checkDocument (.object ((Placed.root root).replaceAt address other)) =
        before ++ programGrammar.check node.kind node.location (.object other) ++ after := by
    intro other hname
    refine Eq.trans ?_ (hreport other hname)
    rw [← hroot other hname]
    rfl
  have hproblems : ∀ other : Fields, other.get "name" = node.fields.get "name" →
      (checkDocument (.object ((Placed.root root).replaceAt address other))).problems =
        before.problems ++ (programGrammar.check node.kind node.location (.object other)).problems ++
          after.problems := by
    intro other hname
    rw [hcheck other hname, Report.problems_append, Report.problems_append]
  refine ⟨before.problems, after.problems, ?_, fun other hname => ⟨?_, hproblems other hname, ?_⟩⟩
  · have hself := hproblems node.fields rfl
    rwa [Placed.replaceAt_self hat] at hself
  · rw [hroot other hname]
    exact Placed.at?_replaceAt hat hname
  · have halone := Grammar.not_halts_check programGrammar_isGuarded node.kind node.location other
    rw [Report.halt?_eq_none_iff (not_halts_checkDocument _), Report.halt?_eq_none_iff halone,
      hproblems other hname]
    simp only [List.forall_mem_append]
    tauto

/-- An instance: two options have one name, and the first one has a hint without values. With a hint of no
kind in its place, that problem gives way to another one. -/
theorem problems_with_hint_replaced :
    let hint : Fields := [("type", .text "static")]
    let other : Fields := [("type", .text "nope")]
    let option := fun hint : Fields => Value.object [("name", .text "mode"), ("completion", .object hint)]
    let root := fun hint : Fields =>
      [("name", Value.text "tool"), ("globalOptions", .list [option hint, .object [("name", .text "mode")]])]
    (Placed.root (root hint)).at? [.item "globalOptions" 0, .field "completion"] =
        some ⟨.hint, "tool.globalOptions[mode].completion", hint⟩ ∧
      ∃ before after : List Problem,
        (checkDocument (.object (root hint))).problems =
          before ++ [⟨"tool.globalOptions[mode].completion", "values", .noValues⟩] ++ after ∧
        (checkDocument (.object (root other))).problems =
          before ++ [⟨"tool.globalOptions[mode].completion", "type",
            .choice (.text "nope") (HintKind.all.map fun kind => .text kind.name)⟩] ++ after := by
  intro hint other option root
  have hat : (Placed.root (root hint)).at? [.item "globalOptions" 0, .field "completion"] =
      some ⟨.hint, "tool.globalOptions[mode].completion", hint⟩ := rfl
  obtain ⟨before, after, hroot, hother⟩ := problems_with_node_replaced hat
  refine ⟨hat, before, after, ?_, ?_⟩
  · rw [hroot, Grammar.check_object]
    rfl
  · have hreplaced := (hother other rfl).2.1
    rw [Grammar.check_object] at hreplaced
    exact hreplaced

end Tabsmith
