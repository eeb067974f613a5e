import Mathlib.Data.List.Nodup
import Tabsmith.Proofs.Acceptance.Small
import Tabsmith.Proofs.Inspection
import Tabsmith.Proofs.Nodes.Placed

/-!
Warnings. A document gets one for each key of each of its nodes that the kind of the node does not know; the
nodes come one after the other, each after those below it, and the keys of a node in document order. What is
noted in the log while the document is inspected is the same, in the same order.
-/

namespace Tabsmith

namespace Placed

variable {node sub : Placed} {step : NodeStep}

theorem sizeOf_lt_of_below? (hbelow : node.below? step = some sub) :
    sizeOf sub.fields < sizeOf node.fields := by
  cases step with
  | field key =>
    obtain ⟨-, hget, -⟩ := below?_field_eq_some_iff.1 hbelow
    exact Fields.sizeOf_lt_of_get (by rw [hget]; rfl) (Nat.le_of_eq (by rw [hget]))
  | item key index =>
    obtain ⟨-, ⟨items, hget, hitem⟩, -⟩ := below?_item_eq_some_iff.1 hbelow
    exact Fields.sizeOf_lt_of_mem_nodes (Fields.mem_nodes.2 ⟨items, hget, List.mem_of_getElem? hitem⟩)

/-- The steps that may lead on through a field: to the node in it, and to each element of the list in
it. -/
def stepsThrough (node : Placed) (key : String) : List NodeStep :=
  .field key :: match node.fields.get key with
    | .list items => (items.zipIdx.map Prod.snd).map (.item key)
    | _ => []

/-- The steps that may lead on from a node, through the fields in the order of their rules. -/
def steps (node : Placed) : List NodeStep :=
  node.kind.keys.flatMap node.stepsThrough

/-- A node and the nodes below it with their addresses, each after those below it. -/
def postorder (node : Placed) : List (Address × Placed) :=
  (node.steps.flatMap fun step =>
    match _h : node.below? step with
    | some sub => (postorder sub).map fun entry => (step :: entry.1, entry.2)
    | none => []) ++ [([], node)]
termination_by sizeOf node.fields
decreasing_by exact sizeOf_lt_of_below? _h

/-! ## The order of the nodes -/

theorem mem_steps_of_below? (hbelow : node.below? step = some sub) : step ∈ node.steps := by
  cases step with
  | field key =>
    obtain ⟨hfield, -⟩ := below?_field_eq_some_iff.1 hbelow
    exact List.mem_flatMap.2 ⟨key, NodeKind.mem_keys_of_fields (.inl hfield), List.mem_cons_self⟩
  | item key index =>
    obtain ⟨hfield, ⟨items, hget, hitem⟩, -⟩ := below?_item_eq_some_iff.1 hbelow
    refine List.mem_flatMap.2 ⟨key, NodeKind.mem_keys_of_fields (.inr hfield), ?_⟩
    rw [stepsThrough, hget]
    have hindex : (Value.object sub.fields, index) ∈ items.zipIdx := List.mem_zipIdx_iff_getElem?.2 hitem
    exact List.mem_cons_of_mem _ (List.mem_map_of_mem (List.mem_map_of_mem hindex))

theorem key_of_mem_stepsThrough {key : String} (hstep : step ∈ node.stepsThrough key) :
    step.key = key := by
  rw [stepsThrough] at hstep
  rcases List.mem_cons.1 hstep with rfl | hstep
  · rfl
  · split at hstep
    · obtain ⟨index, -, rfl⟩ := List.mem_map.1 hstep
      rfl
    · cases hstep

theorem nodup_stepsThrough (node : Placed) (key : String) : (node.stepsThrough key).Nodup := by
  rw [stepsThrough, List.nodup_cons]
  split
  next items _ =>
    refine ⟨by simp, List.Nodup.map (fun _ _ heq => (NodeStep.item.inj heq).2) ?_⟩
    rw [List.zipIdx_map_snd]
    exact List.nodup_range' ..
  next => simp

/-- No step is listed twice. -/
theorem nodup_steps (node : Placed) : node.steps.Nodup := by
  refine List.nodup_flatMap.2 ⟨fun key _ => node.nodup_stepsThrough key, ?_⟩
  refine node.kind.nodup_keys.imp fun hne => ?_
  intro step hfirst hsecond
  exact hne ((key_of_mem_stepsThrough hfirst).symm.trans (key_of_mem_stepsThrough hsecond))

/-- Each node stands in the list under its address, and under no other one. -/
theorem mem_postorder_iff {node target : Placed} {address : Address} :
    (address, target) ∈ node.postorder ↔ node.at? address = some target := by
  induction address generalizing node with
  | nil =>
    rw [postorder, List.mem_append, at?]
    constructor
    · rintro (hmem | hmem)
      · obtain ⟨step, -, hmem⟩ := List.mem_flatMap.1 hmem
        split at hmem
        · obtain ⟨entry, -, heq⟩ := List.mem_map.1 hmem
          cases heq
        · cases hmem
      · simp only [List.mem_singleton, Prod.mk.injEq, true_and] at hmem
        rw [hmem]
    · rintro ⟨⟩
      exact .inr List.mem_cons_self
  | cons step rest ih =>
    rw [postorder, List.mem_append, at?, Option.bind_eq_some_iff]
    constructor
    · rintro (hmem | hmem)
      · obtain ⟨other, -, hmem⟩ := List.mem_flatMap.1 hmem
        split at hmem
        next sub hbelow =>
          obtain ⟨entry, hentry, heq⟩ := List.mem_map.1 hmem
          cases heq
          exact ⟨sub, hbelow, ih.1 hentry⟩
        next => cases hmem
      · simp at hmem
    · rintro ⟨sub, hbelow, hrest⟩
      refine .inl (List.mem_flatMap.2 ⟨step, mem_steps_of_below? hbelow, ?_⟩)
      split
      next found hfound =>
        obtain rfl := Option.some.inj (hfound.symm.trans hbelow)
        exact List.mem_map.2 ⟨(rest, target), ih.2 hrest, rfl⟩
      next hnone => cases hnone.symm.trans hbelow

/-- What comes before a node in the list stands neither there nor above it. -/
theorem pairwise_postorder (node : Placed) :
    node.postorder.Pairwise fun a b => ¬ a.1 <+: b.1 := by
  rw [postorder, List.pairwise_append, List.pairwise_flatMap]
  refine ⟨⟨fun step _ => ?_, node.nodup_steps.imp fun hne => ?_⟩, List.pairwise_singleton .., ?_⟩
  · split
    next sub hbelow =>
      have := sizeOf_lt_of_below? hbelow
      refine List.pairwise_map.2 (sub.pairwise_postorder.imp fun hbefore hprefix => hbefore ?_)
      exact (List.cons_prefix_cons.1 hprefix).2
    next => exact .nil
  · intro a ha b hb hprefix
    split at ha
    · split at hb
      · obtain ⟨entry, -, rfl⟩ := List.mem_map.1 ha
        obtain ⟨other, -, rfl⟩ := List.mem_map.1 hb
        exact hne (List.cons_prefix_cons.1 hprefix).1
      · cases hb
    · cases ha
  · intro a ha b hb hprefix
    obtain ⟨step, -, ha⟩ := List.mem_flatMap.1 ha
    split at ha
    · obtain ⟨entry, -, rfl⟩ := List.mem_map.1 ha
      rw [List.mem_singleton.1 hb] at hprefix
      cases List.prefix_nil.1 hprefix
    · cases ha
termination_by sizeOf node.fields

end Placed

/-! ## The warnings of a check -/

namespace Grammar

variable {κ : Type} {g : Grammar κ}

/-- The check of a list warns of what the check of each node in it warns of. -/
theorem warnings_checkItems (kind : κ) (field : String) (unique : Bool) (location : String) (index : Nat)
    (seen : List String) (items : List Value) :
    (g.checkItems kind field unique location index seen items).warnings =
      (items.zipIdx index).flatMap fun item => item.1.fields?.elim [] fun sub =>
        (g.check kind s!"{location}.{field}[{nodeLabel sub item.2}]" (.object sub)).warnings := by
  induction items generalizing index seen with
  | nil =>
    rw [checkItems]
    rfl
  | cons item rest ih =>
    rw [List.zipIdx_cons, List.flatMap_cons]
    cases item with
    | object node =>
      rw [checkItems, Report.warnings_append, Report.warnings_append, Report.warnings_ofProblems,
        List.append_nil, ih]
      rfl
    | _ =>
      rw [checkItems, Report.warnings_append, Report.warnings_ofProblems, ih]
      · rfl
      all_goals simp

/-- A value of the wrong kind is not looked into. -/
theorem warnings_fieldReport_of_refused {rule : Rule κ} {kind : Kind} (hkinds : rule.kinds = [kind])
    {node : Fields} (hvalue : kind.holds (node.get rule.name) = false) (location : String) :
    (g.fieldReport location node rule).warnings = [] := by
  have hrefused : rule.refusal? (node.get rule.name) = some (.kind rule.kinds (node.get rule.name)) := by
    rw [Rule.refusal?, if_pos (by simp [hkinds, hvalue])]
  rw [fieldReport, valueReport, hrefused]
  split <;> exact Report.warnings_ofProblems _

end Grammar

namespace Placed

/-- The warnings on a node itself: one for each key that its kind does not know, in the order of the
keys. -/
def unknownKeys (node : Placed) : List Warning :=
  (node.fields.filter fun field => !node.kind.keys.contains field.1).map fun field =>
    ⟨node.location, field.1, Text.closest? field.1 node.kind.keys⟩

/-- The warnings on what a step leads to, if it leads to a node. -/
def warningsBelow (node : Placed) (step : NodeStep) : List Warning :=
  (node.below? step).elim [] fun sub => sub.report.warnings

theorem warningsBelow_field_of_none {node : Placed} {key : String}
    (hlookup : List.lookup key node.kind.nodeFields = none) : node.warningsBelow (.field key) = [] := by
  rw [warningsBelow, below?, hlookup]
  rfl

theorem warningsBelow_item_of_none {node : Placed} {key : String}
    (hlookup : List.lookup key node.kind.listFields = none) (index : Nat) :
    node.warningsBelow (.item key index) = [] := by
  rw [warningsBelow, below?, hlookup]
  rfl

theorem warnings_fieldReport_of_plain {node : Placed} {rule : Rule NodeKind} (hchildren : rule.children = none)
    (hitems : rule.items = none) (hplain : rule.name ∈ node.kind.plainKeys) :
    (programGrammar.fieldReport node.location node.fields rule).warnings =
      (node.stepsThrough rule.name).flatMap node.warningsBelow := by
  have hnone : (programGrammar.fieldReport node.location node.fields rule).warnings = [] := by
    unfold Grammar.fieldReport Grammar.valueReport Grammar.childReport Grammar.itemsReport
    rw [hchildren, hitems]
    split
    · exact Report.warnings_ofProblems _
    · split <;> simp
  rw [hnone]
  refine (List.flatMap_eq_nil_iff.2 fun step hstep => ?_).symm
  rw [← key_of_mem_stepsThrough hstep] at hplain
  obtain ⟨hnonode, hnolist⟩ := NodeKind.lookup_plainKey hplain
  cases step with
  | field key => exact warningsBelow_field_of_none hnonode
  | item key index => exact warningsBelow_item_of_none hnolist index

theorem warnings_fieldReport_of_node {node : Placed} {name : String} {below : NodeKind}
    (hfield : (name, below) ∈ node.kind.nodeFields) :
    (programGrammar.fieldReport node.location node.fields
      { name := name, kinds := [.object], children := some below }).warnings =
      (node.stepsThrough name).flatMap node.warningsBelow := by
  obtain ⟨hlookup, hnolist⟩ := NodeKind.lookup_nodeField hfield
  have hitems : ∀ indices : List Nat,
      (indices.map (NodeStep.item name)).flatMap node.warningsBelow = [] := by
    intro indices
    rw [List.flatMap_map]
    exact List.flatMap_eq_nil_iff.2 fun index _ => warningsBelow_item_of_none hnolist index
  rw [stepsThrough, List.flatMap_cons]
  cases hget : node.fields.get name with
  | object sub =>
    rw [Grammar.fieldReport_node hget]
    simp [warningsBelow, below?, hlookup, hget, report]
  | list items =>
    rw [Grammar.warnings_fieldReport_of_refused rfl (by rw [hget]; rfl), hitems, List.append_nil]
    simp [warningsBelow, below?, hget]
  | _ =>
    rw [Grammar.warnings_fieldReport_of_refused rfl (by rw [hget]; rfl)]
    simp [warningsBelow, below?, hget]

theorem warnings_fieldReport_of_list {node : Placed} {name : String} {below : NodeKind} {unique : Bool}
    (hfield : (name, below) ∈ node.kind.listFields) :
    (programGrammar.fieldReport node.location node.fields
      { name := name, kinds := [.list], items := some below, uniqueNames := unique }).warnings =
      (node.stepsThrough name).flatMap node.warningsBelow := by
  obtain ⟨hnonode, hlookup⟩ := NodeKind.lookup_listField hfield
  rw [stepsThrough, List.flatMap_cons, warningsBelow_field_of_none hnonode, List.nil_append]
  cases hget : node.fields.get name with
  | list items =>
    rw [Grammar.fieldReport_list hget, Grammar.warnings_checkItems, List.flatMap_map, List.flatMap_map]
    refine List.flatMap_congr fun item hitem => ?_
    have hindex : items[item.2]? = some item.1 := List.mem_zipIdx_iff_getElem?.1 hitem
    rw [warningsBelow, below?, hlookup, hget]
    dsimp only
    rw [hindex, Option.bind_some]
    cases item.1.fields? <;> rfl
  | _ => exact Grammar.warnings_fieldReport_of_refused rfl (by rw [hget]; rfl) _

/-- What the report on a field warns of is what the check of the nodes in it warns of. -/
theorem warnings_fieldReport {node : Placed} {rule : Rule NodeKind} (hrule : rule ∈ node.kind.rules) :
    (programGrammar.fieldReport node.location node.fields rule).warnings =
      (node.stepsThrough rule.name).flatMap node.warningsBelow := by
  obtain ⟨hchildren, hitems, hplain⟩ | ⟨name, below, rfl, hfield⟩ | ⟨name, below, unique, rfl, hfield⟩ :=
    NodeKind.rule_cases hrule
  · exact warnings_fieldReport_of_plain hchildren hitems hplain
  · exact warnings_fieldReport_of_node hfield
  · exact warnings_fieldReport_of_list hfield

/-- The check of a node warns of what it comes upon below, step by step, and then of the node itself. -/
theorem warnings_report (node : Placed) :
    node.report.warnings = node.steps.flatMap node.warningsBelow ++ node.unknownKeys := by
  rw [report, Grammar.check_object, Report.warnings_append, Report.warnings_append,
    Report.warnings_ofProblems, Report.warnings_map_warning, List.append_nil, steps, NodeKind.keys,
    List.flatMap_assoc, List.flatMap_map]
  congr 1
  rw [Report.warnings, List.filterMap_flatMap]
  exact List.flatMap_congr fun rule hrule => warnings_fieldReport hrule

theorem warnings_eq_postorder (node : Placed) :
    node.report.warnings = node.postorder.flatMap fun entry => entry.2.unknownKeys := by
  rw [warnings_report, postorder, List.flatMap_append, List.flatMap_assoc, List.flatMap_singleton]
  congr 1
  refine List.flatMap_congr fun step _ => ?_
  rw [warningsBelow]
  split
  next sub hbelow =>
    have := sizeOf_lt_of_below? hbelow
    rw [hbelow, Option.elim_some, List.flatMap_map, sub.warnings_eq_postorder]
  next hnone =>
    rw [hnone]
    rfl
termination_by sizeOf node.fields

end Placed

/-- The warnings that an inspection hands on are the ones that it noted in the log, in the same order. They
are those of the nodes of the document, one for each key that the kind of the node does not know. Every node
that an address leads to is among the nodes once and there are no others; none comes before a node below it.
The inspection of a document without problems comes to its end. -/
theorem warnings_of_inspection (node : Fields) :
    (∀ problems found, outcomeFrom (inspectDocument (.object node)) {} = (.ok problems, found) →
      found.notes = found.warnings.map Warning.note ∧
      ∃ nodes : List (Address × Placed),
        (found.warnings = nodes.flatMap fun entry =>
          (entry.2.fields.filter fun field => !entry.2.kind.keys.contains field.1).map fun field =>
            ⟨entry.2.location, field.1, Text.closest? field.1 entry.2.kind.keys⟩) ∧
        (∀ address target, (address, target) ∈ nodes ↔ (Placed.root node).at? address = some target) ∧
        nodes.Pairwise fun first later => ¬ first.1 <+: later.1) ∧
    ((checkDocument (.object node)).problems = [] →
      ∃ found, outcomeFrom (inspectDocument (.object node)) {} = (.ok [], found)) := by
  have hleaves := follows_inspectDocument (.object node) {}
  constructor
  · intro problems found hended
    rw [hended] at hleaves
    cases hleaves with
    | done hhalt =>
      refine ⟨rfl, (Placed.root node).postorder, ?_, fun _ _ => Placed.mem_postorder_iff,
        Placed.pairwise_postorder _⟩
      exact (List.nil_append _).trans (Placed.root node).warnings_eq_postorder
  · intro haccepted
    have hhalt := Report.halt?_eq_none (not_halts_checkDocument _) haccepted
    generalize outcomeFrom (inspectDocument (.object node)) {} = ended at hleaves ⊢
    cases hleaves with
    | done _ =>
      rw [haccepted, List.nil_append]
      exact ⟨_, rfl⟩
    | halted hhalted _ => cases hhalt.symm.trans hhalted

/-- An instance: an option and its hint have a key each that they do not know. The document is accepted, and
both keys are warned of. -/
theorem warnings_of_option_with_hint :
    let hint : Fields := [("type", .text "file"), ("sort", .bool true)]
    let option : Fields := [("name", .text "mode"), ("colour", .text "red"), ("completion", .object hint)]
    let node : Fields := [("name", .text "tool"), ("globalOptions", .list [.object option])]
    ∃ found, outcomeFrom (inspectDocument (.object node)) {} = (.ok [], found) ∧
      found.notes = found.warnings.map Warning.note ∧
      ⟨"tool.globalOptions[mode].completion", "sort", none⟩ ∈ found.warnings ∧
      ⟨"tool.globalOptions[mode]", "colour", none⟩ ∈ found.warnings := by
  intro hint option node
  have hhint : IsHint hint :=
    ⟨⟨.file, rfl⟩, .inl rfl, .inl rfl, .inl rfl, .inl rfl, by simp [hint, Fields.get, HintKind.name],
      by simp [hint, Fields.get, HintKind.name]⟩
  have hoption : IsOption option :=
    ⟨⟨"mode", rfl, by decide⟩, .inl rfl, .inl rfl, .inl rfl, .inl rfl, .inl rfl, .inl rfl, .inl rfl,
      .inr ⟨hint, rfl, hhint⟩⟩
  have hnode : IsProgram node :=
    isProgram_of_options (by decide) (List.forall_mem_singleton.2 hoption) (by decide)
  obtain ⟨hwarnings, hends⟩ := warnings_of_inspection node
  obtain ⟨found, hended⟩ := hends (problems_checkDocument_eq_nil_iff.2 ⟨node, rfl, hnode⟩)
  obtain ⟨hnotes, nodes, hfound, hnodes, -⟩ := hwarnings [] found hended
  have hwarned : ∀ address target, (Placed.root node).at? address = some target →
      ∀ warning ∈ target.unknownKeys, warning ∈ found.warnings := by
    intro address target hat warning hwarning
    rw [hfound]
    exact List.mem_flatMap.2 ⟨(address, target), (hnodes address target).2 hat, hwarning⟩
  refine ⟨found, hended, hnotes, ?_, ?_⟩
  · exact hwarned [.item "globalOptions" 0, .field "completion"] _ rfl _ (by decide +kernel)
  · exact hwarned [.item "globalOptions" 0] _ rfl _ (by decide +kernel)

end Tabsmith
