import Mathlib.Data.List.Forall2
import Tabsmith.Proofs.Nodes

/-!
Nodes that agree in all fields that their kind knows. The check reads nothing else of a node, so two such
nodes have the same problems; what they have besides shows in warnings only.
-/

namespace Tabsmith

/-! ## Reports without their warnings -/

namespace Report

/-- What a check comes upon besides unknown keys. -/
def withoutWarnings (report : Report) : Report :=
  report.filter fun observation => observation.warning?.isNone

@[simp] theorem withoutWarnings_append (a b : Report) :
    withoutWarnings (a ++ b) = a.withoutWarnings ++ b.withoutWarnings := by
  simp [withoutWarnings]

theorem withoutWarnings_flatMap {α : Type} (f : α → Report) (xs : List α) :
    withoutWarnings (xs.flatMap f) = xs.flatMap fun x => (f x).withoutWarnings := by
  simp [withoutWarnings, List.filter_flatMap]

@[simp] theorem withoutWarnings_ofProblems (problems : List Problem) :
    withoutWarnings (ofProblems problems) = ofProblems problems := by
  simp [withoutWarnings, ofProblems, Observation.warning?]

@[simp] theorem withoutWarnings_map_warning (warnings : List Warning) :
    withoutWarnings (warnings.map .warning) = [] := by
  simp [withoutWarnings, Observation.warning?]

theorem problems_withoutWarnings (report : Report) :
    report.withoutWarnings.problems = report.problems := by
  rw [withoutWarnings, problems, problems, List.filterMap_filter]
  refine List.filterMap_congr fun observation _ => ?_
  cases observation <;> rfl

theorem halt?_withoutWarnings (report : Report) : report.withoutWarnings.halt? = report.halt? := by
  unfold withoutWarnings halt?
  induction report with
  | nil => rfl
  | cons observation rest ih =>
    cases observation with
    | warning w => exact ih
    | _ => rw [List.filter_cons_of_pos rfl, List.findSome?_cons, List.findSome?_cons, ih]

end Report

/-! ## Agreement -/

/-- Two values are nodes that are related, or they are one value that is no node. -/
inductive NodeAgrees (R : Fields → Fields → Prop) : Value → Value → Prop
  | same {value : Value} (hvalue : ∀ fields, value ≠ .object fields) : NodeAgrees R value value
  | node {a b : Fields} (hnodes : R a b) : NodeAgrees R (.object a) (.object b)

/-- Two values are lists whose elements agree one by one, or they are one value that is no list. -/
inductive ListAgrees (R : Fields → Fields → Prop) : Value → Value → Prop
  | same {value : Value} (hvalue : ∀ items, value ≠ .list items) : ListAgrees R value value
  | list {items others : List Value} (hitems : List.Forall₂ (NodeAgrees R) items others) :
      ListAgrees R (.list items) (.list others)

theorem NodeAgrees.refl {R : Fields → Fields → Prop} (hR : ∀ node, R node node) (value : Value) :
    NodeAgrees R value value := by
  cases value with
  | object node => exact .node (hR node)
  | _ => exact .same (by simp)

theorem ListAgrees.refl {R : Fields → Fields → Prop} (hR : ∀ node, R node node) (value : Value) :
    ListAgrees R value value := by
  cases value with
  | list items => exact .list (List.forall₂_same.2 fun item _ => NodeAgrees.refl hR item)
  | _ => exact .same (by simp)

/-- Related nodes of a kind agree in all fields that the kind knows: what stands there is the same, up to
nodes that are related again. Other fields, and the order of all, are free. -/
structure IsAgreement (N : NodeKind → Fields → Fields → Prop) : Prop where
  plain : ∀ {kind a b key}, N kind a b → key ∈ kind.plainKeys → a.get key = b.get key
  node : ∀ {kind a b key below}, N kind a b → (key, below) ∈ kind.nodeFields →
    NodeAgrees (N below) (a.get key) (b.get key)
  list : ∀ {kind a b key below}, N kind a b → (key, below) ∈ kind.listFields →
    ListAgrees (N below) (a.get key) (b.get key)

/-- An agreement of nodes can be had of those nodes only in which all nodes of one kind have a
property. -/
theorem IsAgreement.restrict {N : NodeKind → Fields → Fields → Prop} (hN : IsAgreement N)
    (inner : NodeKind) (P : Fields → Prop) :
    IsAgreement fun kind a b => N kind a b ∧ ∀ part, Within kind a inner part → P part where
  plain := fun hnodes hplain => hN.plain hnodes.1 hplain
  node := by
    rintro kind a b key below ⟨hnodes, hall⟩ hfield
    have hagrees := hN.node hnodes hfield
    generalize hv : a.get key = v at hagrees ⊢
    generalize b.get key = w at hagrees ⊢
    cases hagrees with
    | same hvalue => exact .same hvalue
    | node hbelow => exact .node ⟨hbelow, fun part hwithin => hall part (.node hfield hv hwithin)⟩
  list := by
    rintro kind a b key below ⟨hnodes, hall⟩ hfield
    have hagrees := hN.list hnodes hfield
    generalize hv : a.get key = v at hagrees ⊢
    generalize b.get key = w at hagrees ⊢
    cases hagrees with
    | same hvalue => exact .same hvalue
    | @list items others hitems =>
      refine .list (((List.forall₂_and_left _ _).2 ⟨fun item hitem => hitem, hitems⟩).imp ?_)
      rintro item other ⟨hitem, hagrees⟩
      cases hagrees with
      | same hvalue => exact .same hvalue
      | node hbelow =>
        have hsub := Fields.mem_nodes.2 ⟨items, hv, hitem⟩
        exact .node ⟨hbelow, fun part hwithin => hall part (.list hfield hsub hwithin)⟩

theorem Fields.sizeOf_get_lt (node : Fields) (key : String) :
    sizeOf (node.get key) < sizeOf (Value.object node) := by
  rw [Fields.get, Value.object.sizeOf_spec]
  cases hlookup : List.lookup key node with
  | none =>
    have hpos : 0 < sizeOf node := by
      cases node with
      | nil => simp
      | cons field rest =>
        rw [List.cons.sizeOf_spec]
        omega
    simp only [Option.getD_none, Value.null.sizeOf_spec]
    omega
  | some value =>
    have hlt := Fields.sizeOf_lt_of_lookup hlookup
    simp only [Option.getD_some]
    omega

/-! ## The check of nodes that agree -/

namespace Grammar

variable {g : Grammar NodeKind} {location : String} {node : Fields}

theorem fieldReport_node {name : String} {below : NodeKind} {fields : Fields}
    (hget : node.get name = .object fields) : g.fieldReport location node
      { name := name, kinds := [.object], children := some below } =
        g.check below s!"{location}.{name}" (.object fields) := by
  simp [fieldReport, hget, Value.isNull, valueReport, Rule.refusal?, Kind.holds, Condition.causes,
    childReport, itemsReport, Report.ofProblems]

theorem fieldReport_list {name : String} {below : NodeKind} {unique : Bool} {items : List Value}
    (hget : node.get name = .list items) : g.fieldReport location node
      { name := name, kinds := [.list], items := some below, uniqueNames := unique } =
        g.checkItems below name unique location 0 [] items := by
  simp [fieldReport, hget, Value.isNull, valueReport, Rule.refusal?, Kind.holds, Condition.causes,
    childReport, itemsReport, Report.ofProblems]

theorem fieldReport_congr {a b : Fields} {rule : Rule NodeKind}
    (hget : a.get rule.name = b.get rule.name) :
    g.fieldReport location a rule = g.fieldReport location b rule := by
  rw [fieldReport, fieldReport, hget]

theorem withoutWarnings_checkItems {R : Fields → Fields → Prop} {kind : NodeKind}
    {items others : List Value} (hitems : List.Forall₂ (NodeAgrees R) items others)
    (hR : ∀ a b, .object a ∈ items → R a b → nodeName? a = nodeName? b ∧ ∀ location,
      (g.check kind location (.object a)).withoutWarnings =
        (g.check kind location (.object b)).withoutWarnings)
    (field : String) (unique : Bool) (location : String) (index : Nat) (seen : List String) :
    (g.checkItems kind field unique location index seen items).withoutWarnings =
      (g.checkItems kind field unique location index seen others).withoutWarnings := by
  induction hitems generalizing index seen with
  | nil => rfl
  | @cons v w items others hhead _ ih =>
    have hrest := ih fun a b ha => hR a b (List.mem_cons_of_mem _ ha)
    cases hhead with
    | @node a b hnodes =>
      obtain ⟨hname, hcheck⟩ := hR a b (List.mem_cons_self ..) hnodes
      rw [checkItems, checkItems, nodeLabel, nodeLabel, hname]
      simp only [Report.withoutWarnings_append, hcheck, hrest]
    | same hvalue =>
      rw [checkItems.eq_def, checkItems.eq_def]
      split
      next heq => cases heq
      next heq =>
        cases heq
        exact absurd rfl (hvalue _)
      next heq =>
        cases heq
        simp only [Report.withoutWarnings_append, hrest]

end Grammar

theorem IsAgreement.nodeName?_eq {N : NodeKind → Fields → Fields → Prop} (hN : IsAgreement N)
    {kind : NodeKind} {a b : Fields} (hnodes : N kind a b) (hname : "name" ∈ kind.plainKeys) :
    nodeName? a = nodeName? b := by
  rw [nodeName?, nodeName?, hN.plain hnodes hname]

theorem IsAgreement.demands_eq {N : NodeKind → Fields → Fields → Prop} (hN : IsAgreement N)
    {kind : NodeKind} {a b : Fields} (hnodes : N kind a b) (location : String) :
    programGrammar.demands kind location a = programGrammar.demands kind location b := by
  have hdemand : programGrammar.demand kind a = programGrammar.demand kind b := by
    cases kind with
    | hint =>
      change hintDemands a = hintDemands b
      unfold hintDemands
      rw [hN.plain hnodes (by decide : "type" ∈ NodeKind.plainKeys .hint),
        hN.plain hnodes (by decide : "values" ∈ NodeKind.plainKeys .hint),
        hN.plain hnodes (by decide : "command" ∈ NodeKind.plainKeys .hint)]
    | _ => rfl
  rw [Grammar.demands, Grammar.demands, hdemand]

/-- Nodes that agree have the same problems, at every depth and in the same order. -/
theorem IsAgreement.withoutWarnings_check {N : NodeKind → Fields → Fields → Prop}
    (hN : IsAgreement N) {kind : NodeKind} {a b : Fields} (hnodes : N kind a b) (location : String) :
    (programGrammar.check kind location (.object a)).withoutWarnings =
      (programGrammar.check kind location (.object b)).withoutWarnings := by
  simp only [Grammar.check_object, Report.withoutWarnings_append, Report.withoutWarnings_flatMap,
    Report.withoutWarnings_ofProblems, Report.withoutWarnings_map_warning, List.append_nil,
    hN.demands_eq hnodes]
  congr 1
  refine List.flatMap_congr fun rule hrule => ?_
  rcases NodeKind.rule_cases hrule with
    ⟨_, _, hplain⟩ | ⟨name, below, rfl, hfield⟩ | ⟨name, below, unique, rfl, hfield⟩
  · rw [Grammar.fieldReport_congr (hN.plain hnodes hplain)]
  · have hagrees := hN.node hnodes hfield
    generalize hv : a.get name = v at hagrees
    generalize hw : b.get name = w at hagrees
    cases hagrees with
    | same _ => rw [Grammar.fieldReport_congr (hv.trans hw.symm)]
    | @node sub other hbelow =>
      -- The kinds of node refer to each other, so the recursion is over the document.
      have hsmaller : sizeOf sub < sizeOf a := by
        have hlt := Fields.sizeOf_get_lt a name
        rw [hv, Value.object.sizeOf_spec, Value.object.sizeOf_spec] at hlt
        omega
      rw [Grammar.fieldReport_node hv, Grammar.fieldReport_node hw]
      exact hN.withoutWarnings_check hbelow _
  · have hagrees := hN.list hnodes hfield
    generalize hv : a.get name = v at hagrees
    generalize hw : b.get name = w at hagrees
    cases hagrees with
    | same _ => rw [Grammar.fieldReport_congr (hv.trans hw.symm)]
    | @list items others hitems =>
      rw [Grammar.fieldReport_list hv, Grammar.fieldReport_list hw]
      refine Grammar.withoutWarnings_checkItems hitems (fun sub other hsub hbelow => ?_) _ _ _ _ _
      have hsmaller : sizeOf sub < sizeOf a :=
        Fields.sizeOf_lt_of_mem_nodes (Fields.mem_nodes.2 ⟨items, hv, hsub⟩)
      exact ⟨hN.nodeName?_eq hbelow (NodeKind.name_mem_plainKeys hfield),
        fun location => hN.withoutWarnings_check hbelow location⟩
termination_by sizeOf a

theorem IsAgreement.problems_check {N : NodeKind → Fields → Fields → Prop} (hN : IsAgreement N)
    {kind : NodeKind} {a b : Fields} (hnodes : N kind a b) (location : String) :
    (programGrammar.check kind location (.object a)).problems =
      (programGrammar.check kind location (.object b)).problems := by
  rw [← Report.problems_withoutWarnings, hN.withoutWarnings_check hnodes,
    Report.problems_withoutWarnings]

/-- Documents that agree have the same problems in the same order, and their checks end alike. -/
theorem IsAgreement.checkDocument_eq {N : NodeKind → Fields → Fields → Prop} (hN : IsAgreement N)
    {a b : Fields} (hnodes : N .program a b) :
    (checkDocument (.object a)).problems = (checkDocument (.object b)).problems ∧
      (checkDocument (.object a)).halt? = (checkDocument (.object b)).halt? := by
  have hreports : (checkDocument (.object a)).withoutWarnings =
      (checkDocument (.object b)).withoutWarnings := by
    rw [checkDocument, checkDocument, rootLocation, rootLocation,
      hN.nodeName?_eq hnodes (by decide)]
    exact hN.withoutWarnings_check hnodes _
  constructor
  · rw [← Report.problems_withoutWarnings, hreports, Report.problems_withoutWarnings]
  · rw [← Report.halt?_withoutWarnings, hreports, Report.halt?_withoutWarnings]

end Tabsmith
