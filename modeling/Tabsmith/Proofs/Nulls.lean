import Tabsmith.Proofs.Acceptance.Small
import Tabsmith.Proofs.Nodes.Reading
import Tabsmith.Proofs.Reading.Nodes

/-!
Keys that are bound to `null`. To the check of a document `null` is the same as an absent key, and reading
a document takes it so in all places but one: an argument is required unless it says otherwise, and there
`null` says otherwise.
-/

namespace Tabsmith

/-! ## Documents without nulls -/

mutual

/-- A value without the keys that are bound to `null`, where it is a node or lists nodes: `children` is
the kind of node that an object is, and `items` the kind of the nodes in a list. A key that occurs twice
is bound to its first value. -/
def Value.withoutNulls (children items : Option NodeKind) : Value → Value
  | .object node =>
    match children with
    | some kind =>
      .object ((belowWithoutNulls kind node).filter fun field => !(Fields.get node field.1).isNull)
    | none => .object node
  | .list elements =>
    match items with
    | some kind => .list (elementsWithoutNulls kind elements)
    | none => .list elements
  | value => value

/-- The fields of a node of a kind, each without the keys that are bound to `null` in the nodes it
holds. -/
def belowWithoutNulls (kind : NodeKind) : List (String × Value) → List (String × Value)
  | [] => []
  | (key, value) :: rest =>
    (key, value.withoutNulls (List.lookup key kind.nodeFields) (List.lookup key kind.listFields)) ::
      belowWithoutNulls kind rest

/-- The elements of a list, taken for nodes of a kind. -/
def elementsWithoutNulls (kind : NodeKind) : List Value → List Value
  | [] => []
  | element :: rest => element.withoutNulls (some kind) none :: elementsWithoutNulls kind rest

end

/-- A node of a kind without the keys that are bound to `null`, in it and at every depth below it. -/
def Fields.withoutNulls (kind : NodeKind) (node : Fields) : Fields :=
  (belowWithoutNulls kind node).filter fun field => !(node.get field.1).isNull

theorem elementsWithoutNulls_eq_map (kind : NodeKind) (elements : List Value) :
    elementsWithoutNulls kind elements = elements.map (Value.withoutNulls (some kind) none) := by
  induction elements with
  | nil => rfl
  | cons element rest ih => rw [elementsWithoutNulls, ih, List.map_cons]

theorem lookup_filter_key (keep : String → Bool) (fields : Fields) (key : String) :
    List.lookup key (fields.filter fun field => keep field.1) =
      if keep key then List.lookup key fields else none := by
  induction fields with
  | nil => simp
  | cons field rest ih =>
    obtain ⟨name, value⟩ := field
    rw [List.filter_cons, List.lookup_cons]
    by_cases hkey : key = name
    · subst hkey
      cases hkeep : keep key with
      | true => simp
      | false =>
        rw [hkeep] at ih
        rw [if_neg Bool.false_ne_true, if_neg Bool.false_ne_true, ih, if_neg Bool.false_ne_true]
    · have hne : (key == name) = false := by simpa using hkey
      cases keep name with
      | true => rw [if_pos rfl, List.lookup_cons, hne, ih]
      | false => rw [if_neg Bool.false_ne_true, hne, ih]

theorem lookup_belowWithoutNulls (kind : NodeKind) (node : Fields) (key : String) :
    List.lookup key (belowWithoutNulls kind node) = (List.lookup key node).map fun value =>
      value.withoutNulls (List.lookup key kind.nodeFields) (List.lookup key kind.listFields) := by
  induction node with
  | nil => rfl
  | cons field rest ih =>
    obtain ⟨name, value⟩ := field
    rw [belowWithoutNulls, List.lookup_cons, List.lookup_cons]
    by_cases hkey : key = name
    · subst hkey
      simp
    · have hne : (key == name) = false := by simpa using hkey
      rw [hne, ih]

theorem Fields.lookup_withoutNulls (kind : NodeKind) (node : Fields) (key : String) :
    List.lookup key (node.withoutNulls kind) =
      if (node.get key).isNull then none
      else some ((node.get key).withoutNulls (List.lookup key kind.nodeFields)
        (List.lookup key kind.listFields)) := by
  rw [Fields.withoutNulls, lookup_filter_key fun name => !(node.get name).isNull,
    lookup_belowWithoutNulls, Fields.get]
  cases hlookup : List.lookup key node with
  | none => simp [Value.isNull]
  | some value => cases hnull : value.isNull <;> simp [hnull]

theorem Fields.get_withoutNulls (kind : NodeKind) (node : Fields) (key : String) :
    (node.withoutNulls kind).get key = (node.get key).withoutNulls (List.lookup key kind.nodeFields)
      (List.lookup key kind.listFields) := by
  rw [Fields.get, Fields.lookup_withoutNulls]
  cases node.get key <;> rfl

/-! ## A node and what is left of it -/

theorem Value.withoutNulls_none (value : Value) : value.withoutNulls none none = value := by
  cases value <;> rfl

theorem Value.agrees_withoutNulls (kind : NodeKind) (value : Value) :
    NodeAgrees (fun a b => b = Fields.withoutNulls kind a) value
      (value.withoutNulls (some kind) none) := by
  cases value with
  | object node => exact .node rfl
  | _ => exact .same fun _ hobject => by cases hobject

theorem Value.listAgrees_withoutNulls (kind : NodeKind) (value : Value) :
    ListAgrees (fun a b => b = Fields.withoutNulls kind a) value
      (value.withoutNulls none (some kind)) := by
  cases value with
  | list elements =>
    rw [Value.withoutNulls, elementsWithoutNulls_eq_map]
    refine .list ?_
    rw [List.forall₂_map_right_iff, List.forall₂_same]
    exact fun element _ => Value.agrees_withoutNulls kind element
  | _ => exact .same fun _ hlist => by cases hlist

/-- What is left of a node agrees with it. -/
theorem Fields.withoutNulls_isAgreement :
    IsAgreement fun kind a b => b = Fields.withoutNulls kind a where
  plain := by
    rintro kind a _ key rfl hplain
    obtain ⟨hnode, hlist⟩ := NodeKind.lookup_plainKey hplain
    rw [Fields.get_withoutNulls, hnode, hlist, Value.withoutNulls_none]
  node := by
    rintro kind a _ key below rfl hfield
    obtain ⟨hnode, hlist⟩ := NodeKind.lookup_nodeField hfield
    rw [Fields.get_withoutNulls, hnode, hlist]
    exact Value.agrees_withoutNulls below _
  list := by
    rintro kind a _ key below rfl hfield
    obtain ⟨hnode, hlist⟩ := NodeKind.lookup_listField hfield
    rw [Fields.get_withoutNulls, hnode, hlist]
    exact Value.listAgrees_withoutNulls below _

theorem Fields.nodes_withoutNulls {kind below : NodeKind} {key : String}
    (hfield : (key, below) ∈ kind.listFields) (node : Fields) :
    (node.withoutNulls kind).nodes key = (node.nodes key).map (Fields.withoutNulls below) := by
  have hfields : ∀ value : Value, (value.withoutNulls (some below) none).fields? =
      value.fields?.map (Fields.withoutNulls below) := by
    intro value
    cases value <;> rfl
  obtain ⟨hnode, hlist⟩ := NodeKind.lookup_listField hfield
  unfold Fields.nodes
  rw [Fields.get_withoutNulls, hnode, hlist]
  cases node.get key with
  | list elements =>
    rw [Value.withoutNulls, elementsWithoutNulls_eq_map]
    simp only [List.filterMap_map, List.map_filterMap, Function.comp_def, hfields]
  | _ => rfl

/-- The nodes in what is left of a node are what is left of the nodes in it. -/
theorem Within.of_withoutNulls {kind inner : NodeKind} {node part : Fields}
    (hwithin : Within kind (node.withoutNulls kind) inner part) :
    ∃ sub, Within kind node inner sub ∧ part = sub.withoutNulls inner := by
  generalize hleft : node.withoutNulls kind = left at hwithin
  induction hwithin generalizing node with
  | self kind => exact ⟨node, .self .., hleft.symm⟩
  | @node kind below inner _ sub part key hfield hsub _ ih =>
    obtain ⟨hnode, hlist⟩ := NodeKind.lookup_nodeField hfield
    rw [← hleft, Fields.get_withoutNulls, hnode, hlist] at hsub
    cases hget : node.get key with
    | object whole =>
      rw [hget] at hsub
      obtain ⟨found, hfound, hpart⟩ := ih (Value.object.inj hsub)
      exact ⟨found, .node hfield hget hfound, hpart⟩
    | _ =>
      rw [hget] at hsub
      cases hsub
  | list hfield hsub _ ih =>
    rw [← hleft, Fields.nodes_withoutNulls hfield] at hsub
    obtain ⟨whole, hwhole, hsub⟩ := List.mem_map.1 hsub
    obtain ⟨found, hfound, hpart⟩ := ih hsub
    exact ⟨found, .list hfield hwhole hfound, hpart⟩

/-- No key is bound to `null` in what is left of a node, at any depth. -/
theorem Fields.lookup_ne_null_of_within_withoutNulls {kind inner : NodeKind} {node part : Fields}
    (hwithin : Within kind (node.withoutNulls kind) inner part) (key : String) :
    List.lookup key part ≠ some .null := by
  obtain ⟨sub, _, rfl⟩ := hwithin.of_withoutNulls
  rw [Fields.lookup_withoutNulls]
  cases sub.get key with
  | object _ => cases List.lookup key inner.nodeFields <;> simp [Value.isNull, Value.withoutNulls]
  | list _ => cases List.lookup key inner.listFields <;> simp [Value.isNull, Value.withoutNulls]
  | _ => simp [Value.isNull, Value.withoutNulls]

/-! ## What of an argument depends on it -/

/-- An argument that does not say whether it is required is, but one that says `null` is not. -/
theorem flag_required_withoutNulls (node : Fields) :
    Reading.flag (node.withoutNulls .argument) "required" true =
      ((node.get "required").isNull || Reading.flag node "required" true) := by
  have hplain : ∀ value : Value, value.withoutNulls (List.lookup "required" NodeKind.argument.nodeFields)
      (List.lookup "required" NodeKind.argument.listFields) = value := Value.withoutNulls_none
  rw [Reading.flag, Reading.flag, Fields.lookup_withoutNulls, hplain, Fields.get]
  cases List.lookup "required" node with
  | none => rfl
  | some value => cases value <;> rfl

theorem flag_required_withoutNulls_iff {node : Fields} :
    Reading.flag (node.withoutNulls .argument) "required" true = Reading.flag node "required" true ↔
      List.lookup "required" node ≠ some .null := by
  rw [flag_required_withoutNulls, Reading.flag, Fields.get]
  cases List.lookup "required" node with
  | none => simp [Value.isNull]
  | some value => cases value <;> simp [Value.isNull, Value.isTruthy]

/-- The second argument is the first one, but it may be required where that is not. -/
def Argument.SameButRequired (x y : Argument) : Prop :=
  y = { x with required := y.required } ∧ (x.required = true → y.required = true)

theorem related_argument_withoutNulls {node : Fields} (hnode : IsArgument node) :
    Reading.Related Argument.SameButRequired (Argument.ofDocument (.object node))
      (Argument.ofDocument (.object (node.withoutNulls .argument))) := by
  refine (Fields.withoutNulls_isAgreement.related_argument rfl hnode).imp ?_
  rintro x y ⟨hx, rfl⟩
  refine ⟨rfl, fun hrequired => ?_⟩
  rw [flag_required_withoutNulls, ← hx, hrequired, Bool.or_true]

/-! ## Programs -/

/-- Where the nodes in a field give the same parts with nulls and without, each of them does. -/
theorem Fields.ReadAs.without_nulls {α : Type} {kind below : NodeKind} {node : Fields} {key : String}
    {f : Value → Reading α} {parts : List α} (hread : node.ReadAs key f parts)
    (hfield : (key, below) ∈ kind.listFields) (hwithout : (node.withoutNulls kind).ReadAs key f parts)
    {sub : Fields} (hsub : sub ∈ node.nodes key) :
    ∃ part, f (.object sub) = .ok part ∧ f (.object (sub.withoutNulls below)) = .ok part := by
  rw [Fields.ReadAs, Fields.nodes_withoutNulls hfield, List.forall₂_map_left_iff] at hwithout
  obtain ⟨part, _, hboth⟩ := exists_common_of_mem hread hwithout hsub
  exact ⟨part, hboth⟩

theorem IsCommand.withoutNulls {node : Fields} (hnode : IsCommand node) :
    IsCommand (node.withoutNulls .command) := by
  rw [← problems_command_eq_nil_iff _ ""] at hnode ⊢
  rw [← hnode]
  exact (Fields.withoutNulls_isAgreement.problems_check rfl "").symm

theorem IsProgram.withoutNulls {node : Fields} (hnode : IsProgram node) :
    IsProgram (node.withoutNulls .program) := by
  rw [← problems_program_eq_nil_iff ""] at hnode ⊢
  rw [← hnode]
  exact (Fields.withoutNulls_isAgreement.problems_check rfl "").symm

/-- If a command is the same without nulls, then no argument below it says `null` for whether it is
required. -/
theorem IsCommand.required_of_same {node : Fields} (hnode : IsCommand node) {c : Command}
    (hread : Command.ofDocument (.object node) = .ok c)
    (hwithout : Command.ofDocument (.object (node.withoutNulls .command)) = .ok c) {part : Fields}
    (hwithin : Within .command node .argument part) : List.lookup "required" part ≠ some .null := by
  induction hnode using IsCommand.induction generalizing c with
  | step node hnode ih =>
    obtain ⟨_, hreadArguments, hreadSubs⟩ := hnode.readAs hread
    obtain ⟨_, hwithoutArguments, hwithoutSubs⟩ := hnode.withoutNulls.readAs hwithout
    have hargumentField : ("arguments", .argument) ∈ NodeKind.listFields .command := by decide
    have hsubField : ("subcommands", .command) ∈ NodeKind.listFields .command := by decide
    rcases hwithin.of_command with
      ⟨hkind, _⟩ | ⟨sub, _, hbelow⟩ | ⟨sub, hsub, hbelow⟩ | ⟨sub, hsub, hbelow⟩
    · cases hkind
    · cases (hbelow.of_part (.inl rfl) (by decide)).1
    · obtain ⟨_, rfl⟩ := hbelow.of_part (.inr rfl) (by decide)
      obtain ⟨a, ha, ha'⟩ := hreadArguments.without_nulls hargumentField hwithoutArguments hsub
      rw [← flag_required_withoutNulls_iff, ← Argument.required_of_ofDocument ha,
        ← Argument.required_of_ofDocument ha']
    · obtain ⟨c, hc, hc'⟩ := hreadSubs.without_nulls hsubField hwithoutSubs hsub
      exact ih sub hsub hc hc' hbelow

/-- Keys that are bound to `null` count as absent, but for one. Of a document without problems, and of
what is left of it without such keys, the same program is read, up to arguments that are required in the
second reading only; and it is altogether the same exactly if no argument of the document says `null` for
whether it is required. -/
theorem program_without_nulls {node : Fields} (haccepted : (checkDocument (.object node)).problems = []) :
    (checkDocument (.object (node.withoutNulls .program))).problems = [] ∧
    Reading.Related (Program.SameBut Argument.SameButRequired) (Program.ofDocument (.object node))
      (Program.ofDocument (.object (node.withoutNulls .program))) ∧
    ∀ p, Program.ofDocument (.object node) = .ok p →
      (Program.ofDocument (.object (node.withoutNulls .program)) = .ok p ↔
        ∀ part, Within .program node .argument part → List.lookup "required" part ≠ some .null) := by
  obtain ⟨_, hobject, hnode⟩ := problems_checkDocument_eq_nil_iff.1 haccepted
  obtain rfl := Value.object.inj hobject
  have hagrees := Fields.withoutNulls_isAgreement
  refine ⟨problems_checkDocument_eq_nil_iff.2 ⟨_, rfl, hnode.withoutNulls⟩,
    hagrees.related_program ?_ rfl hnode, fun p hread => ⟨fun hwithout part hwithin => ?_, fun hall => ?_⟩⟩
  · rintro a _ rfl hargument
    exact related_argument_withoutNulls hargument
  · obtain ⟨hreadCommands, _⟩ := hnode.readAs hread
    obtain ⟨hwithoutCommands, _⟩ := hnode.withoutNulls.readAs hwithout
    have hcommandField : ("commands", .command) ∈ NodeKind.listFields .program := by decide
    rcases hwithin.of_program with ⟨hkind, _⟩ | ⟨sub, hsub, hbelow⟩ | ⟨sub, _, hbelow⟩
    · cases hkind
    · obtain ⟨c, hc, hc'⟩ := hreadCommands.without_nulls hcommandField hwithoutCommands hsub
      exact (hnode.eachCommand sub hsub).required_of_same hc hc' hbelow
    · cases (hbelow.of_part (.inl rfl) (by decide)).1
  · have hsame := (hagrees.restrict .argument fun part => List.lookup "required" part ≠ some .null)
    rw [← hread]
    refine (hsame.program_eq ?_ ⟨rfl, hall⟩ hnode).symm
    rintro a _ ⟨rfl, hrequired⟩
    exact (flag_required_withoutNulls_iff.2 (hrequired a (.self ..))).symm

/-- An instance: a command that says `null` for whether it is hidden is not, as without that. -/
theorem program_without_nulls_of_tool :
    let run : Fields := [("name", .text "run"), ("hidden", .null)]
    let node : Fields := [("name", .text "tool"), ("commands", .list [.object run])]
    (checkDocument (.object node)).problems = [] ∧
      Program.ofDocument (.object (node.withoutNulls .program)) =
        .ok { name := "tool", commands := [{ name := "run" }] } := by
  intro run node
  have hrun : IsCommand run := by
    obtain ⟨hos, hnoOption, hnoOptionName⟩ := run.no_field "options" rfl
    obtain ⟨has, hnoArgument, _⟩ := run.no_field "arguments" rfl
    obtain ⟨hcs, hnoSub, hnoName⟩ := run.no_field "subcommands" rfl
    exact .intro ⟨"run", rfl, by decide⟩ (.inl rfl) (.inl rfl) hos hnoOption hnoOptionName has hnoArgument
      hcs hnoSub hnoName
  have hnode : IsProgram node :=
    isProgram_of_commands (by decide) (List.forall_mem_singleton.2 hrun) (by decide)
  have haccepted := problems_checkDocument_eq_nil_iff.2 ⟨node, rfl, hnode⟩
  have hread : Command.ofDocument (.object run) = .ok { name := "run" } := by
    rw [Command.ofDocument_object]
    rfl
  obtain ⟨_, _, hsame⟩ := program_without_nulls haccepted
  refine ⟨haccepted, (hsame _ (Program.ofDocument_of_command "tool" (by decide) hread)).2 ?_⟩
  intro part hwithin
  rcases hwithin.of_program with ⟨hkind, _⟩ | ⟨sub, hsub, hbelow⟩ | ⟨sub, hsub, _⟩
  · cases hkind
  · obtain rfl : sub = run := List.mem_singleton.1 hsub
    rcases hbelow.of_command with ⟨hkind, _⟩ | ⟨_, hsub, _⟩ | ⟨_, hsub, _⟩ | ⟨_, hsub, _⟩
    · cases hkind
    all_goals cases hsub
  · cases hsub

/-- A counterexample to reading `null` as absent throughout: the check takes it so and finds no problem,
but the argument is not required, as it would be if it said nothing. -/
theorem null_argument_is_not_required :
    let file : Fields := [("name", .text "file"), ("required", .null)]
    let run : Fields := [("name", .text "run"), ("arguments", .list [.object file])]
    let node : Fields := [("name", .text "tool"), ("commands", .list [.object run])]
    (checkDocument (.object node)).problems = [] ∧
      Program.ofDocument (.object node) = .ok { name := "tool", commands := [
        { name := "run", arguments := [{ name := "file", required := false }] }] } ∧
      Program.ofDocument (.object (node.withoutNulls .program)) = .ok { name := "tool", commands := [
        { name := "run", arguments := [{ name := "file", required := true }] }] } := by
  intro file run node
  have hfile : IsArgument file := ⟨⟨"file", rfl, by decide⟩, .inl rfl, .inl rfl, .inl rfl, .inl rfl⟩
  have hrun : IsCommand run :=
    isCommand_of_arguments (by decide) (List.forall_mem_singleton.2 hfile)
  have hnode : IsProgram node :=
    isProgram_of_commands (by decide) (List.forall_mem_singleton.2 hrun) (by decide)
  refine ⟨problems_checkDocument_eq_nil_iff.2 ⟨node, rfl, hnode⟩,
    Program.ofDocument_of_command "tool" (by decide) ?_,
    Program.ofDocument_of_command "tool" (by decide) ?_⟩
  · rw [Command.ofDocument_object]
    rfl
  · rw [Command.ofDocument_object]
    rfl

end Tabsmith
