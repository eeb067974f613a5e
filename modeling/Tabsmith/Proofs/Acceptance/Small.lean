import Tabsmith.Proofs.Acceptance.Program

/-!
Nodes with few fields. Most fields may be absent, so a name with the parts below it makes a node.
-/

namespace Tabsmith

/-- A field with a list of nodes that differ in their names. -/
theorem Fields.nodes_field (node : Fields) (key : String) {nodes : List Fields}
    {P : Fields → Prop} (hget : node.get key = .list (nodes.map .object))
    (hnodes : ∀ sub ∈ nodes, P sub) (hnames : (nodes.filterMap nodeName?).Nodup) :
    node.HoldsNodes key ∧ (∀ sub ∈ node.nodes key, P sub) ∧ node.NamesDiffer key := by
  rw [Fields.HoldsNodes, Fields.NamesDiffer, Fields.nodes_of_get hget]
  exact ⟨Or.inr hget, hnodes, hnames⟩

/-- A field that is absent. -/
theorem Fields.no_field (node : Fields) (key : String) {P : Fields → Prop}
    (hget : node.get key = .null) :
    node.HoldsNodes key ∧ (∀ sub ∈ node.nodes key, P sub) ∧ node.NamesDiffer key := by
  rw [Fields.HoldsNodes, Fields.NamesDiffer, Fields.nodes, hget]
  exact ⟨Or.inl hget, List.forall_mem_nil _, List.nodup_nil⟩

theorem isHint_of_values {values : List String} (hvalues : values ≠ []) :
    IsHint [("type", .text "static"), ("values", .list (values.map .text))] where
  type := ⟨.static, rfl⟩
  values := Or.inr ⟨_, rfl, by simp [Condition.isTextual]⟩
  command := Or.inl rfl
  pattern := Or.inl rfl
  extensions := Or.inl rfl
  hasValues _ := by
    change (Value.list (values.map .text)).isTruthy = true
    simpa [Value.isTruthy] using hvalues
  hasCommand := by
    change Value.text "static" = .text "command" ∨ Value.text "static" = .text "dynamic" → _
    simp

theorem isOption_of_name {name : String} (hname : Text.isVoid name = false) :
    IsOption [("name", .text name)] :=
  ⟨⟨name, rfl, hname⟩, .inl rfl, .inl rfl, .inl rfl, .inl rfl, .inl rfl, .inl rfl, .inl rfl, .inl rfl⟩

theorem isOption_of_completion {name : String} (hname : Text.isVoid name = false) {hint : Fields}
    (hhint : IsHint hint) : IsOption [("name", .text name), ("completion", .object hint)] :=
  ⟨⟨name, rfl, hname⟩, .inl rfl, .inl rfl, .inl rfl, .inl rfl, .inl rfl, .inl rfl, .inl rfl,
    .inr ⟨hint, rfl, hhint⟩⟩

theorem isOption_of_description {name : String} (hname : Text.isVoid name = false) (description : String) :
    IsOption [("name", .text name), ("description", .text description)] :=
  ⟨⟨name, rfl, hname⟩, .inl rfl, .inl rfl, .inr ⟨description, rfl⟩, .inl rfl, .inl rfl, .inl rfl, .inl rfl,
    .inl rfl⟩

theorem isArgument_of_description {name : String} (hname : Text.isVoid name = false) (description : String) :
    IsArgument [("name", .text name), ("description", .text description)] :=
  ⟨⟨name, rfl, hname⟩, .inr ⟨description, rfl⟩, .inl rfl, .inl rfl, .inl rfl⟩

theorem isCommand_of_name {name : String} (hname : Text.isVoid name = false) :
    IsCommand [("name", .text name)] := by
  let node : Fields := [("name", .text name)]
  obtain ⟨hos, hnoOption, hnoOptionName⟩ := node.no_field "options" rfl
  obtain ⟨has, hnoArgument, _⟩ := node.no_field "arguments" rfl
  obtain ⟨hcs, hnoSub, hnoName⟩ := node.no_field "subcommands" rfl
  exact .intro ⟨name, rfl, hname⟩ (.inl rfl) (.inl rfl) hos hnoOption hnoOptionName has hnoArgument hcs
    hnoSub hnoName

theorem isCommand_of_options {name : String} (hname : Text.isVoid name = false)
    {options : List Fields} (hoptions : ∀ sub ∈ options, IsOption sub)
    (hnames : (options.filterMap nodeName?).Nodup) :
    IsCommand [("name", .text name), ("options", .list (options.map .object))] := by
  let node : Fields := [("name", .text name), ("options", .list (options.map .object))]
  obtain ⟨hos, hall, hdiffer⟩ := node.nodes_field "options" rfl hoptions hnames
  obtain ⟨has, hnone, _⟩ := node.no_field "arguments" rfl
  obtain ⟨hcs, hnoSub, hnoName⟩ := node.no_field "subcommands" rfl
  exact .intro ⟨name, rfl, hname⟩ (.inl rfl) (.inl rfl) hos hall hdiffer has hnone hcs hnoSub hnoName

theorem isCommand_of_arguments {name : String} (hname : Text.isVoid name = false)
    {arguments : List Fields} (harguments : ∀ sub ∈ arguments, IsArgument sub) :
    IsCommand [("name", .text name), ("arguments", .list (arguments.map .object))] := by
  let node : Fields := [("name", .text name), ("arguments", .list (arguments.map .object))]
  obtain ⟨hos, hnoOption, hnoOptionName⟩ := node.no_field "options" rfl
  obtain ⟨hcs, hnoSub, hnoName⟩ := node.no_field "subcommands" rfl
  have hget : node.get "arguments" = .list (arguments.map .object) := rfl
  have has : node.HoldsNodes "arguments" := by
    rw [Fields.HoldsNodes, Fields.nodes_of_get hget]
    exact .inr hget
  have hall : ∀ sub ∈ node.nodes "arguments", IsArgument sub := Fields.nodes_of_get hget ▸ harguments
  exact .intro ⟨name, rfl, hname⟩ (.inl rfl) (.inl rfl) hos hnoOption hnoOptionName has hall hcs hnoSub
    hnoName

theorem isCommand_of_subcommands {name : String} (hname : Text.isVoid name = false)
    {subcommands : List Fields} (hsubcommands : ∀ sub ∈ subcommands, IsCommand sub)
    (hnames : (subcommands.filterMap nodeName?).Nodup) :
    IsCommand [("name", .text name), ("subcommands", .list (subcommands.map .object))] := by
  let node : Fields := [("name", .text name), ("subcommands", .list (subcommands.map .object))]
  obtain ⟨hos, hnoOption, hnoName⟩ := node.no_field "options" rfl
  obtain ⟨has, hnone, _⟩ := node.no_field "arguments" rfl
  obtain ⟨hcs, hall, hdiffer⟩ := node.nodes_field "subcommands" rfl hsubcommands hnames
  exact .intro ⟨name, rfl, hname⟩ (.inl rfl) (.inl rfl) hos hnoOption hnoName has hnone hcs hall hdiffer

theorem isProgram_of_commands {name : String} (hname : Text.isVoid name = false)
    {commands : List Fields} (hcommands : ∀ sub ∈ commands, IsCommand sub)
    (hnames : (commands.filterMap nodeName?).Nodup) :
    IsProgram [("name", .text name), ("commands", .list (commands.map .object))] := by
  let node : Fields := [("name", .text name), ("commands", .list (commands.map .object))]
  obtain ⟨hcs, hall, hdiffer⟩ := node.nodes_field "commands" rfl hcommands hnames
  obtain ⟨hos, hnoOption, hnoName⟩ := node.no_field "globalOptions" rfl
  exact ⟨⟨name, rfl, hname⟩, .inl rfl, .inl rfl, hcs, hall, hdiffer, hos, hnoOption, hnoName⟩

theorem isProgram_of_options {name : String} (hname : Text.isVoid name = false) {options : List Fields}
    (hoptions : ∀ sub ∈ options, IsOption sub) (hnames : (options.filterMap nodeName?).Nodup) :
    IsProgram [("name", .text name), ("globalOptions", .list (options.map .object))] := by
  let node : Fields := [("name", .text name), ("globalOptions", .list (options.map .object))]
  obtain ⟨hcs, hnoCommand, hnoName⟩ := node.no_field "commands" rfl
  obtain ⟨hos, hall, hdiffer⟩ := node.nodes_field "globalOptions" rfl hoptions hnames
  exact ⟨⟨name, rfl, hname⟩, .inl rfl, .inl rfl, hcs, hnoCommand, hnoName, hos, hall, hdiffer⟩

theorem isOption_of_short {name : String} (hname : Text.isVoid name = false) {written : String}
    (hwritten : written ≠ "") (hspace : ' ' ∉ written.toList) :
    IsOption [("name", .text name), ("short", .text written)] :=
  ⟨⟨name, rfl, hname⟩, .inr (.inl ⟨written, rfl, hwritten, hspace⟩), .inl rfl, .inl rfl, .inl rfl,
    .inl rfl, .inl rfl, .inl rfl, .inl rfl⟩

end Tabsmith
