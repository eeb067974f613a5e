import Tabsmith.Grammar.Program
import Tabsmith.Proofs.Acceptance.Nodes

/-!
The program descriptions without problems, in terms of what their nodes have to hold. Commands, which
nest, are described by induction.
-/

namespace Tabsmith

/-- The fields of a hint. -/
structure IsHint (node : Fields) : Prop where
  type : ∃ kind : HintKind, node.get "type" = .text kind.name
  values : node.May "values" Value.IsTexts
  command : node.May "command" Value.IsFilled
  pattern : node.May "pattern" Value.IsText
  extensions : node.May "extensions" Value.IsTexts
  hasValues : node.get "type" = .text HintKind.static.name → (node.get "values").isTruthy = true
  hasCommand : node.get "type" = .text HintKind.command.name ∨
    node.get "type" = .text HintKind.dynamic.name → (node.get "command").isTruthy = true

/-- The fields of an option. -/
structure IsOption (node : Fields) : Prop where
  name : (node.get "name").IsFilled
  short : node.May "short" Value.IsAliases
  type : node.May "type" Value.IsText
  description : node.May "description" Value.IsText
  required : node.May "required" Value.IsBool
  repeatable : node.May "repeatable" Value.IsBool
  choices : node.May "enum" Value.IsTexts
  hidden : node.May "hidden" Value.IsBool
  completion : node.May "completion" fun value => ∃ fields, value = .object fields ∧ IsHint fields

/-- The fields of an argument. -/
structure IsArgument (node : Fields) : Prop where
  name : (node.get "name").IsFilled
  description : node.May "description" Value.IsText
  required : node.May "required" Value.IsBool
  variadic : node.May "variadic" Value.IsBool
  completion : node.May "completion" fun value => ∃ fields, value = .object fields ∧ IsHint fields

/-- The fields of a command, with the commands below it. -/
inductive IsCommand : Fields → Prop
  | intro {node : Fields} (name : (node.get "name").IsFilled)
      (description : node.May "description" Value.IsText)
      (hidden : node.May "hidden" Value.IsBool)
      (options : node.HoldsNodes "options") (eachOption : ∀ sub ∈ node.nodes "options", IsOption sub)
      (optionNames : node.NamesDiffer "options")
      (arguments : node.HoldsNodes "arguments")
      (eachArgument : ∀ sub ∈ node.nodes "arguments", IsArgument sub)
      (subcommands : node.HoldsNodes "subcommands")
      (eachSubcommand : ∀ sub ∈ node.nodes "subcommands", IsCommand sub)
      (subcommandNames : node.NamesDiffer "subcommands") : IsCommand node

theorem IsCommand.of_option {node sub : Fields} (hnode : IsCommand node)
    (hsub : sub ∈ node.nodes "options") : IsOption sub := by
  cases hnode with
  | intro _ _ _ _ heach => exact heach sub hsub

theorem IsCommand.of_subcommand {node sub : Fields} (hnode : IsCommand node)
    (hsub : sub ∈ node.nodes "subcommands") : IsCommand sub := by
  cases hnode with
  | intro _ _ _ _ _ _ _ _ _ heach => exact heach sub hsub

/-- Induction over the nodes of commands. -/
theorem IsCommand.induction {motive : ∀ node, IsCommand node → Prop}
    (step : ∀ node (hnode : IsCommand node),
      (∀ sub (hsub : sub ∈ node.nodes "subcommands"), motive sub (hnode.of_subcommand hsub)) →
      motive node hnode) {node : Fields} (hnode : IsCommand node) : motive node hnode := by
  induction hnode with
  | intro hname hdescription hhidden hoptions heachOption hoptionNames harguments heachArgument
      hsubcommands heachSub hsubcommandNames ih =>
    exact step _ _ ih

/-- The fields of a program. -/
structure IsProgram (node : Fields) : Prop where
  name : (node.get "name").IsFilled
  description : node.May "description" Value.IsText
  version : node.May "version" Value.IsVersion
  commands : node.HoldsNodes "commands"
  eachCommand : ∀ sub ∈ node.nodes "commands", IsCommand sub
  commandNames : node.NamesDiffer "commands"
  options : node.HoldsNodes "globalOptions"
  eachOption : ∀ sub ∈ node.nodes "globalOptions", IsOption sub
  optionNames : node.NamesDiffer "globalOptions"

open Grammar

section

variable {node : Fields} (location : String)

theorem any_same_hintKinds (word : String) :
    (HintKind.all.map fun kind => Value.text kind.name).any (·.same (.text word)) = true ↔
      ∃ kind : HintKind, word = kind.name := by
  have hsame : ∀ kind : HintKind, (Value.text kind.name).same (.text word) = (kind.name == word) :=
    fun _ => rfl
  simp only [List.any_map, Function.comp_def, List.any_eq_true, hsame, beq_iff_eq]
  constructor
  · rintro ⟨kind, _, hname⟩
    exact ⟨kind, hname.symm⟩
  · rintro ⟨kind, rfl⟩
    exact ⟨kind, by cases kind <;> decide, rfl⟩

theorem problems_hintTypeField_eq_nil_iff {g : Grammar NodeKind} :
    (g.fieldReport location node
      { name := "type", required := true,
        choices := some (HintKind.all.map fun kind => .text kind.name) }).problems = [] ↔
      ∃ kind : HintKind, node.get "type" = .text kind.name := by
  rw [problems_plainField_eq_nil_iff rfl rfl, Rule.Admits]
  cases node.get "type" with
  | text word =>
    simp only [Value.isNull, Rule.refusal?, Kind.holds, Condition.causes, Value.text.injEq,
      ← any_same_hintKinds]
    simp
  | _ => simp [Value.isNull, Rule.refusal?, Kind.holds]

theorem hintDemands_eq_nil_iff : hintDemands node = [] ↔
    (node.get "type" = .text HintKind.static.name → (node.get "values").isTruthy = true) ∧
    (node.get "type" = .text HintKind.command.name ∨
      node.get "type" = .text HintKind.dynamic.name → (node.get "command").isTruthy = true) := by
  unfold hintDemands
  split
  next htype => simp [htype, HintKind.name]
  next htype => simp [htype, HintKind.name]
  next htype => simp [htype, HintKind.name]
  next hstatic hcommand hdynamic =>
    exact iff_of_true rfl ⟨fun h => (hstatic h).elim, fun h => (h.elim hcommand hdynamic).elim⟩

theorem problems_hint_eq_nil_iff :
    (programGrammar.check .hint location (.object node)).problems = [] ↔ IsHint node := by
  rw [problems_check_object_eq_nil_iff]
  simp only [programGrammar, NodeKind.rules, NodeKind.hintRules, List.forall_mem_cons,
    problems_hintTypeField_eq_nil_iff, problems_textsField_eq_nil_iff,
    problems_filledField_eq_nil_iff, problems_textField_eq_nil_iff, hintDemands_eq_nil_iff]
  constructor
  · rintro ⟨⟨type, values, command, pattern, extensions, _⟩, static, candidates⟩
    exact ⟨type, values, command, pattern, extensions, static, candidates⟩
  · rintro ⟨type, values, command, pattern, extensions, static, candidates⟩
    exact ⟨⟨type, values, command, pattern, extensions, by simp⟩, static, candidates⟩

theorem problems_completionField_eq_nil_iff :
    (programGrammar.fieldReport location node
      { name := "completion", kinds := [.object], children := some .hint }).problems = [] ↔
      node.May "completion" fun value => ∃ fields, value = .object fields ∧ IsHint fields :=
  problems_nodeField_eq_nil_iff "completion" fun _ location => problems_hint_eq_nil_iff location

theorem problems_option_eq_nil_iff :
    (programGrammar.check .option location (.object node)).problems = [] ↔ IsOption node := by
  rw [problems_check_object_eq_nil_iff]
  change (∀ rule ∈ NodeKind.optionRules, _) ∧ _ ↔ _
  simp only [NodeKind.optionRules, List.forall_mem_cons, problems_neededField_eq_nil_iff,
    problems_textsField_eq_nil_iff, problems_boolField_eq_nil_iff, problems_textField_eq_nil_iff,
    problems_aliasField_eq_nil_iff, problems_anyField_eq_nil, problems_completionField_eq_nil_iff]
  constructor
  · rintro ⟨⟨name, short, type, description, required, repeatable, _, choices, hidden, completion, _⟩,
      _⟩
    exact ⟨name, short, type, description, required, repeatable, choices, hidden, completion⟩
  · rintro ⟨name, short, type, description, required, repeatable, choices, hidden, completion⟩
    exact ⟨⟨name, short, type, description, required, repeatable, trivial, choices, hidden, completion,
      by simp⟩, rfl⟩

theorem problems_argument_eq_nil_iff :
    (programGrammar.check .argument location (.object node)).problems = [] ↔ IsArgument node := by
  rw [problems_check_object_eq_nil_iff]
  change (∀ rule ∈ NodeKind.argumentRules, _) ∧ _ ↔ _
  simp only [NodeKind.argumentRules, List.forall_mem_cons, problems_neededField_eq_nil_iff,
    problems_boolField_eq_nil_iff, problems_textField_eq_nil_iff,
    problems_completionField_eq_nil_iff]
  constructor
  · rintro ⟨⟨name, description, required, variadic, completion, _⟩, _⟩
    exact ⟨name, description, required, variadic, completion⟩
  · rintro ⟨name, description, required, variadic, completion⟩
    exact ⟨⟨name, description, required, variadic, completion, by simp⟩, rfl⟩

theorem problems_optionsField_eq_nil_iff (name : String) :
    (programGrammar.fieldReport location node
      { name := name, kinds := [.list], items := some .option, uniqueNames := true }).problems = [] ↔
      node.HoldsNodes name ∧ (∀ sub ∈ node.nodes name, IsOption sub) ∧ node.NamesDiffer name := by
  have hoption : ∀ sub ∈ node.nodes name, ∀ location,
      (programGrammar.check .option location (.object sub)).problems = [] ↔ IsOption sub :=
    fun _ _ location => problems_option_eq_nil_iff location
  simp [problems_nodesField_eq_nil_iff name true hoption]

end

/-- Nothing is against the fields of a command exactly if they are those of one, however deep the
commands below it nest. -/
theorem problems_command_eq_nil_iff (node : Fields) (location : String) :
    (programGrammar.check .command location (.object node)).problems = [] ↔ IsCommand node := by
  -- The rules for a command ask for commands again, so the recursion is over the document.
  have hbelow : ∀ sub ∈ node.nodes "subcommands", ∀ location,
      (programGrammar.check .command location (.object sub)).problems = [] ↔ IsCommand sub :=
    fun sub hsub location =>
      have := Fields.sizeOf_lt_of_mem_nodes hsub
      problems_command_eq_nil_iff sub location
  have hargument : ∀ sub ∈ node.nodes "arguments", ∀ location,
      (programGrammar.check .argument location (.object sub)).problems = [] ↔ IsArgument sub :=
    fun _ _ location => problems_argument_eq_nil_iff location
  rw [problems_check_object_eq_nil_iff]
  change (∀ rule ∈ NodeKind.commandRules, _) ∧ _ ↔ _
  simp only [NodeKind.commandRules, List.forall_mem_cons, problems_neededField_eq_nil_iff,
    problems_boolField_eq_nil_iff, problems_textField_eq_nil_iff, problems_optionsField_eq_nil_iff,
    problems_nodesField_eq_nil_iff "arguments" false hargument,
    problems_nodesField_eq_nil_iff "subcommands" true hbelow]
  constructor
  · rintro ⟨⟨name, description, hidden, ⟨options, eachOption, optionNames⟩,
      ⟨arguments, eachArgument, _⟩, ⟨subcommands, eachSubcommand, subcommandNames⟩, _⟩, _⟩
    exact .intro name description hidden options eachOption optionNames arguments eachArgument
      subcommands eachSubcommand (subcommandNames trivial)
  · rintro ⟨name, description, hidden, options, eachOption, optionNames, arguments, eachArgument,
      subcommands, eachSubcommand, subcommandNames⟩
    exact ⟨⟨name, description, hidden, ⟨options, eachOption, optionNames⟩,
      ⟨arguments, eachArgument, by simp⟩,
      ⟨subcommands, eachSubcommand, fun _ => subcommandNames⟩, by simp⟩, rfl⟩
termination_by sizeOf node

theorem problems_program_eq_nil_iff {node : Fields} (location : String) :
    (programGrammar.check .program location (.object node)).problems = [] ↔ IsProgram node := by
  have hcommand : ∀ sub ∈ node.nodes "commands", ∀ location,
      (programGrammar.check .command location (.object sub)).problems = [] ↔ IsCommand sub :=
    fun sub _ location => problems_command_eq_nil_iff sub location
  rw [problems_check_object_eq_nil_iff]
  change (∀ rule ∈ NodeKind.programRules, _) ∧ _ ↔ _
  simp only [NodeKind.programRules, List.forall_mem_cons, problems_neededField_eq_nil_iff,
    problems_versionField_eq_nil_iff, problems_textField_eq_nil_iff,
    problems_optionsField_eq_nil_iff, problems_nodesField_eq_nil_iff "commands" true hcommand]
  constructor
  · rintro ⟨⟨name, description, version, ⟨commands, eachCommand, commandNames⟩,
      ⟨options, eachOption, optionNames⟩, _⟩, _⟩
    exact ⟨name, description, version, commands, eachCommand, commandNames trivial, options,
      eachOption, optionNames⟩
  · rintro ⟨name, description, version, commands, eachCommand, commandNames, options, eachOption,
      optionNames⟩
    exact ⟨⟨name, description, version, ⟨commands, eachCommand, fun _ => commandNames⟩,
      ⟨options, eachOption, optionNames⟩, by simp⟩, rfl⟩

/-- A document has no problems exactly if it is an object with the fields of a program. -/
theorem problems_checkDocument_eq_nil_iff {document : Value} :
    (checkDocument document).problems = [] ↔ ∃ node, document = .object node ∧ IsProgram node := by
  cases document with
  | object node =>
    rw [checkDocument, problems_program_eq_nil_iff]
    simp
  | _ => simp [checkDocument]

end Tabsmith
