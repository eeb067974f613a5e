import Tabsmith.Fault
import Tabsmith.Parser.Naming
import Tabsmith.Parser.Words
import Tabsmith.Program.Document
import Tabsmith.Text.LetterCase
import Tabsmith.Value.Display

/-!
The description of a parser's program. Flagged actions become options, and a boolean option that is
no negation itself is followed by its negations; positional actions become arguments; the parsers
below become commands.
-/

namespace Tabsmith

namespace Action

/-- The type of value that the option of an action takes. -/
def valueType (a : Action) : String :=
  if a.arity = some (.exactly 0) then booleanType
  else if a.kind = .append || a.kind = .extend then "array"
  else match a.arity with
    | some .any | some .atLeastOne | some .rest => "array"
    | some (.exactly count) => if 1 < count then "array" else single
    | _ => single
where
  single : String := if a.isNumeric then "float" else "string"

/-- The flags of the action can be given several times. -/
def isRepeatable (a : Action) : Bool :=
  a.kind = .append || a.kind = .extend || a.kind = .count

/-- The action is declared hidden. -/
def isHidden (a : Action) : Bool :=
  a.help = .text suppressed

/-- The action can become an option: it has flags and does not only show help or the version. -/
def isOption (a : Action) : Bool :=
  !a.isPositional && a.kind != .help && a.kind != .version

/-- The option of an action under the given name. -/
def option (a : Action) (name : String) : Opt where
  name := name
  short := a.shortFlags.map fun flag => Naming.dashed (withoutLead '-' flag)
  type := a.valueType
  description := Naming.description a.help
  required := a.required
  repeatable := a.isRepeatable
  default := if a.default.same (.text suppressed) then .null else a.default
  choices := a.choices.map Value.display
  hidden := a.isHidden
  completion := Naming.hint? a.dest

/-- What the names of negations start with. -/
def negations : List String := ["no-", "skip-"]

/-- The name is that of a negation. -/
def isNegation (name : String) : Bool :=
  negations.any fun start => start.toList.isPrefixOf name.toList

/-- The negations of the option `name` of an action, less those with a name in `taken`. -/
def siblings (a : Action) (taken : List String) (name : String) : List Opt :=
  if a.valueType = booleanType && !isNegation name then
    ((negations.map (· ++ name)).filter fun sibling => !taken.contains sibling).map fun sibling =>
      { name := sibling, repeatable := a.isRepeatable, hidden := a.isHidden }
  else []

/-- The options of an action, named for its first long flag. -/
def options (taken : List String) (a : Action) : List Opt :=
  match a.longFlags with
  | [] => []
  | flag :: _ =>
    let name := Naming.normal flag
    a.option name :: a.siblings taken name

/-- The argument of a positional action. -/
def argument (a : Action) : Argument where
  name := Naming.normal a.dest
  description :=
    let given := Naming.description a.help
    if given = "" then Text.capitalize (Text.replaceChar a.dest '_' ' ') else given
  required := a.arity != some .optional && a.arity != some .any
  variadic := a.arity = some .any || a.arity = some .atLeastOne || a.arity = some .rest
  completion :=
    if a.choices.isEmpty then Naming.hint? a.dest
    else some { kind := .static, values := a.choices.map Value.display }

end Action

/-- What is met while a parser is turned into a description: an action whose flags are all short,
which makes no option, something that is no text where one is declared, or a part without a name. -/
inductive Finding where
  | noLongFlag (flags : List String)
  | noText
  | unnamed (part : String)
deriving DecidableEq, Repr, Inhabited

namespace Finding

/-- A part whose name turned out as `name`. -/
def ofName (part name : String) : List Finding :=
  if name = "" then [unnamed part] else []

/-- A text that was declared as `caption`. -/
def ofCaption (caption : Caption) : List Finding :=
  if caption = .stray then [noText] else []

/-- The failure of a description that the finding stops, if it stops it. -/
def fault? : Finding → Option Fault
  | noLongFlag _ => none
  | noText => some (.breakdown .noMember)
  | unnamed part => some (.invalid (.unnamed part (.text "")))

/-- The message of a finding that stops nothing. -/
def message : Finding → String
  | noLongFlag flags => "Skipping " ++ "/".intercalate flags ++ ": no long flag"
  | noText | unnamed _ => ""

end Finding

namespace Parser

/-- The normal forms of all long flags of a parser, which the negations of options must not
take. -/
def takenNames (p : Parser) : List String :=
  p.actions.flatMap fun a => a.longFlags.map Naming.normal

/-- The options of a parser. -/
def options (p : Parser) : List Opt :=
  (p.actions.filter (·.isOption)).flatMap (·.options p.takenNames)

/-- The arguments of a parser. -/
def arguments (p : Parser) : List Argument :=
  (p.actions.filter (·.isPositional)).map (·.argument)

/-- The version that the first version action with one declares. -/
def version (p : Parser) : String :=
  match p.actions.find? fun a => a.kind = .version && a.version.isTruthy with
  | some a => a.version.display
  | none => ""

mutual

/-- The command of a parser that is met at a word, with the help that stands under the word. Without
help, the description of the parser describes the command. -/
def commandAs : Parser → Caption → Caption → Command
  | p@(.mk _ _ _ description _ commands), word, help =>
    { name := Naming.ofCaption word
      description := Naming.description (help.orElse description)
      hidden := help = .text suppressed
      options := p.options
      arguments := p.arguments
      subcommands := eachMet commands (commandsAs commands) }

/-- The commands that parsers make. -/
def commandsAs : List Parser → List (Caption → Caption → Command)
  | [] => []
  | p :: rest => commandAs p :: commandsAs rest

end

/-- The commands of parsers that were added one after the other. -/
def commandsOf (parsers : List Parser) : List Command :=
  eachMet parsers (commandsAs parsers)

/-- The findings on the options of a parser. -/
def optionFindings (p : Parser) : List Finding :=
  (p.actions.filter (·.isOption)).flatMap fun a =>
    if a.longFlags.isEmpty then [.noLongFlag a.flags]
    else Finding.ofCaption a.help ++
      (a.options p.takenNames).flatMap fun o => Finding.ofName "Option" o.name

/-- The findings on the arguments of a parser. -/
def argumentFindings (p : Parser) : List Finding :=
  (p.actions.filter (·.isPositional)).flatMap fun a =>
    Finding.ofCaption a.help ++ Finding.ofName "Argument" a.argument.name

mutual

/-- The findings on the command of a parser that is met at a word, with the help that stands under the
word: those on its texts, on its options, on its arguments, on the commands below it, and on its
name. -/
def findingsAs : Parser → Caption → Caption → List Finding
  | p@(.mk _ _ _ description _ commands), word, help =>
    Finding.ofCaption word ++ Finding.ofCaption (help.orElse description) ++ p.optionFindings ++
      p.argumentFindings ++ (eachMet commands (findingsBelow commands)).flatten ++
      Finding.ofName "Command" (Naming.ofCaption word)

/-- The findings on the commands that parsers make. -/
def findingsBelow : List Parser → List (Caption → Caption → List Finding)
  | [] => []
  | p :: rest => findingsAs p :: findingsBelow rest

end

/-- The findings on the commands of parsers that were added one after the other. -/
def commandsFindings (parsers : List Parser) : List Finding :=
  (eachMet parsers (findingsBelow parsers)).flatten

/-- What a description says in place of what the parser declares. A description that is given
counts even when it is empty, and a version even when it is no text. -/
structure Override where
  name : Caption := .none
  description : Option Caption := none
  version : Option Value := none
deriving Repr, Inhabited

namespace Override

/-- What the program is named by. -/
def nameFor (override : Override) (p : Parser) : Caption :=
  override.name.orElse p.name

/-- What the program is described by. -/
def descriptionFor (override : Override) (p : Parser) : Caption :=
  override.description.getD p.description

/-- The version that the program gets. -/
def versionFor (override : Override) (p : Parser) : Value :=
  override.version.getD (.text p.version)

end Override

/-- The description of a parser's program, whether or not all its parts have names. -/
def program (p : Parser) (override : Override) : Program where
  name := Naming.ofCaption (override.nameFor p)
  description := Naming.description (override.descriptionFor p)
  version := (override.versionFor p).display
  commands := commandsOf p.commands
  globalOptions := p.options
  strays :=
    match override.versionFor p with
    | .text _ => []
    | version => [("version", version)]

/-- The findings on a program, in the order in which its parts are described. -/
def findings (p : Parser) (override : Override) : List Finding :=
  Finding.ofCaption (override.nameFor p) ++ Finding.ofCaption (override.descriptionFor p) ++
    commandsFindings p.commands ++ p.optionFindings ++
    Finding.ofName "Program" (p.program override).name

/-- The findings up to the one that stops the description, which is left out. -/
def remarks (p : Parser) (override : Override) : List Finding :=
  (p.findings override).takeWhile fun finding => finding.fault?.isNone

/-- The description of a parser's program, all of whose parts must have names and texts for
texts. -/
def describe (p : Parser) (override : Override) : Except Fault Program :=
  match (p.findings override).findSome? Finding.fault? with
  | some fault => throw fault
  | none => pure (p.program override)

end Parser

end Tabsmith
