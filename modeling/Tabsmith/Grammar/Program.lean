import Tabsmith.Grammar.Check
import Tabsmith.Program

/-!
The grammar of program descriptions.
-/

namespace Tabsmith

/-- The kinds of node in a program description. -/
inductive NodeKind where
  | hint | option | argument | command | program
deriving DecidableEq, Repr, Inhabited

namespace NodeKind

/-- The fields of a hint. -/
def hintRules : List (Rule NodeKind) := [
  { name := "type", required := true,
    choices := some (HintKind.all.map fun kind => .text kind.name) },
  { name := "values", kinds := [.list], condition := .texts },
  { name := "command", condition := .filled },
  { name := "pattern" },
  { name := "extensions", kinds := [.list], condition := .texts }]

/-- The fields of an option. -/
def optionRules : List (Rule NodeKind) := [
  { name := "name", required := true, condition := .filled },
  { name := "short", kinds := [.text, .list], condition := .tokens },
  { name := "type" },
  { name := "description" },
  { name := "required", kinds := [.bool] },
  { name := "repeatable", kinds := [.bool] },
  { name := "default", kinds := [.anything] },
  { name := "enum", kinds := [.list], condition := .texts },
  { name := "hidden", kinds := [.bool] },
  { name := "completion", kinds := [.object], children := some .hint }]

/-- The fields of an argument. -/
def argumentRules : List (Rule NodeKind) := [
  { name := "name", required := true, condition := .filled },
  { name := "description" },
  { name := "required", kinds := [.bool] },
  { name := "variadic", kinds := [.bool] },
  { name := "completion", kinds := [.object], children := some .hint }]

/-- The fields of a command. Commands nest to any depth. -/
def commandRules : List (Rule NodeKind) := [
  { name := "name", required := true, condition := .filled },
  { name := "description" },
  { name := "hidden", kinds := [.bool] },
  { name := "options", kinds := [.list], items := some .option, uniqueNames := true },
  { name := "arguments", kinds := [.list], items := some .argument },
  { name := "subcommands", kinds := [.list], items := some .command, uniqueNames := true }]

/-- The fields of a program. -/
def programRules : List (Rule NodeKind) := [
  { name := "name", required := true, condition := .filled },
  { name := "description" },
  { name := "version", kinds := [.text, .int, .float] },
  { name := "commands", kinds := [.list], items := some .command, uniqueNames := true },
  { name := "globalOptions", kinds := [.list], items := some .option, uniqueNames := true }]

/-- The fields of each kind of node. -/
def rules : NodeKind → List (Rule NodeKind)
  | hint => hintRules
  | option => optionRules
  | argument => argumentRules
  | command => commandRules
  | program => programRules

end NodeKind

/-- A static hint needs values, and a hint whose candidates come from a command needs that. -/
def hintDemands (node : Fields) : List (String × Cause) :=
  match node.get "type" with
  | .text "static" => if (node.get "values").isTruthy then [] else [("values", .noValues)]
  | .text "command" =>
    if (node.get "command").isTruthy then [] else [("command", .noCommand "Command")]
  | .text "dynamic" =>
    if (node.get "command").isTruthy then [] else [("command", .noCommand "Dynamic")]
  | _ => []

/-- The grammar of program descriptions. -/
def programGrammar : Grammar NodeKind where
  rules := NodeKind.rules
  demand
    | .hint => hintDemands
    | _ => fun _ => []

/-- The path of a description's root: the name of the program, if it has one. -/
def rootLocation (node : Fields) : String :=
  match nodeName? node with
  | some name => if name = "" then "schema" else name
  | none => "schema"

/-- The check of a whole document. -/
def checkDocument : Value → Report
  | .object node => programGrammar.check .program (rootLocation node) (.object node)
  | value => Report.ofProblems [⟨"schema", "<root>", .element value⟩]

end Tabsmith
