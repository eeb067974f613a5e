import Tabsmith.Value

/-!
The description of a command-line program: its commands, nested to any depth, their options and
positional arguments, and hints on how to complete values.

A part may have been read from a document in which something else stands where a text belongs. Its
field then holds the plain form of that value, and the value itself is among the strays of the part,
under the name of the field. A document without problems gives a program without strays.
-/

namespace Tabsmith

/-- How a value is completed. -/
inductive HintKind where
  | file | directory | static | command | dynamic
deriving DecidableEq, Repr, Inhabited

namespace HintKind

/-- The kinds in the order in which messages list them. -/
def all : List HintKind := [file, directory, static, command, dynamic]

/-- The word for a kind in documents. -/
def name : HintKind → String
  | file => "file"
  | directory => "directory"
  | static => "static"
  | command => "command"
  | dynamic => "dynamic"

/-- The kind that a word names. -/
def ofName? (word : String) : Option HintKind :=
  all.find? fun kind => kind.name = word

theorem ofName?_name (kind : HintKind) : ofName? kind.name = some kind := by
  cases kind <;> decide

end HintKind

/-- A completion hint. Static hints use `values`, command and dynamic hints `command`, and file
hints `pattern` and `extensions`. -/
structure Hint where
  kind : HintKind
  values : List String := []
  command : String := ""
  pattern : String := ""
  extensions : List String := []
  strays : Fields := []
deriving Repr, Inhabited

/-- The value type of options that take no value. -/
def booleanType : String := "boolean"

/-- An option. Its name is the long flag without the dashes, and `short` lists the short flags
without theirs. -/
structure Opt where
  name : String
  short : List String := []
  type : String := booleanType
  description : String := ""
  required : Bool := false
  repeatable : Bool := false
  default : Value := .null
  choices : List String := []
  hidden : Bool := false
  completion : Option Hint := none
  strays : Fields := []
deriving Repr, Inhabited

namespace Opt

/-- The option takes no value. The plain form of a stray value is never the word for that. -/
def isBoolean (o : Opt) : Bool :=
  o.type == booleanType

/-- All flags of an option, the short ones first. -/
def flags (o : Opt) : List String :=
  o.short.map ("-" ++ ·) ++ ["--" ++ o.name]

end Opt

/-- A positional argument. -/
structure Argument where
  name : String
  description : String := ""
  required : Bool := true
  variadic : Bool := false
  completion : Option Hint := none
  strays : Fields := []
deriving Repr, Inhabited

/-- A command, with the commands below it. -/
structure Command where
  name : String
  description : String := ""
  hidden : Bool := false
  options : List Opt := []
  arguments : List Argument := []
  subcommands : List Command := []
  strays : Fields := []
deriving Repr, Inhabited

namespace Command

/-- Nothing is left to complete after the name of the command. -/
def isLeaf (c : Command) : Bool :=
  c.subcommands.isEmpty && c.options.isEmpty && c.arguments.isEmpty

/-- The argument whose hint completes values: the first one only. -/
def drivingArgument? (c : Command) : Option Argument :=
  c.arguments.head?

end Command

/-- A program, the root of the tree. -/
structure Program where
  name : String
  description : String := ""
  version : String := ""
  commands : List Command := []
  globalOptions : List Opt := []
  strays : Fields := []
deriving Repr, Inhabited

/-- The options that are listed and completed. -/
def visibleOptions (options : List Opt) : List Opt :=
  options.filter fun o => !o.hidden

/-- The commands that are listed and completed. -/
def visibleCommands (commands : List Command) : List Command :=
  commands.filter fun c => !c.hidden

/-- The visible commands that are followed by something to complete. -/
def branchingCommands (commands : List Command) : List Command :=
  (visibleCommands commands).filter fun c => !c.isLeaf

end Tabsmith
