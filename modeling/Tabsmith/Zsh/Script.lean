import Tabsmith.Zsh.Quoting

/-!
The zsh scripts that this library writes: functions made of a few kinds of statement, and a
registration at the end. `Script.text` is the only place where a script becomes text.
-/

namespace Tabsmith.Zsh

/-- A level of commands: the one below the program, or one below a command. -/
inductive Level where
  | command | subcommand
deriving DecidableEq, Repr, Inhabited

namespace Level

/-- The state in which the commands of the level are completed. -/
def state : Level → String
  | command => "command"
  | subcommand => "subcommand"

/-- The array that describes the commands of the level. -/
def array : Level → String
  | command => "commands"
  | subcommand => "subcommands"

end Level

/-- A branch for a command: the function that completes it, if there is more to complete. -/
structure Branch where
  word : String
  target : Option String
deriving DecidableEq, Repr, Inhabited

/-- The statements of a completion function. -/
inductive Statement where
  | blank
  /-- The variables that the completion system sets. -/
  | context
  /-- The table of the options typed so far. -/
  | optionTable
  /-- The entries that describe the commands of a level. -/
  | describe (level : Level) (entries : List String)
  /-- The options and arguments to complete; with a state, the completion goes on in it. -/
  | arguments (continues : Bool) (specs : List String)
  /-- Nothing to complete. -/
  | nothing
  /-- The description of the commands of a level, or the function of the chosen one. -/
  | dispatch (level : Level) (branches : List Branch)
deriving DecidableEq, Repr, Inhabited

namespace Statement

/-- Lines that a backslash joins, the last one excepted. -/
def continued : List String → List String
  | [] => []
  | [last] => ["    " ++ last]
  | line :: rest => ("    " ++ line ++ " \\") :: continued rest

/-- The lines of a branch. -/
def branchLines (branch : Branch) : List String :=
  ["        " ++ pattern branch.word ++ ")",
    "          " ++ branch.target.getD "# No additional completion",
    "          ;;"]

/-- The lines of a statement. A call without specifications is left out. -/
def lines : Statement → List String
  | blank => [""]
  | context => ["  local context state line"]
  | optionTable => ["  typeset -A opt_args"]
  | describe level entries =>
    ["  local -a " ++ level.array, "  " ++ level.array ++ "=("] ++
      entries.map ("    " ++ ·) ++ ["  )", ""]
  | arguments continues specs =>
    if specs.isEmpty then []
    else (if continues then "  _arguments -C \\" else "  _arguments \\") :: continued specs
  | nothing => ["  :"]
  | dispatch level branches =>
    ["  case $state in",
      "    " ++ level.state ++ ")",
      "      _describe '" ++ level.state ++ "' " ++ level.array,
      "      ;;",
      "    args)",
      "      case $words[1] in"] ++
      branches.flatMap branchLines ++
    ["      esac", "      ;;", "  esac"]

end Statement

/-- A completion function. -/
structure Function where
  name : String
  body : List Statement
deriving DecidableEq, Repr, Inhabited

/-- The lines of a function, with a blank line after it. -/
def Function.lines (f : Function) : List String :=
  [f.name ++ "() \x7b"] ++ f.body.flatMap Statement.lines ++ ["\x7d", ""]

/-- A completion script: the program it is for, the functions of its commands, and the entry
function, which follows them. -/
structure Script where
  program : String
  functions : List Function
  entry : Function
deriving DecidableEq, Repr, Inhabited

namespace Script

/-- The lines of a script. -/
def lines (s : Script) : List String :=
  ["#compdef " ++ s.program, ""] ++ s.functions.flatMap Function.lines ++ s.entry.lines ++
    ["compdef " ++ s.entry.name ++ " " ++ s.program]

/-- The text of a script. -/
def text (s : Script) : String :=
  "\n".intercalate s.lines ++ "\n"

end Script

end Tabsmith.Zsh
