import Tabsmith.Bash.Quoting

/-!
The bash scripts that this library writes: functions made of a few kinds of statement, and a
registration at the end. `Script.text` is the only place where a script becomes text.
-/

namespace Tabsmith.Bash

/-- The variables that hold word lists. -/
inductive Variable where
  | commands | subcommands | options
deriving DecidableEq, Repr, Inhabited

def Variable.name : Variable → String
  | commands => "commands"
  | subcommands => "subcommands"
  | options => "options"

/-- What is offered for the word at the cursor. -/
inductive Reply where
  /-- Nothing. -/
  | none
  /-- Files and folders. -/
  | files
  /-- Folders. -/
  | folders
  /-- The given words. -/
  | words (words : List String)
  /-- The words that a command prints. -/
  | output (command : String)
  /-- The words that variables hold. -/
  | held (names : List Variable)
deriving DecidableEq, Repr, Inhabited

/-- Words on the right of an assignment, inside its double quotes. -/
def wordList (words : List String) : String :=
  " ".intercalate (words.map escape)

/-- The completion of the current word from a list of words, inside its double quotes. -/
def fromWords (words : String) : String :=
  "COMPREPLY=($(compgen -W \"" ++ words ++ "\" -- \"$cur\"))"

/-- A reply as a statement. -/
def Reply.text : Reply → String
  | none => "COMPREPLY=()"
  | files => "COMPREPLY=($(compgen -f -- \"$cur\"))"
  | folders => "COMPREPLY=($(compgen -d -- \"$cur\"))"
  | words ws => fromWords (wordList ws)
  | output command => fromWords ("$(" ++ command ++ ")")
  | held vs => fromWords (" ".intercalate (vs.map fun v => "$" ++ v.name))

/-- A branch that hands the completion over to a function. -/
structure Branch where
  word : String
  target : String
deriving DecidableEq, Repr, Inhabited

/-- The completion of the value of an option, which any of the flags introduces. -/
structure ValueBranch where
  flags : List String
  reply : Reply
deriving DecidableEq, Repr, Inhabited

/-- The statements of a completion function. -/
inductive Statement where
  | blank
  /-- The words typed so far, in the variables `cur`, `prev`, `words` and `cword`. -/
  | prepare
  /-- A list of words in a variable of the function. -/
  | declare (target : Variable) (words : List String)
  /-- The reply when the cursor is on the word with this index; the function ends with it. -/
  | atWord (index : Nat) (reply : Reply)
  /-- The reply when the current word starts with a dash; the function ends with it. -/
  | atFlag (reply : Reply)
  /-- The reply for the value of the option just before the cursor; the function ends with it. -/
  | afterFlag (branches : List ValueBranch)
  /-- The function for the word with this index, or a reply if no branch is for it. -/
  | dispatch (index : Nat) (branches : List Branch) (otherwise : Reply)
  | reply (reply : Reply)
deriving DecidableEq, Repr, Inhabited

/-- A line with a branch's pattern, which stands before a closing parenthesis. -/
def patternLine (words : List String) : String :=
  "    " ++ "|".intercalate (words.map pattern) ++ ")"

namespace Statement

/-- The lines of the branch for the value of an option. -/
def valueLines (branch : ValueBranch) : List String :=
  [patternLine branch.flags, "      " ++ branch.reply.text, "      return", "      ;;"]

/-- The lines of a branch that calls a function. -/
def branchLines (branch : Branch) : List String :=
  [patternLine [branch.word], "      " ++ branch.target, "      ;;"]

/-- A reply guarded by a condition, after which the function returns. -/
def guardedLines (condition : String) (reply : Reply) : List String :=
  ["  if [[ " ++ condition ++ " ]]; then", "    " ++ reply.text, "    return", "  fi"]

/-- The lines of a statement. -/
def lines : Statement → List String
  | blank => [""]
  | prepare => [
      "  local cur prev words cword",
      "  if type _init_completion &>/dev/null; then",
      "    _init_completion || return",
      "  else",
      "    COMPREPLY=()",
      "    cur=\"$\x7bCOMP_WORDS[COMP_CWORD]\x7d\"",
      "    prev=\"$\x7bCOMP_WORDS[COMP_CWORD-1]\x7d\"",
      "    words=(\"$\x7bCOMP_WORDS[@]\x7d\")",
      "    cword=$COMP_CWORD",
      "  fi"]
  | declare target words => ["  local " ++ target.name ++ "=\"" ++ wordList words ++ "\""]
  | atWord index r => guardedLines s!"$cword -eq {index}" r
  | atFlag r => guardedLines "$cur == -*" r
  | afterFlag branches =>
    ["  case \"$prev\" in"] ++ branches.flatMap valueLines ++ ["  esac"]
  | dispatch index branches otherwise =>
    [s!"  case \"$\x7bwords[{index}]\x7d\" in"] ++ branches.flatMap branchLines ++
      ["    *)", "      " ++ otherwise.text, "      ;;", "  esac"]
  | reply r => ["  " ++ r.text]

end Statement

/-- A completion function. -/
structure Function where
  name : String
  body : List Statement
deriving DecidableEq, Repr, Inhabited

/-- The lines of a function, with a blank line after it. -/
def Function.lines (f : Function) : List String :=
  [f.name ++ "() \x7b"] ++ f.body.flatMap Statement.lines ++ ["\x7d", ""]

/-- A completion script: the program's title in the header, the functions with the entry function
first, and the program it is registered for. -/
structure Script where
  title : String
  entry : Function
  functions : List Function
  program : String
deriving DecidableEq, Repr, Inhabited

namespace Script

/-- The lines of a script. -/
def lines (s : Script) : List String :=
  ["# Bash completion for " ++ s.title, "# Generated by: shellcomp generate bash", ""] ++
    s.entry.lines ++ s.functions.flatMap Function.lines ++
    ["complete -F " ++ s.entry.name ++ " " ++ s.program]

/-- The text of a script. -/
def text (s : Script) : String :=
  "\n".intercalate s.lines ++ "\n"

end Script

end Tabsmith.Bash
