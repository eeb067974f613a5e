/-!
The words of a command line, sorted out: options may stand anywhere, the first other word is the
command, and the rest are its parameters.
-/

namespace Tabsmith

/-- A command line. -/
structure CommandLine where
  command : Option String := none
  params : List String := []
  debug : Bool := false
  help : Bool := false
  version : Bool := false
  logFile : Option String := none
deriving DecidableEq, Repr, Inhabited

namespace CommandLine

/-- The command line with a word that is no option. -/
def addWord (line : CommandLine) (word : String) : CommandLine :=
  match line.command with
  | none => { line with command := some word }
  | some _ => { line with params := line.params ++ [word] }

/-- The command line with the words that follow. The option for the log file takes the next word;
at the end it is a word like others. -/
def readOn (line : CommandLine) : List String → CommandLine
  | [] => line
  | "--log-file" :: path :: rest => readOn { line with logFile := some path } rest
  | word :: rest =>
    if word = "--help" || word = "-h" then readOn { line with help := true } rest
    else if word = "--version" || word = "-V" then readOn { line with version := true } rest
    else if word = "--debug" then readOn { line with debug := true } rest
    else readOn (line.addWord word) rest

/-- The command line that words make. -/
def ofWords (words : List String) : CommandLine :=
  readOn {} words

end CommandLine

end Tabsmith
