import Tabsmith.Text.Replace

/-!
The fish scripts that this library writes: one line for each candidate, with the condition under
which it is offered. `Script.text` is the only place where a script becomes text.
-/

namespace Tabsmith.Fish

/-- A text between apostrophes: each backslash gets one before it, and then each apostrophe. -/
def quote (s : String) : String :=
  "'" ++ Text.replace (Text.replace s "\\" "\\\\") "'" "\\'" ++ "'"

/-- When a line applies: before any command of the program, or after the commands of a path. -/
inductive Condition where
  | start
  | path (names : List String)
deriving DecidableEq, Repr, Inhabited

/-- The test for the commands of a path. -/
def pathTest (names : List String) : String :=
  "; and ".intercalate (names.map ("__fish_seen_subcommand_from " ++ ·))

/-- A condition as a command. -/
def Condition.text : Condition → String
  | start => "__fish_use_subcommand"
  | path names => pathTest names

/-- A flag of an option. Short flags of several characters are flags of the old style. -/
inductive Flag where
  | short (name : String)
  | old (name : String)
  | long (name : String)
deriving DecidableEq, Repr, Inhabited

/-- A flag as the switch that declares it. -/
def Flag.text : Flag → String
  | short name => "-s " ++ name
  | old name => "-o " ++ name
  | long name => "-l " ++ name

/-- What a line offers. -/
inductive Offer where
  | command (name description : String)
  /-- The candidates are those of the flag's value, if it takes one. -/
  | flag (flag : Flag) (description : String) (candidates : Option String)
  | folders
deriving DecidableEq, Repr, Inhabited

/-- A description, unless it is empty. -/
def descriptionWords (description : String) : List String :=
  if description = "" then [] else ["-d " ++ quote description]

/-- The words of a line that are about its offer. -/
def Offer.words : Offer → List String
  | command name description => ("-a " ++ quote name) :: descriptionWords description
  | flag f description candidates =>
    [f.text] ++ descriptionWords description ++
      (match candidates with
        | none => []
        | some list => "-r" :: if list = "" then [] else ["-a " ++ quote list])
  | folders => ["-x", "-a '(__fish_complete_directories)'"]

/-- A line of a script. -/
structure Line where
  condition : Condition
  offer : Offer
deriving DecidableEq, Repr, Inhabited

/-- The text of a line for a program. -/
def Line.text (program : String) (line : Line) : String :=
  " ".intercalate
    (("complete -c " ++ program ++ " -n " ++ quote line.condition.text) :: line.offer.words)

/-- A completion script. The header has the program's description on one line, if it has one. -/
structure Script where
  program : String
  description : Option String
  lines : List Line
deriving DecidableEq, Repr, Inhabited

/-- The text of a script. -/
def Script.text (s : Script) : String :=
  "\n".intercalate
    ((s.description.map fun line => "# " ++ s.program ++ " - " ++ line).toList ++
      ["# Generated by: shellcomp generate fish", ""] ++ s.lines.map (Line.text s.program)) ++ "\n"

end Tabsmith.Fish
