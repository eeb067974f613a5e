import Tabsmith.Fish.Script
import Tabsmith.Program.Site
import Tabsmith.Text.Blank

/-!
The fish script of a program. Commands and options are offered under the condition of the path they
belong to.
-/

namespace Tabsmith.Fish

/-- The candidates for a value with a hint. The empty list leaves fish to complete files. -/
def hintCandidates : Option Hint → String
  | none => ""
  | some hint =>
    match hint.kind with
    | .file => ""
    | .directory => "(__fish_complete_directories)"
    | .static => " ".intercalate hint.values
    | .command | .dynamic => "(" ++ hint.command ++ ")"

/-- The candidates for the value of an option, if it takes one. -/
def candidates (o : Opt) : Option String :=
  if o.isBoolean then none
  else if o.choices.isEmpty then some (hintCandidates o.completion)
  else some (" ".intercalate o.choices)

/-- A short flag by its style. -/
def shortFlag (name : String) : Flag :=
  if name.length = 1 then .short name else .old name

/-- The flags of an option, the short ones first. -/
def flags (o : Opt) : List Flag :=
  o.short.map shortFlag ++ [.long o.name]

/-- The lines of an option: one for each flag. -/
def optionLines (condition : Condition) (o : Opt) : List Line :=
  (flags o).map fun flag => ⟨condition, .flag flag o.description (candidates o)⟩

/-- The lines of the visible options. -/
def optionsLines (condition : Condition) (options : List Opt) : List Line :=
  (visibleOptions options).flatMap (optionLines condition)

/-- The lines of the visible commands. -/
def commandLines (condition : Condition) (commands : List Command) : List Line :=
  (visibleCommands commands).map fun c => ⟨condition, .command c.name c.description⟩

/-- The line for the first argument of a command, if it is a folder. -/
def argumentLines (condition : Condition) (c : Command) : List Line :=
  match c.drivingArgument?.bind (·.completion) with
  | some hint => if hint.kind = .directory then [⟨condition, .folders⟩] else []
  | none => []

/-- The lines of a site. -/
def siteLines (site : Site) : List Line :=
  let condition := Condition.path site.path
  commandLines condition site.command.subcommands ++
    optionsLines condition site.command.options ++ argumentLines condition site.command

/-- The script of a program takes no stray apart. -/
def isWhole (p : Program) : Bool :=
  p.strays.lacks "description" && p.isDescribedByTexts

/-- The fish completion script of a program. -/
def script (p : Program) : Script where
  program := p.name
  description := if p.description = "" then none else some (Text.flatten p.description)
  lines :=
    commandLines .start p.commands ++ optionsLines .start p.globalOptions ++
      p.sites.flatMap siteLines

end Tabsmith.Fish
