import Tabsmith.Program

/-!
The sites of a program: its visible commands that are followed by something to complete and stand
below such commands only, each with the names that lead to it. Every script has one part for each
site; the scripts differ in the order of the parts and in what a part says.
-/

namespace Tabsmith

/-- A command and the names from the top level down to it. -/
structure Site where
  path : List String
  command : Command
deriving Repr, Inhabited

mutual

/-- The sites of a command below the names `above`, the command before those below it. -/
def Command.sites (above : List String) : Command → List Site
  | c@(.mk name _ _ _ _ subcommands _) =>
    if c.hidden || c.isLeaf then []
    else ⟨above ++ [name], c⟩ :: sitesDown (above ++ [name]) subcommands

/-- The sites of commands from the top down. -/
def sitesDown (above : List String) : List Command → List Site
  | [] => []
  | c :: rest => Command.sites above c ++ sitesDown above rest

end

mutual

/-- The sites of a command below the names `above`, the command after those below it. -/
def Command.sitesUp (above : List String) : Command → List Site
  | c@(.mk name _ _ _ _ subcommands _) =>
    if c.hidden || c.isLeaf then []
    else sitesUp (above ++ [name]) subcommands ++ [⟨above ++ [name], c⟩]

/-- The sites of commands from the bottom up. -/
def sitesUp (above : List String) : List Command → List Site
  | [] => []
  | c :: rest => Command.sitesUp above c ++ sitesUp above rest

end

namespace Program

/-- The sites of a program from the top down. -/
def sites (p : Program) : List Site :=
  sitesDown [] p.commands

/-- The visible ones of some commands and options are described by texts and not by strays. -/
def describedByTexts (commands : List Command) (options : List Opt) : Bool :=
  (visibleCommands commands).all (fun c => c.strays.lacks "description") &&
    (visibleOptions options).all fun o => o.strays.lacks "description"

/-- All visible commands and options of a program are described by texts and not by strays. -/
def isDescribedByTexts (p : Program) : Bool :=
  describedByTexts p.commands p.globalOptions &&
    p.sites.all fun site => describedByTexts site.command.subcommands site.command.options

/-- The program's name with its version, as the headers of scripts give it. -/
def title (p : Program) : String :=
  s!"{p.name} {p.version}"

end Program

/-- The characters that every shell takes in the name of a function. -/
def isIdentifierChar (c : Char) : Bool :=
  c.isAlphanum || c == '_'

/-- A name as part of the name of a function: other characters become underscores. -/
def identifier (name : String) : String :=
  String.ofList (name.toList.map fun c => if isIdentifierChar c then c else '_')

/-- The name of the completion function of a path of names that starts with the program. -/
def functionName (segments : List String) : String :=
  "_" ++ "_".intercalate (segments.map identifier)

end Tabsmith
