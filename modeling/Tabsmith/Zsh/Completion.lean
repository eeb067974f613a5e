import Tabsmith.Program.Site
import Tabsmith.Zsh.Script
import Tabsmith.Zsh.Spec

/-!
The zsh script of a program. A function with commands below it describes them in one state and, in
the other, calls the function of the chosen one, which is defined before it.
-/

namespace Tabsmith.Zsh

/-- The specifications that lead from the first word to the state of a level and from the others
to the function of the chosen command. -/
def stateSpecs (level : Level) : List String :=
  [enclose ("1: :->" ++ level.state), enclose "*::arg:->args"]

/-- The branches to the functions of the commands below a path that starts with the program. -/
def branches (path : List String) (commands : List Command) : List Branch :=
  (visibleCommands commands).map fun c =>
    ⟨c.name, if c.isLeaf then none else some (functionName (path ++ [c.name]))⟩

/-- The entries of the visible commands. -/
def entries (commands : List Command) : List String :=
  (visibleCommands commands).map describeEntry

/-- The function of a site. -/
def siteFunction (program : String) (site : Site) : Function :=
  let c := site.command
  let path := program :: site.path
  let specs := c.options.flatMap optionSpecs
  { name := functionName path
    body :=
      if !c.subcommands.isEmpty then
        [.context, .describe .subcommand (entries c.subcommands),
          .arguments true (specs ++ stateSpecs .subcommand), .blank,
          .dispatch .subcommand (branches path c.subcommands)]
      else
        let specs := specs ++ argumentSpecs 1 c.arguments
        [if specs.isEmpty then .nothing else .arguments false specs] }

/-- The entry function. -/
def entryFunction (p : Program) : Function :=
  let specs := p.globalOptions.flatMap optionSpecs
  { name := functionName [p.name]
    body :=
      [.context, .optionTable, .blank] ++
      (if p.commands.isEmpty then [.arguments true specs]
        else
          [.describe .command (entries p.commands),
            .arguments true (specs ++ stateSpecs .command), .blank,
            .dispatch .command (branches [p.name] p.commands)]) }

/-- The entries of the visible commands take no stray apart. -/
def entriesAreWhole (commands : List Command) : Bool :=
  (visibleCommands commands).all fun c => c.strays.lacks "description"

/-- The function of a site takes no stray apart. -/
def siteIsWhole (site : Site) : Bool :=
  let c := site.command
  c.options.all optionIsWhole &&
    if c.subcommands.isEmpty then c.arguments.all argumentIsWhole
    else entriesAreWhole c.subcommands

/-- The script of a program takes no stray apart. -/
def isWhole (p : Program) : Bool :=
  p.sites.all siteIsWhole && p.globalOptions.all optionIsWhole && entriesAreWhole p.commands

/-- The zsh completion script of a program. -/
def script (p : Program) : Script where
  program := p.name
  functions := (sitesUp [] p.commands).map (siteFunction p.name)
  entry := entryFunction p

end Tabsmith.Zsh
