import Tabsmith.PowerShell.Script
import Tabsmith.Program.Site

/-!
The PowerShell script of a program: a branch for the program itself and one for each site.
-/

namespace Tabsmith.PowerShell

/-- The candidates of the visible commands. -/
def commandEntries (commands : List Command) : List Entry :=
  (visibleCommands commands).map fun c => .result c.name .parameterValue c.description

/-- The candidates of an option: its flags. -/
def optionEntries (o : Opt) : List Entry :=
  o.flags.map fun flag => .result flag .parameterName o.description

/-- The candidates of the visible options. -/
def optionsEntries (options : List Opt) : List Entry :=
  (visibleOptions options).flatMap optionEntries

/-- The listing for the first argument of a command, if it is a file or a folder. -/
def argumentEntries (c : Command) : List Entry :=
  match c.drivingArgument?.bind (·.completion) with
  | some hint =>
    match hint.kind with
    | .file => [.files]
    | .directory => [.folders]
    | _ => []
  | none => []

/-- The branch of a site. -/
def siteBranch (program : String) (site : Site) : Branch where
  path := program :: site.path
  entries :=
    commandEntries site.command.subcommands ++ optionsEntries site.command.options ++
      argumentEntries site.command

/-- The PowerShell completion script of a program. -/
def script (p : Program) : Script where
  title := Text.trimEnd p.title
  program := p.name
  branches :=
    ⟨[p.name], commandEntries p.commands ++ optionsEntries p.globalOptions⟩ ::
      p.sites.map (siteBranch p.name)

end Tabsmith.PowerShell
