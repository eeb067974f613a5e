import Tabsmith.Bash.Script
import Tabsmith.Program.Site
import Tabsmith.Text.Blank

/-!
The bash script of a program. The entry function hands over to the function of the first word, and
the function of a command with subcommands to that of the next word; a function knows the index of
that word, since it is called for one path only.
-/

namespace Tabsmith.Bash

/-- The reply for a value with a hint; without one, files. -/
def hintReply : Option Hint → Reply
  | none => .files
  | some hint =>
    match hint.kind with
    | .file => .files
    | .directory => .folders
    | .static => .words hint.values
    | .command | .dynamic => .output hint.command

/-- The reply for the value of an option. -/
def valueReply (o : Opt) : Reply :=
  if o.choices.isEmpty then hintReply o.completion else .words o.choices

/-- The flags of the visible options. -/
def flagWords (options : List Opt) : List String :=
  (visibleOptions options).flatMap Opt.flags

/-- The names of the visible commands. -/
def commandWords (commands : List Command) : List String :=
  (visibleCommands commands).map (·.name)

/-- The branches to the functions of the commands below a path that starts with the program. -/
def branches (path : List String) (commands : List Command) : List Branch :=
  (branchingCommands commands).map fun c => ⟨c.name, functionName (path ++ [c.name])⟩

/-- The completion of option values, if a visible option takes one. -/
def valueStatements (options : List Opt) : List Statement :=
  match (visibleOptions options).filter fun o => !o.isBoolean with
  | [] => []
  | valued => [.afterFlag (valued.map fun o => ⟨o.flags, valueReply o⟩), .blank]

/-- The entry function. -/
def entryFunction (p : Program) : Function where
  name := functionName [p.name]
  body := [
    .prepare,
    .blank,
    .declare .commands (commandWords p.commands),
    .declare .options (flagWords p.globalOptions),
    .blank,
    .atWord 1 (.held [.commands, .options]),
    .blank,
    .dispatch 1 (branches [p.name] p.commands) .none]

/-- The statements of a command with subcommands, whose path has `depth` names. -/
def descendStatements (program : String) (site : Site) : List Statement :=
  let c := site.command
  let next := site.path.length + 1
  let offered : List Variable :=
    .subcommands :: if (visibleOptions c.options).isEmpty then [] else [.options]
  [.blank, .atWord next (.held offered), .blank,
    .dispatch next (branches (program :: site.path) c.subcommands)
      (if (visibleOptions c.options).isEmpty then .none else .held [.options])]

/-- The statements of a command with arguments, of which the first one drives the completion. -/
def argumentStatements (c : Command) (first : Argument) : List Statement :=
  [.blank] ++ valueStatements c.options ++
    (if (visibleOptions c.options).isEmpty then []
      else [.atFlag (.held [.options]), .blank]) ++
    [.reply (hintReply first.completion)]

/-- The statements of a command with options only. -/
def optionStatements (c : Command) : List Statement :=
  [.blank] ++ valueStatements c.options ++
    [.reply (if (visibleOptions c.options).isEmpty then .none else .held [.options])]

/-- The function of a site. -/
def siteFunction (program : String) (site : Site) : Function :=
  let c := site.command
  { name := functionName (program :: site.path)
    body :=
      (if c.subcommands.isEmpty then []
        else [.declare .subcommands (commandWords c.subcommands)]) ++
      (if (visibleOptions c.options).isEmpty then [] else [.declare .options (flagWords c.options)]) ++
      (if !c.subcommands.isEmpty then descendStatements program site
        else match c.drivingArgument? with
          | some first => argumentStatements c first
          | none => optionStatements c) }

/-- The bash completion script of a program. -/
def script (p : Program) : Script where
  title := Text.trimEnd p.title
  entry := entryFunction p
  functions := p.sites.map (siteFunction p.name)
  program := p.name

end Tabsmith.Bash
