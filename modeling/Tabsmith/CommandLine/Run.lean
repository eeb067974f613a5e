import Tabsmith.CommandLine
import Tabsmith.Console
import Tabsmith.Validate
import Tabsmith.Wizard

/-!
Running a command line: what it prints, writes and logs, and how it ends.
-/

namespace Tabsmith

/-- The version of the program. -/
def programVersion : String := "0.4.0"

/-- What a command line leaves: the console, the dialog if there was one, and how the run ended. -/
structure RunResult where
  console : Console
  events : List Event := []
  outcome : Except Fault ExitCode

/-- The circumstances of a run beside its setting. -/
structure Circumstances where
  outputIsTerminal : Bool := false
  errorsAreTerminal : Bool := false
  stamp : Stamp := default
  answers : List Answer := []

namespace CommandLine

/-- The commands. -/
def commands : List String := ["generate", "validate", "install"]

/-- The lines of the help. -/
def helpLines : List String :=
  ["Usage: shellcomp [OPTIONS] COMMAND [ARGS]",
    "",
    "Generate shell completion scripts from a CLI description.",
    "",
    "Commands:",
    "  generate <" ++ "|".intercalate Shell.names ++ "> <source> [default|PATH]",
    "                      Print the script, or write it to the default location or PATH",
    "  validate <source>   Check a schema document and report errors and warnings",
    "  install [<source>]  Interactive installation",
    "",
    "A source is a .json or .toml schema document, or module:attribute naming an",
    "argparse.ArgumentParser (or a callable returning one).",
    "",
    "Options:",
    "  --debug             Verbose logging",
    "  --log-file PATH     Also log to PATH",
    "  --version           Show the version",
    "  --help              Show this message"]

/-- Ends a run with a message among the errors. -/
def refuse (c : Console) (message : String) (code : ExitCode) : RunResult :=
  { console := c.printError message, outcome := pure code }

/-- The setting of work that starts with a console and takes its notes there. -/
def settingAt (s : Setting) (stamp : Stamp) (c : Console) : Setting :=
  { s with
    files := c.files
    keep := fun notes files => (Console.takeAll { c with files := files } stamp notes).files }

/-- Runs the command that generates. -/
def runGenerate (s : Setting) (stamp : Stamp) (c : Console) (params : List String) : RunResult :=
  match (Generate.plan (settingAt s stamp c) params).outcome with
  | (.error fault, notes) => { console := c.takeAll stamp notes, outcome := throw fault }
  | (.ok plan, notes) =>
    let c := c.takeAll stamp notes
    let (outcome, files) := plan.carryOut s c.files
    let c := { c with files := files }
    match outcome with
    | .error fault => { console := c, outcome := throw fault }
    | .ok (.success, text) =>
      let ending := if text.toList.getLast? = some '\n' then "" else "\n"
      { console := { c with output := c.output ++ text ++ ending }, outcome := pure .success }
    | .ok (code, text) => refuse c text code

/-- The report of a validation, printed line by line. A report on a source that gives a program
goes to the output, and any other among the errors. -/
def printReport (s : Setting) (around : Circumstances) (c : Console) (code : ExitCode)
    (report : String) : Console :=
  let accepted : Bool := code = .success
  let terminal := if accepted then around.outputIsTerminal else around.errorsAreTerminal
  let wanted := Style.isWanted s.environment terminal
  (Text.lines report).foldl (fun c line =>
    let painted := (Style.ofReportLine accepted line).paint wanted line
    if accepted then c.print painted else c.printError painted) c

/-- Runs the command that validates. -/
def runValidate (s : Setting) (around : Circumstances) (c : Console) (params : List String) :
    RunResult :=
  match params with
  | [source] =>
    let (outcome, notes) := Validate.run (settingAt s around.stamp c) source
    let c := c.takeAll around.stamp notes
    match outcome with
    | .error fault => { console := c, outcome := throw fault }
    | .ok (code, report) => { console := printReport s around c code report, outcome := pure code }
  | _ => refuse c "Usage: validate <source>" .usage

/-- Runs the command that installs. -/
def runInstall (s : Setting) (around : Circumstances) (c : Console) (params : List String) :
    RunResult :=
  let dialog := Wizard.dialog (settingAt s around.stamp c) params.head?
  let (outcome, state) := dialog.run.run { answers := around.answers }
  let c := c.takeAll around.stamp state.notes
  match outcome with
  | .error (.breakdown .interrupted) =>
    { console := c.print "\n\nInstallation cancelled.", events := state.events
      outcome := pure .usage }
  | .error fault => { console := c, events := state.events, outcome := throw fault }
  | .ok plan =>
    let (outcome, events, files) := Wizard.carryOut s c.files plan
    { console := { c with files := files }
      events := state.events ++ events
      outcome := outcome.map fun installed => if installed then .success else .usage }

/-- Runs a command once the logs are open. -/
def runCommand (s : Setting) (around : Circumstances) (c : Console) (command : String)
    (params : List String) : RunResult :=
  let words := (Value.list (params.map .text)).literal
  let c := c.take around.stamp ⟨.debug, s!"Running {command} {words}", .main⟩
  match command with
  | "generate" => runGenerate s around.stamp c params
  | "validate" => runValidate s around c params
  | "install" => runInstall s around c params
  | _ =>
    refuse c (s!"Unknown command: {command}. Available: " ++ ", ".intercalate commands) .usage

/-- Runs a command line whose setting is known to be sound. -/
def runReady (s : Setting) (around : Circumstances) (c : Console) (line : CommandLine) :
    RunResult :=
  if line.version then { console := c.print programVersion, outcome := pure .success }
  else
    let help := helpLines.foldl Console.print c
    if line.help then { console := help, outcome := pure .success }
    else match line.command with
      | none => { console := help, outcome := pure .usage }
      | some command =>
        match c.openLog s.workFolder s.environment around.errorsAreTerminal (line.logFile.getD "")
          line.debug with
        | (.error cause, c) => { console := c, outcome := throw (.breakdown cause) }
        | (.ok (), c) => runCommand s around c command line.params

/-- Runs a command line. Nothing is done unless the place of the configuration is known. -/
def run (s : Setting) (around : Circumstances) (line : CommandLine) : RunResult :=
  let c : Console := { files := s.files, log := Log.start s.environment }
  match Config.file s with
  | .error fault => { console := c, outcome := throw fault }
  | .ok _ => runReady s around c line

end CommandLine

end Tabsmith
