import Tabsmith.Dialog
import Tabsmith.Generate

/-!
The dialog that installs the script of a program. It loads the source, asks for the shell and for
the destination, and asks again before a file is replaced.
-/

namespace Tabsmith

namespace Wizard

def bannerStyle : String := "bold fg:cyan"

def goodStyle : String := "fg:green bold"

def detectedStyle : String := "fg:green"

def warningStyle : String := "fg:yellow"

def faultStyle : String := "fg:red bold"

def detailStyle : String := "fg:red"

/-- The lines of the banner. -/
def banner : List String :=
  ["\n╭─────────────────────────────────────╮", "│     shellcomp Completion Installer  │",
    "╰─────────────────────────────────────╯\n"]

/-- The shell that the environment tells of. -/
def detect? (env : Environment) : Option Shell :=
  match env.filled? "PSModulePath", env.filled? "SHELL" with
  | some _, none => some .powershell
  | _, shell =>
    let name := (Path.ofText (shell.getD "")).name
    if name = "pwsh" then some .powershell else Shell.ofName? name

/-- The choices of shells, a detected one first. -/
def choices (detected : Option Shell) : List (String × String) :=
  match detected with
  | none => Shell.all.map fun shell => (shell.title, shell.name)
  | some found =>
    (found.title ++ " (detected)", found.name) ::
      (Shell.all.filter (· ≠ found)).map fun shell => (shell.title, shell.name)

/-- The shell to install for, unless the user cancels. -/
def askShell (env : Environment) : Dialog (Option String) := do
  let detected := detect? env
  match detected with
  | some found => Dialog.say s!"Detected: {found.title}" detectedStyle
  | none => pure ()
  let answer ← Dialog.ask
    (.select "Which shell should get the completions?" (choices detected)
      (detected.getD .bash).name)
  pure (if answer.isNull then none else some answer.display)

/-- The source, unless the user cancels. -/
def askSource : Dialog (Option String) := do
  let answer ← Dialog.ask (.path "Schema file (or module:attribute):" "")
  pure (if answer.isTruthy then some answer.display else none)

/-- The destination, unless the user cancels or gives a relative path. -/
def askDestination (s : Setting) (usual : String) : Dialog (Option String) := do
  match ← Dialog.ask (.path "Install completions to:" usual) with
  | .text "" => pure none
  | .text answer =>
    let path ← ExceptT.mk (pure (s.userPath answer))
    if path.isAbsolute then pure (some path.text)
    else do
      Dialog.say "Relative paths not supported. Use absolute path or ~/path." detailStyle
      pure none
  | answer => if answer.isTruthy then throw (.breakdown .wrongKind) else pure none

/-- A destination may be written to: nothing is there, or the user agrees to replace it. -/
def mayWrite (s : Setting) (destination : String) : Dialog Bool := do
  match ← ExceptT.mk (pure (s.find? (Path.ofText destination))) with
  | none => pure true
  | some _ =>
    Dialog.say s!"\nExisting file found at: {destination}" warningStyle
    return (← Dialog.ask (.confirm "Overwrite it?" false)).isTruthy

/-- The destination, unless the user gives none or keeps what is there. -/
def chooseDestination (s : Setting) (usual : String) : Dialog (Option String) := do
  match ← askDestination s usual with
  | none => pure none
  | some destination => return if ← mayWrite s destination then some destination else none

/-- The program of a source. The user is told why there is none. -/
def loadProgram (s : Setting) (source : String) : Dialog (Option Program) := do
  let loading := Source.load s source
  Dialog.note loading.notes
  match loading.outcome with
  | .ok program =>
    loading.warnings.forM fun warning => Dialog.say s!"  {warning.text}" warningStyle
    pure (some program)
  | .error (.invalid cause) =>
    Dialog.say cause.message faultStyle
    cause.lines.forM fun line => Dialog.say s!"  {line}" detailStyle
    pure none
  | .error (.unusable cause) =>
    Dialog.say cause.message faultStyle
    pure none
  | .error fault => throw fault

/-- The script of a program and where it goes for a shell, unless the user ends the dialog. -/
def chooseInstall (s : Setting) (program : Program) (shell : String) : Dialog (Option Plan) := do
  match ← Dialog.ofNoted (Noted.attempt (Config.load s)) with
  | .error cause =>
    Dialog.say cause.message faultStyle
    pure none
  | .ok config =>
    let usual ← ExceptT.mk (pure (Destination.default s shell program.name config))
    match ← chooseDestination s usual with
    | none =>
      Dialog.say "Nothing installed." warningStyle
      pure none
    | some destination =>
      let known ← ExceptT.mk (pure (Shell.ofValue (.text shell)))
      let script ← Dialog.ofNoted (Generate.script known program)
      some <$> Dialog.ofNoted (Generate.install known script destination (destination = usual))

/-- The dialog from the program on. -/
def withProgram (s : Setting) (program : Program) : Dialog (Option Plan) := do
  match ← askShell s.environment with
  | none => pure none
  | some shell => chooseInstall s program shell

/-- The dialog up to the plan to install, if the user gets there. -/
def dialog (s : Setting) (source : Option String) : Dialog (Option Plan) := do
  banner.forM fun line => Dialog.say line bannerStyle
  let source ← match source with
    | none | some "" => askSource
    | some source => pure (some source)
  match source with
  | none => pure none
  | some source =>
    match ← loadProgram s source with
    | none => pure none
    | some program => withProgram s program

/-- What a plan to install comes to: whether the script is installed, or the failure, what the user
is told, and the file tree that is left. -/
def carryOut (s : Setting) (files : FileTree) :
    Option Plan → Except Fault Bool × List Event × FileTree
  | some (.install shell script path isUsual) =>
    match Destination.tryWrite s.workFolder script path files with
    | (.error fault, files) => (throw fault, [], files)
    | (.ok (some refused), files) =>
      (pure false, [.said (Destination.refusal refused) faultStyle], files)
    | (.ok none, files) =>
      match Destination.success s shell.name path isUsual with
      | .ok text => (pure true, [.said s!"\n✓ {text}" goodStyle], files)
      | .error fault => (throw fault, [], files)
  | _ => (pure false, [], files)

end Wizard

/-- What a dialog to install leaves. -/
structure Installation where
  outcome : Except Fault Bool
  events : List Event
  notes : List Note
  files : FileTree

/-- The dialog of a user who gives `answers`, and what it comes to. -/
def Wizard.run (s : Setting) (source : Option String) (answers : List Answer) : Installation :=
  match (dialog s source).run.run { answers := answers } with
  | (.error fault, state) => ⟨throw fault, state.events, state.notes, s.files⟩
  | (.ok plan, state) =>
    let (outcome, events, files) := carryOut s s.files plan
    ⟨outcome, state.events ++ events, state.notes, files⟩

end Tabsmith
