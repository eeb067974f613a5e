import Tabsmith.CommandLine.Reach

/-!
The program: what a command line can look at is read from the system, the command line is run, and
what the run leaves is written back.
-/

namespace Tabsmith.Main

/-- What stands at a place of the system. -/
def findEntry (place : Place) : IO (Option Entry) := do
  match ← (IO.FS.readBinFile ("/" ++ "/".intercalate place)).toBaseIO with
  | .ok content => pure (some (.file content))
  | .error (.noFileOrDirectory ..) => pure none
  | .error _ => pure (some .folder)

/-- The tree with what stands on the way to a place, as far as the way goes. -/
def addWay (tree : FileTree) (before : Place) : List String → IO FileTree
  | [] => pure tree
  | name :: rest => do
    let place := if name = ".." then before.dropLast else before ++ [name]
    match tree.lookup place with
    | some .folder => addWay tree place rest
    | some (.file _) => pure tree
    | none =>
      match ← findEntry place with
      | some .folder => addWay (tree.put place .folder) place rest
      | some entry => pure (tree.put place entry)
      | none => pure tree

/-- The tree with what stands on the ways to paths. -/
def addPaths (workFolder : Place) (tree : FileTree) (paths : List Path) : IO FileTree :=
  paths.foldlM
    (fun tree path => addWay tree [] ((if path.isAbsolute then [] else workFolder) ++ path.parts))
    tree

/-- The variables of the system that a command line can look at. -/
def readVariables (line : CommandLine) (answers : List Answer) : IO Environment := do
  let found ← (line.variablesFor answers).mapM fun name => do
    pure ((← IO.getEnv name).map fun value => (name, value))
  pure (found.filterMap id)

/-- The setting of a command line. The paths are read again once a document and a configuration are
known, since these lead to further paths. -/
def readSetting (line : CommandLine) (answers : List Answer) : IO Setting := do
  let environment ← readVariables line answers
  let workFolder := (Path.ofText (← IO.currentDir).toString).parts
  let mut s : Setting := { environment := environment, workFolder := workFolder }
  s := { s with files := ← addWay {} [] workFolder }
  for _ in [0, 1, 2] do
    s := { s with files := ← addPaths workFolder s.files (line.reach s answers) }
  pure s

/-- Writes the entries of a tree that another one does not have. -/
def writeChanges (old new : FileTree) : IO Unit :=
  new.entries.forM fun (place, entry) => do
    let path := "/" ++ "/".intercalate place
    match entry, old.lookup place with
    | .folder, none => IO.FS.createDirAll path
    | .folder, some _ => pure ()
    | .file content, some (.file before) =>
      if content != before then IO.FS.writeBinFile path content
    | .file content, _ => IO.FS.writeBinFile path content

/-- Shows what happened in a dialog. -/
def showEvent (event : Event) : IO Unit :=
  match event with
  | .said text _ => IO.println text
  | .asked (.select message choices usual) => do
    IO.println message
    choices.forM fun (title, word) => IO.println s!"  {word}: {title}"
    IO.print s!"[{usual}] "
  | .asked (.path message usual) => IO.print s!"{message} [{usual}] "
  | .asked (.confirm message usual) => do
    let suggestion := if usual then "yes" else "no"
    IO.print s!"{message} [{suggestion}] "

/-- The answer that a line gives to a prompt: an empty line takes the suggestion, and the end of the
input cancels. -/
def answerOf (prompt : Prompt) (line : String) : Answer :=
  if line.isEmpty then .given .null
  else
    let word := Text.flatten line
    if word = "" then .usual
    else match prompt with
      | .confirm _ _ => .given (.bool (word = "y" || word = "yes"))
      | _ => .given (.text word)

/-- The prompt at the end of a dialog in which more was asked than answered. -/
def openPrompt? (events : List Event) (answers : List Answer) : Option Prompt :=
  let asked := events.filterMap fun event =>
    match event with
    | .asked prompt => some prompt
    | .said _ _ => none
  asked[answers.length]?

/-- The events of a dialog up to the prompt that is still open. -/
def upToOpen (answered : Nat) : List Event → List Event
  | [] => []
  | .asked prompt :: rest =>
    match answered with
    | 0 => [.asked prompt]
    | left + 1 => .asked prompt :: upToOpen left rest
  | event :: rest => event :: upToOpen answered rest

/-- Runs a command line. A dialog is run again from its start with every further answer, of which
there are at most `fuel`, and shown from where it went on. -/
def runWith (line : CommandLine) (stamp : Stamp) (answers : List Answer) (shown : Nat) :
    (fuel : Nat) → IO UInt32
  | 0 => pure 1
  | fuel + 1 => do
    let s ← readSetting line answers
    let around : Circumstances :=
      { outputIsTerminal := ← (← IO.getStdout).isTty
        errorsAreTerminal := ← (← IO.getStderr).isTty
        stamp := stamp
        answers := answers }
    let result := line.run s around
    match openPrompt? result.events answers with
    | some prompt =>
      let events := upToOpen answers.length result.events
      (events.drop shown).forM showEvent
      (← IO.getStdout).flush
      let reply ← (← IO.getStdin).getLine
      runWith line stamp (answers ++ [answerOf prompt reply]) events.length fuel
    | none =>
      writeChanges s.files result.console.files
      (result.events.drop shown).forM showEvent
      IO.print result.console.output
      IO.eprint result.console.errors
      match result.outcome with
      | .ok code => pure code.number.toUInt32
      | .error fault =>
        IO.eprintln (fault.message?.getD "the run broke down")
        pure 1

end Tabsmith.Main

/-- Runs the command line that the program was started with. -/
def main (words : List String) : IO UInt32 := do
  let time := toString (← IO.monoMsNow)
  Tabsmith.Main.runWith (Tabsmith.CommandLine.ofWords words) ⟨time, "tabsmith"⟩ [] 0 16
