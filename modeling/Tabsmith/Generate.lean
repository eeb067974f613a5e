import Tabsmith.Destination
import Tabsmith.ExitCode
import Tabsmith.Source

/-!
Generating the script of a source for a shell, to be shown or to be written. What is to be done is
worked out first, without a change to the file tree; carrying it out is a second step.
-/

namespace Tabsmith

/-- What is asked for: a shell, a source, and where the script goes if it is to be written. -/
structure Order where
  shell : Shell
  source : String
  destination : Option String := none
deriving DecidableEq, Repr, Inhabited

namespace Order

/-- The word for the destination that the configuration gives. -/
def usualPlace : String := "default"

/-- A destination that leads to one place wherever the run starts, or the word for the usual one. -/
def isDestination (word : String) : Bool :=
  word = usualPlace || word.toList.head? = some '/' || word.toList.head? = some '~'

/-- The order that words make, or why they make none. -/
def ofWords : List String → Except String Order
  | shell :: source :: rest =>
    match Shell.ofName? shell with
    | none => throw (s!"Unsupported shell: {shell}. Supported: " ++ ", ".intercalate Shell.names)
    | some known =>
      match rest with
      | [] => pure ⟨known, source, none⟩
      | destination :: _ =>
        if isDestination destination then pure ⟨known, source, some destination⟩
        else throw "Relative paths not supported. Use absolute path, ~/path, or 'default'."
  | _ => throw ("Usage: generate <" ++ "|".intercalate Shell.names ++ "> <schema> [default|path]")

end Order

/-- What is left to do once the script is there. -/
inductive Plan where
  /-- To say something and to end. -/
  | reply (code : ExitCode) (text : String)
  /-- To write a script for a shell to a path, which is the usual one or not. -/
  | install (shell : Shell) (script path : String) (isUsual : Bool)
deriving Repr, Inhabited

namespace Generate

/-- The note that a script is written. -/
def scriptNote (shell : Shell) (p : Program) : Note :=
  ⟨.debug, s!"Generating {shell.name} completion for {p.name} " ++
    s!"({p.commands.length} top-level commands)", .script⟩

/-- The script of a program. -/
def script (shell : Shell) (p : Program) : Noted String := do
  modify (· ++ [scriptNote shell p])
  pure (shell.script p)

/-- The reply to a source that gives no program. Only a breakdown has none. -/
def reply (fault : Fault) : Except Fault Plan :=
  match fault with
  | .invalid cause => pure (.reply .invalid ("\n".intercalate (cause.message :: cause.lines)))
  | .unusable cause => pure (.reply .failure s!"Failed to generate completions: {cause.message}")
  | .breakdown _ => throw fault

/-- The plan to write a script to a path. -/
def install (shell : Shell) (script path : String) (isUsual : Bool) : Noted Plan := do
  modify (· ++ [Destination.note path])
  pure (.install shell script path isUsual)

/-- The plan to write the script of a program to the place that the configuration gives. -/
def installUsual (s : Setting) (shell : Shell) (name script : String) : Noted Plan := do
  match ← Noted.attempt (Config.load s) with
  | .error cause => pure (.reply .failure cause.message)
  | .ok config =>
    install shell script (← Noted.ofExcept (Destination.default s shell.name name config)) true

/-- The plan for a script that is there. -/
def placed (s : Setting) (order : Order) (name script : String) : Noted Plan := do
  match order.destination with
  | none => pure (.reply .success script)
  | some destination =>
    if destination = Order.usualPlace then installUsual s order.shell name script
    else
      install order.shell script (← Noted.ofExcept (s.userPath destination)).text false

/-- The plan for an order. -/
def planOrder (s : Setting) (order : Order) : Noted Plan := do
  let loading := Source.load s order.source
  modify (· ++ loading.notes)
  match loading.outcome with
  | .error fault => Noted.ofExcept (reply fault)
  | .ok program => placed s order program.name (← script order.shell program)

/-- The plan for the words of an order. -/
def plan (s : Setting) (words : List String) : Noted Plan :=
  match Order.ofWords words with
  | .error message => pure (.reply .usage message)
  | .ok order => planOrder s order

end Generate

/-- The result of a plan: how the run ends and what it says, or its failure, and the file tree that
it leaves. -/
def Plan.carryOut (s : Setting) (files : FileTree) :
    Plan → Except Fault (ExitCode × String) × FileTree
  | .reply code text => (pure (code, text), files)
  | .install shell script path isUsual =>
    match Destination.tryWrite s.workFolder script path files with
    | (.error fault, files) => (throw fault, files)
    | (.ok (some refused), files) => (pure (.failure, Destination.refusal refused), files)
    | (.ok none, files) =>
      ((Destination.success s shell.name path isUsual).map fun text => (.success, text), files)

/-- What is left by work that ends in a plan. -/
structure Handled where
  outcome : Except Fault (ExitCode × String)
  notes : List Note
  files : FileTree

/-- Works out the plan for the words of an order and carries it out. -/
def Generate.run (s : Setting) (words : List String) : Handled :=
  match (plan s words).outcome with
  | (.error fault, notes) => ⟨throw fault, notes, s.files⟩
  | (.ok plan, notes) =>
    let (outcome, files) := plan.carryOut s s.files
    ⟨outcome, notes, files⟩

end Tabsmith
