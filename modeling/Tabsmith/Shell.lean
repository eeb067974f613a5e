import Tabsmith.Bash.Completion
import Tabsmith.Fault
import Tabsmith.Fish.Completion
import Tabsmith.PowerShell.Completion
import Tabsmith.Zsh.Completion

/-!
The shells that scripts are written for, and the script of a program for each of them.
-/

namespace Tabsmith

/-- A shell. -/
inductive Shell where
  | bash | zsh | fish | powershell
deriving DecidableEq, Repr, Inhabited

namespace Shell

/-- The shells in the order in which messages list them. -/
def all : List Shell := [bash, zsh, fish, powershell]

/-- The word for a shell. -/
def name : Shell → String
  | bash => "bash"
  | zsh => "zsh"
  | fish => "fish"
  | powershell => "powershell"

/-- The title of a shell. -/
def title : Shell → String
  | bash => "Bash"
  | zsh => "Zsh"
  | fish => "Fish"
  | powershell => "PowerShell"

/-- The words for all shells. -/
def names : List String := all.map name

/-- The shell that a word names. -/
def ofName? (word : String) : Option Shell :=
  all.find? fun shell => shell.name = word

theorem ofName?_name (shell : Shell) : ofName? shell.name = some shell := by
  cases shell <;> decide

/-- The shell that a value names. -/
def ofValue (value : Value) : Except Fault Shell :=
  match value with
  | .text word =>
    match ofName? word with
    | some shell => pure shell
    | none => throw (.unusable (.shell value names))
  | _ => throw (.unusable (.shell value names))

/-- The script of a program takes no stray apart. A bash script shows strays as they are at most. -/
def isWhole (shell : Shell) (p : Program) : Bool :=
  match shell with
  | bash => true
  | zsh => Zsh.isWhole p
  | fish => Fish.isWhole p
  | powershell => p.isDescribedByTexts

/-- The completion script of a program. -/
def script (shell : Shell) (p : Program) : String :=
  match shell with
  | bash => (Bash.script p).text
  | zsh => (Zsh.script p).text
  | fish => (Fish.script p).text
  | powershell => (PowerShell.script p).text

end Shell

/-- The script for a shell, both of them still to be checked. An unknown shell is reported before
something that is no program, and that before a stray that the script would take apart. -/
def generate (shell : Value) (subject : Value ⊕ Program) : Except Fault String := do
  let shell ← Shell.ofValue shell
  match subject with
  | .inl value => throw (.breakdown (.noProgram value))
  | .inr program =>
    if shell.isWhole program then pure (shell.script program) else throw (.breakdown .noMember)

end Tabsmith
