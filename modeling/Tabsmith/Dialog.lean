import Tabsmith.Note
import Tabsmith.Value

/-!
Dialogs with a user: what is said, what is asked, and what the user answers.
-/

namespace Tabsmith

/-- A question. The title of a choice is what the user sees. -/
inductive Prompt where
  | select (message : String) (choices : List (String × String)) (usual : String)
  | path (message usual : String)
  | confirm (message : String) (usual : Bool)
deriving Repr, Inhabited

/-- The answer that a prompt suggests. -/
def Prompt.usual : Prompt → Value
  | select _ _ usual => .text usual
  | path _ usual => .text usual
  | confirm _ usual => .bool usual

/-- An answer. A prompt is cancelled by a null value. -/
inductive Answer where
  | given (value : Value)
  /-- The suggestion is taken. -/
  | usual
  /-- The user breaks the run off. -/
  | interrupt
deriving Repr, Inhabited

/-- What happens in a dialog: a line in a style, or a question. -/
inductive Event where
  | said (text style : String)
  | asked (prompt : Prompt)
deriving Repr, Inhabited

/-- A dialog so far: the answers still to come, what happened, and the notes taken. -/
structure DialogState where
  answers : List Answer := []
  events : List Event := []
  notes : List Note := []
deriving Repr, Inhabited

/-- A dialog, which may fail. What happened before a failure stays. -/
abbrev Dialog (α : Type) := ExceptT Fault (StateM DialogState) α

namespace Dialog

def happen (event : Event) : Dialog Unit :=
  modify fun state => { state with events := state.events ++ [event] }

/-- Says something. -/
def say (text style : String) : Dialog Unit :=
  happen (.said text style)

/-- The next answer. A user without any more answers cancels. -/
def nextAnswer : Dialog Answer :=
  modifyGet fun state =>
    match state.answers with
    | [] => (.given .null, state)
    | answer :: rest => (answer, { state with answers := rest })

/-- Asks something. -/
def ask (prompt : Prompt) : Dialog Value := do
  happen (.asked prompt)
  match ← nextAnswer with
  | .given value => pure value
  | .usual => pure prompt.usual
  | .interrupt => throw (.breakdown .interrupted)

/-- Takes notes. -/
def note (notes : List Note) : Dialog Unit :=
  modify fun state => { state with notes := state.notes ++ notes }

/-- Does work that takes notes after those taken so far. -/
def ofNoted {α : Type} (work : Noted α) : Dialog α := do
  let state ← get
  let (result, notes) := StateT.run (ExceptT.run work) state.notes
  set { state with notes := notes }
  ExceptT.mk (pure result)

end Dialog

end Tabsmith
