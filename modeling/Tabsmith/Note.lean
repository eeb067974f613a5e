import Tabsmith.Fault

/-!
What a run says about itself while it works: notes, each with a weight, on the channel of the part
that takes them. Who gets to read a note is decided elsewhere.
-/

namespace Tabsmith

/-- How much a note matters. -/
inductive Weight where
  | debug | info | warning | error | critical
deriving DecidableEq, Repr, Inhabited

namespace Weight

/-- The number of a weight among the levels of a log. -/
def level : Weight → Int
  | debug => 10
  | info => 20
  | warning => 30
  | error => 40
  | critical => 50

/-- The weights in ascending order. -/
def all : List Weight := [debug, info, warning, error, critical]

/-- The word for a weight. -/
def name : Weight → String
  | debug => "DEBUG"
  | info => "INFO"
  | warning => "WARNING"
  | error => "ERROR"
  | critical => "CRITICAL"

/-- The weight with a level of its own. -/
def ofLevel? (level : Int) : Option Weight :=
  all.find? fun weight => weight.level = level

theorem ofLevel?_level (weight : Weight) : ofLevel? weight.level = some weight := by
  cases weight <;> decide

end Weight

/-- Where a note comes from. -/
inductive Channel where
  /-- The run as a whole. -/
  | main
  /-- Turning a parser into a description. -/
  | parser
  /-- Writing a script. -/
  | script
deriving DecidableEq, Repr, Inhabited

/-- The name of the log that a channel goes to. -/
def Channel.name : Channel → String
  | main => "shellcomp"
  | parser => "shellcomp.builder"
  | script => "shellcomp.generators"

/-- A note. -/
structure Note where
  weight : Weight
  text : String
  channel : Channel := .main
deriving DecidableEq, Repr, Inhabited

/-- Work that takes notes and may fail. The notes taken before a failure stay. -/
abbrev Noted (α : Type) := ExceptT Fault (StateM (List Note)) α

namespace Noted

/-- Takes a note. -/
def note (weight : Weight) (text : String) (channel : Channel := .main) : Noted Unit :=
  modify fun notes => notes ++ [⟨weight, text, channel⟩]

/-- The result of work, and the notes it took. -/
def outcome {α : Type} (work : Noted α) : Except Fault α × List Note :=
  StateT.run (ExceptT.run work) []

/-- Work that takes no notes. -/
def ofExcept {α : Type} (result : Except Fault α) : Noted α :=
  ExceptT.mk (pure result)

/-- Work, or the reason why something that the user named cannot be used. Other failures go on. -/
def attempt {α : Type} (work : Noted α) : Noted (Except Unusable α) :=
  tryCatch (Except.ok <$> work) fun fault =>
    match fault with
    | .unusable cause => pure (.error cause)
    | _ => throw fault

end Noted

end Tabsmith
