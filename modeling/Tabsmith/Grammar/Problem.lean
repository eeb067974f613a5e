import Tabsmith.Value.Display

/-!
What can be wrong with a document: problems, each at a field of a node, and warnings about keys
that no node of the kind has. A check reports them in the order in which it comes upon them.
-/

namespace Tabsmith

/-- Why a field is refused. -/
inductive Cause where
  /-- A required field is absent. -/
  | missing
  /-- The value is of none of the expected kinds. -/
  | kind (expected : List Kind) (found : Value)
  /-- The value is none of the choices. -/
  | choice (found : Value) (choices : List Value)
  /-- A text is blank. -/
  | blank
  /-- A short flag is no token. -/
  | flag (found : Value)
  /-- An item of a list of texts is neither text nor number. -/
  | item (found : Value)
  /-- An element of a list of nodes is no node. -/
  | element (found : Value)
  /-- Two nodes of a list have one name. -/
  | duplicate (name : String)
  /-- A static hint has no values. -/
  | noValues
  /-- A hint whose candidates come from a command has none. -/
  | noCommand (hint : String)
deriving Repr, Inhabited

namespace Cause

/-- The expected kinds in words. -/
def kindNames (kinds : List Kind) : String :=
  " or ".intercalate (kinds.map Kind.name)

/-- The message of a cause. -/
def message : Cause → String
  | missing => "Missing required field"
  | kind expected found => s!"Expected {kindNames expected}, got {found.kindName}"
  | choice found _ => s!"Invalid value {found.literal}"
  | blank => "Must not be empty"
  | flag found => s!"Alias {found.literal} must be a single token"
  | item found => s!"Expected a list of strings, found {found.literal}"
  | element found => s!"Expected dict, got {found.kindName}"
  | duplicate name => s!"Duplicate name {Text.literal name}"
  | noValues => "Static hints need a list of values"
  | noCommand hint => s!"{hint} hints need a command"

/-- The message of a cause would have to show a number with too many digits to be written. -/
def isUnwritable : Cause → Bool
  | choice found choices => found.isUnwritable || Value.anyUnwritable choices
  | flag found | item found => found.isUnwritable
  | _ => false

/-- What to do about it, for the causes where that is known. -/
def advice : Cause → String
  | kind expected _ => if expected.contains .bool then "Use true/false (without quotes)" else ""
  | choice _ choices => "Valid options: " ++ ", ".intercalate (choices.map Value.literal)
  | _ => ""

end Cause

/-- The line that reports a problem, with advice unless it is empty. -/
def problemLine (location field message advice : String) : String :=
  s!"[{location}] Error for '{field}': {message}" ++ (if advice = "" then "" else " -> " ++ advice)

/-- A problem of a document: the path of the node, the field, and the cause. -/
structure Problem where
  location : String
  field : String
  cause : Cause
deriving Repr, Inhabited

/-- The line that reports a problem. -/
def Problem.text (p : Problem) : String :=
  problemLine p.location p.field p.cause.message p.cause.advice

/-- A key that no field of the node has, and the field that was perhaps meant. -/
structure Warning where
  location : String
  key : String
  meant : Option String
deriving DecidableEq, Repr, Inhabited

/-- The line that reports an unknown key. -/
def Warning.text (w : Warning) : String :=
  match w.meant with
  | some field => s!"[{w.location}] Unknown key '{w.key}' (did you mean '{field}'?)"
  | none => s!"[{w.location}] Unknown key '{w.key}' - will be ignored"

/-- Why a check cannot go on. In a document of which every value is looked at as its kind demands,
and no message has to show an endless number, none of this happens. -/
inductive Halt where
  /-- A value is looked at as a node and has no fields. -/
  | noFields
  /-- A value is gone through and has no elements, or its keys are asked for and are none. -/
  | noElements
  /-- A message would have to show a whole number with too many digits to be written. -/
  | unwritable
deriving DecidableEq, Repr, Inhabited

/-- What a check comes upon. -/
inductive Observation where
  | problem (p : Problem)
  | warning (w : Warning)
  | halt (cause : Halt)
deriving Repr, Inhabited

namespace Observation

def problem? : Observation → Option Problem
  | problem p => some p
  | _ => none

def warning? : Observation → Option Warning
  | warning w => some w
  | _ => none

/-- Why the check ends with the observation, if it does. -/
def halt? : Observation → Option Halt
  | problem p => if p.cause.isUnwritable then some .unwritable else none
  | warning _ => none
  | halt cause => some cause

end Observation

/-- What a check comes upon, in order. -/
abbrev Report := List Observation

namespace Report

/-- The problems of a report, in order. -/
def problems (report : Report) : List Problem :=
  report.filterMap Observation.problem?

/-- The warnings of a report, in order. -/
def warnings (report : Report) : List Warning :=
  report.filterMap Observation.warning?

/-- Why the check ended early, if it did. -/
def halt? (report : Report) : Option Halt :=
  report.findSome? Observation.halt?

/-- A report up to where the check ended early. -/
def reached (report : Report) : Report :=
  report.takeWhile fun observation => observation.halt?.isNone

/-- A report of problems only. -/
def ofProblems (problems : List Problem) : Report :=
  problems.map .problem

@[simp] theorem problems_append (a b : Report) : problems (a ++ b) = problems a ++ problems b := by
  simp [problems]

@[simp] theorem warnings_append (a b : Report) : warnings (a ++ b) = warnings a ++ warnings b := by
  simp [warnings]

@[simp] theorem problems_ofProblems (ps : List Problem) : problems (ofProblems ps) = ps := by
  induction ps with
  | nil => rfl
  | cons p rest ih => simpa [problems, ofProblems, Observation.problem?] using ih

@[simp] theorem warnings_ofProblems (ps : List Problem) : warnings (ofProblems ps) = [] := by
  induction ps with
  | nil => rfl
  | cons p rest ih => simp [warnings, ofProblems, Observation.warning?]

end Report

end Tabsmith
