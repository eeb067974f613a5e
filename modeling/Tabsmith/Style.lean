import Tabsmith.Environment

/-!
Styles of texts on a terminal, and when they are used.
-/

namespace Tabsmith

/-- A style: the codes that select it, none for plain text. -/
abbrev Style := List String

namespace Style

def escape : String := "\x1b["

/-- The sequence that selects codes. -/
def select (codes : Style) : String :=
  if codes.isEmpty then "" else escape ++ ";".intercalate codes ++ "m"

/-- The sequence that goes back to plain text. -/
def reset : String := escape ++ "0m"

/-- A stream shows styles if it is a terminal, unless the environment says otherwise. A refusal
counts more than a demand. -/
def isWanted (env : Environment) (terminal : Bool) : Bool :=
  if (env.filled? "NO_COLOR").isSome then false
  else if (env.filled? "FORCE_COLOR").isSome then true
  else terminal

/-- A text in a style, on a stream that shows styles if `wanted`. -/
def paint (codes : Style) (wanted : Bool) (text : String) : String :=
  if codes.isEmpty || !wanted then text else select codes ++ text ++ reset

def red : String := "31"

def green : String := "32"

def yellow : String := "33"

def bold : String := "1"

def dim : String := "2"

/-- `part` occurs in a text. -/
def occurs (part : List Char) : List Char → Bool
  | [] => part.isEmpty
  | c :: rest => part.isPrefixOf (c :: rest) || occurs part rest

/-- The style of a line of a validation report. -/
def ofReportLine (valid : Bool) (line : String) : Style :=
  if occurs "ERROR:".toList line.toList then [red]
  else if occurs "WARNING:".toList line.toList then [yellow]
  else if valid then [green, bold]
  else []

end Style

end Tabsmith
