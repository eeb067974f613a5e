import Tabsmith.Text.Blank
import Tabsmith.Text.Word

/-!
Texts in zsh, where everything stands between apostrophes. An apostrophe inside closes the quotes,
stands escaped, and opens them again; brackets, blanks and colons that must not act in a
specification have a backslash before them.
-/

namespace Tabsmith.Zsh

/-- An apostrophe inside apostrophes. -/
def apostrophe : List Char := ['\'', '\\', '\'', '\'']

/-- A character inside apostrophes. -/
def quotedChar (c : Char) : List Char :=
  if c = '\'' then apostrophe else [c]

/-- A text inside apostrophes, without the outer ones. -/
def inQuotes (s : String) : String :=
  String.ofList (s.toList.flatMap quotedChar)

/-- A text between apostrophes, taken as it is. -/
def enclose (s : String) : String :=
  "'" ++ s ++ "'"

/-- A character of a description: carriage returns go, line feeds become spaces, and brackets are
escaped. -/
def descriptionChar (c : Char) : List Char :=
  if c = '\r' then []
  else if c = '\n' then [' ']
  else if c = '[' || c = ']' then ['\\', c]
  else quotedChar c

/-- A description inside apostrophes. -/
def escapeDescription (s : String) : String :=
  String.ofList (s.toList.flatMap descriptionChar)

/-- A character with a backslash before it if it is blank. -/
def guardBlank (c : Char) : List Char :=
  if Text.isBlank c then ['\\', c] else [c]

/-- A value of a list inside apostrophes, where blanks separate the values. -/
def escapeValue (s : String) : String :=
  String.ofList ((escapeDescription s).toList.flatMap guardBlank)

/-- A character with a backslash before it if it is a colon. -/
def guardColon (c : Char) : List Char :=
  if c = ':' then ['\\', c] else [c]

/-- A name before a colon inside apostrophes. -/
def escapeName (s : String) : String :=
  String.ofList ((escapeDescription s).toList.flatMap guardColon)

/-- The characters of the patterns that are written without quotes. -/
def isPatternChar (c : Char) : Bool :=
  Text.isWord c || ['.', ':', '+', '@', '%', ',', '/', '=', '-'].contains c

/-- The pattern that matches exactly `name`. -/
def pattern (name : String) : String :=
  if name ≠ "" && name.toList.all isPatternChar then name else enclose (inQuotes name)

end Tabsmith.Zsh
