import Tabsmith.Text.Word

/-!
Texts in bash: inside double quotes, and as patterns of a `case`.
-/

namespace Tabsmith.Bash

/-- The characters that double quotes leave active. -/
def isActive (c : Char) : Bool :=
  c == '\\' || c == '"' || c == '$' || c == '`'

/-- A character inside double quotes. -/
def escapeChar (c : Char) : List Char :=
  if isActive c then ['\\', c] else [c]

/-- A text inside double quotes, without the quotes. -/
def escape (s : String) : String :=
  String.ofList (s.toList.flatMap escapeChar)

/-- The characters of the patterns that are written without quotes. -/
def isPatternChar (c : Char) : Bool :=
  Text.isWord c || ['.', ':', '+', '@', '%', ',', '/', '=', '-'].contains c

/-- The pattern that matches exactly `name`. -/
def pattern (name : String) : String :=
  if name ≠ "" && name.toList.all isPatternChar then name else "\"" ++ escape name ++ "\""

end Tabsmith.Bash
