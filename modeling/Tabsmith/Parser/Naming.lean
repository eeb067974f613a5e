import Tabsmith.Parser
import Tabsmith.Program
import Tabsmith.Text.Blank

/-!
How the names and texts of a parser become those of a program's description.
-/

namespace Tabsmith.Naming

/-- A name with dashes for its underscores. -/
def dashed (name : String) : String :=
  Text.replaceChar name '_' '-'

/-- The name of a command, an option or an argument. The name `_run` stands for `run`, which
programs often cannot use; every other name gets dashes. -/
def normal (name : String) : String :=
  if name = "_run" then "run" else dashed name

/-- The name that a declared text gives. -/
def ofCaption : Caption → String
  | .text name => normal name
  | .none | .stray => ""

/-- A description on one line; one that is absent or suppressed is empty. -/
def description : Caption → String
  | .text text => if text = suppressed then "" else Text.flatten text
  | .none | .stray => ""

/-- The text itself and, when a line end closes it, the text before that. -/
def closings (name : String) : List String :=
  match name.toList.getLast? with
  | some '\n' => [name, String.ofList name.toList.dropLast]
  | _ => [name]

/-- One of `words` is the whole name, or one of `tails` ends it. A line end that closes the name
does not count. -/
def isOrEndsWith (words tails : List String) (name : String) : Bool :=
  (closings name).any fun s =>
    words.contains s || tails.any fun tail => tail.toList.isSuffixOf s.toList

/-- The hint that a name suggests. -/
def hint? (name : String) : Option Hint :=
  if isOrEndsWith ["file"] ["_file"] name then some { kind := .file }
  else if isOrEndsWith ["dir", "folder"] ["_dir", "_directory", "_folder"] name then
    some { kind := .directory }
  else none

end Tabsmith.Naming
