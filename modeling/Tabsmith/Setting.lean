import Tabsmith.FileTree
import Tabsmith.Note
import Tabsmith.Parser

/-!
What a run finds when it starts: the environment, the working folder, the file tree, and the modules
in which parsers can be looked up. Notes may be kept in a file of the tree, so that taking them
changes what is found there.
-/

namespace Tabsmith

/-- What a name in a module stands for. -/
inductive Member where
  /-- A parser. -/
  | parser (p : Parser)
  /-- A function without arguments, and the parser it returns unless it returns something else. -/
  | maker (result : Option Parser)
  /-- A function that cannot be called without arguments. -/
  | uncallable
  /-- Anything else. -/
  | other
deriving Repr, Inhabited

/-- The names of a module. -/
abbrev Module := List (String × Member)

/-- What a run finds. `keep` is what taking notes makes of a file tree. -/
structure Setting where
  environment : Environment := []
  workFolder : Place := []
  /-- The home folders of other users. -/
  otherHomes : List (String × String) := []
  modules : List (String × Module) := []
  files : FileTree := {}
  keep : List Note → FileTree → FileTree := fun _ files => files
deriving Inhabited

namespace Setting

/-- The setting once notes were taken. -/
def after (s : Setting) (notes : List Note) : Setting :=
  { s with files := s.keep notes s.files }

/-- The home folders that paths can refer to. -/
def homes (s : Setting) : Path.Homes :=
  ⟨s.environment.lookup "HOME", s.otherHomes⟩

/-- The path that a text of the user's writes. -/
def userPath (s : Setting) (text : String) : Except Fault Path :=
  match Path.ofUser? s.homes text with
  | some path => pure path
  | none => throw (.breakdown .noHome)

/-- The home folder of the user. -/
def home (s : Setting) : Except Fault Path :=
  s.userPath "~"

/-- What stands at a path, if anything does. -/
def find? (s : Setting) (p : Path) : Except Fault (Option Entry) :=
  match s.files.find? s.workFolder p with
  | .ok entry => pure entry
  | .error fault => throw (.breakdown (.file fault))

end Setting

end Tabsmith
