import Tabsmith.Environment
import Tabsmith.Text.Blank

/-!
Paths: names one below the other, from the root or from the working folder.
-/

namespace Tabsmith

/-- Where a path starts. A path may have two slashes in front, which are kept; three or more count
as one. -/
inductive Anchor where
  | workFolder | root | doubleRoot
deriving DecidableEq, Repr, Inhabited

/-- A path. No part is empty, a single dot, or holds a slash. -/
structure Path where
  anchor : Anchor := .workFolder
  parts : List String := []
deriving DecidableEq, Repr, Inhabited

namespace Anchor

def text : Anchor → String
  | workFolder => ""
  | root => "/"
  | doubleRoot => "//"

/-- The anchor of the path that a text writes. -/
def ofText : List Char → Anchor
  | '/' :: '/' :: '/' :: _ => root
  | '/' :: '/' :: _ => doubleRoot
  | '/' :: _ => root
  | _ => workFolder

end Anchor

namespace Path

/-- The names between the slashes of a text, without the empty ones and the single dots. -/
def partsOf (s : List Char) : List String :=
  ((Text.pieces (· = '/') s).map String.ofList).filter fun part => part ≠ "" && part ≠ "."

/-- The path that a text writes. -/
def ofText (text : String) : Path :=
  ⟨Anchor.ofText text.toList, partsOf text.toList⟩

/-- The text of a path; that of the working folder is a dot. -/
def text (p : Path) : String :=
  match p.anchor, p.parts with
  | .workFolder, [] => "."
  | anchor, parts => anchor.text ++ "/".intercalate parts

/-- The path starts at the root. -/
def isAbsolute (p : Path) : Bool :=
  p.anchor ≠ .workFolder

/-- The path without its last part. A path without parts is its own parent. -/
def parent (p : Path) : Path :=
  { p with parts := p.parts.dropLast }

/-- The last part, if there is one. -/
def name (p : Path) : String :=
  p.parts.getLast?.getD ""

/-- The path `below`, seen from `p`. -/
def join (p below : Path) : Path :=
  if below.isAbsolute then below else { p with parts := p.parts ++ below.parts }

/-- What follows the last dot of a name, with the dot, unless the dot is its first or its last
character. -/
def suffixOf (name : List Char) : List Char :=
  let tail := name.reverse.takeWhile (· ≠ '.')
  if tail.isEmpty || name.length ≤ tail.length + 1 then [] else '.' :: tail.reverse

/-- The suffix of the last part. -/
def suffix (p : Path) : String :=
  String.ofList (suffixOf p.name.toList)

/-- Parts without those that a later `..` takes back. At the root there is nothing to take back. -/
def collapse (rooted : Bool) (parts : List String) : List String :=
  (parts.foldl step []).reverse
where
  step (before : List String) (part : String) : List String :=
    if part ≠ ".." then part :: before
    else match before with
      | [] => if rooted then [] else [".."]
      | ".." :: _ => part :: before
      | _ :: rest => rest

/-- The path with every `..` taken at its word, whatever the file tree holds. -/
def collapsed (p : Path) : Path :=
  { p with parts := collapse p.isAbsolute p.parts }

/-- The home folders that are known: that of the user in the environment, and those of others. -/
structure Homes where
  own : Option String
  others : List (String × String) := []
deriving Repr, Inhabited

/-- The home folder that a part with a tilde in front refers to. -/
def Homes.of? (homes : Homes) (part : String) : Option String :=
  let user := String.ofList (part.toList.drop 1)
  let home := if user = "" then homes.own else homes.others.lookup user
  home.map fun folder =>
    let trimmed := Text.dropTail (· = '/') folder.toList
    if trimmed.isEmpty then "/" else String.ofList trimmed

/-- The path with the home folder in place of a first part that starts with a tilde; nothing when
that folder is not known. -/
def expandHome? (homes : Homes) (p : Path) : Option Path :=
  match p.anchor, p.parts with
  | .workFolder, first :: rest =>
    if first.toList.head? = some '~' then
      match homes.of? first with
      | none => none
      | some folder =>
        if folder.toList.head? = some '~' then none
        else some ((ofText folder).join ⟨.workFolder, rest⟩)
    else some p
  | _, _ => some p

/-- The path that a text of a user's writes, the home folder filled in. -/
def ofUser? (homes : Homes) (text : String) : Option Path :=
  (ofText text).expandHome? homes

/-- The home folder of the user. -/
def home? (homes : Homes) : Option Path :=
  ofUser? homes "~"

end Path

end Tabsmith
