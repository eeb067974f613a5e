import Tabsmith.Fault
import Tabsmith.Path

/-!
File trees and the operations on them, with the causes for which each is refused. A refused
operation may have made folders before the one that failed.
-/

namespace Tabsmith

/-- What stands at a place of a file tree. -/
inductive Entry where
  | folder
  | file (content : ByteArray)
deriving Inhabited

/-- A place: the names that lead to it from the root. -/
abbrev Place := List String

/-- A file tree: the entries below the root, each at its place. -/
structure FileTree where
  entries : List (Place × Entry) := []
deriving Inhabited

/-- The longest name of an entry, in bytes. -/
def longestName : Nat := 255

/-- The longest text of a path, in bytes. -/
def longestPath : Nat := 4095

namespace FileTree

/-- What stands at a place. The root is a folder. -/
def lookup (tree : FileTree) (place : Place) : Option Entry :=
  if place.isEmpty then some .folder else tree.entries.lookup place

/-- Entries with `entry` at a place. -/
def putIn (place : Place) (entry : Entry) : List (Place × Entry) → List (Place × Entry)
  | [] => [(place, entry)]
  | (other, old) :: rest =>
    if other = place then (place, entry) :: rest else (other, old) :: putIn place entry rest

/-- The tree with `entry` at a place. -/
def put (tree : FileTree) (place : Place) (entry : Entry) : FileTree :=
  ⟨putIn place entry tree.entries⟩

theorem lookup_putIn_self (place : Place) (entry : Entry) (entries : List (Place × Entry)) :
    (putIn place entry entries).lookup place = some entry := by
  induction entries with
  | nil => simp [putIn]
  | cons head rest ih =>
    obtain ⟨other, old⟩ := head
    by_cases h : other = place
    · simp [putIn, h]
    · rw [putIn, if_neg h, List.lookup_cons]
      have hne : (place == other) = false := by simpa using Ne.symm h
      simpa only [hne] using ih

theorem lookup_putIn_of_ne {place other : Place} (h : other ≠ place) (entry : Entry)
    (entries : List (Place × Entry)) :
    (putIn place entry entries).lookup other = entries.lookup other := by
  have hne : (other == place) = false := by simpa using h
  induction entries with
  | nil => simp [putIn, List.lookup_cons, hne]
  | cons head rest ih =>
    obtain ⟨third, old⟩ := head
    by_cases hthird : third = place
    · subst hthird
      simp [putIn, List.lookup_cons, hne]
    · rw [putIn, if_neg hthird, List.lookup_cons, List.lookup_cons, ih]

/-- The tree has at a place what was put there. The root stays the folder that it is. -/
theorem lookup_put_self (tree : FileTree) {place : Place} (h : place ≠ []) (entry : Entry) :
    (tree.put place entry).lookup place = some entry := by
  simp only [lookup, put, List.isEmpty_iff, h, if_false]
  exact lookup_putIn_self place entry tree.entries

/-- The tree has at every other place what it had there before. -/
theorem lookup_put_of_ne (tree : FileTree) {place other : Place} (h : other ≠ place)
    (entry : Entry) : (tree.put place entry).lookup other = tree.lookup other := by
  simp only [lookup, put]
  rw [lookup_putIn_of_ne h]

/-- The tree without a place and all that is below it. -/
def remove (tree : FileTree) (place : Place) : FileTree :=
  ⟨tree.entries.filter fun entry => !place.isPrefixOf entry.1⟩

/-- The place that a name leads to from a place, for a lookup or to make an entry there. -/
def step (tree : FileTree) (place : Place) (name : String) : Except FileCause Place :=
  match tree.lookup place with
  | none => throw .missing
  | some (.file _) => throw .notFolder
  | some .folder =>
    if name = ".." then pure place.dropLast
    else if longestName < name.utf8ByteSize then throw .longName
    else pure (place ++ [name])

/-- The place that names lead to from a place. Nothing need stand there. -/
def walk (tree : FileTree) (place : Place) : List String → Except FileCause Place
  | [] => pure place
  | name :: rest => do walk tree (← tree.step place name) rest

/-- The place of a path, seen from the working folder. Its parent folder has to be there. -/
def placeOf (tree : FileTree) (workFolder : Place) (p : Path) : Except FileCause Place :=
  if longestPath < p.text.utf8ByteSize then throw .longName
  else tree.walk (if p.isAbsolute then [] else workFolder) p.parts

/-- What stands at a path. -/
def find (tree : FileTree) (workFolder : Place) (p : Path) : Except FileCause Entry := do
  match tree.lookup (← tree.placeOf workFolder p) with
  | some entry => pure entry
  | none => throw .missing

/-- The path holds a null character, so that it can lead nowhere. -/
def hasNull (p : Path) : Bool :=
  p.parts.any fun part => part.toList.contains (Char.ofNat 0)

/-- What stands at a path, if anything does. Only a path with names that are too long is refused. -/
def find? (tree : FileTree) (workFolder : Place) (p : Path) : Except FileFault (Option Entry) :=
  if hasNull p || (Text.pathRun? p.text).isSome then pure none
  else match tree.find workFolder p with
    | .ok entry => pure (some entry)
    | .error .longName => throw ⟨.longName, p.text⟩
    | .error _ => pure none

/-- Something stands at a path. -/
def occupied (tree : FileTree) (workFolder : Place) (p : Path) : Except FileFault Bool := do
  return (← tree.find? workFolder p).isSome

end FileTree

/-- A change of a file tree that may be refused. What was done before the refusal stays done. -/
abbrev FileTask (α : Type) := ExceptT Breakdown (StateM FileTree) α

namespace FileTask

def refuse {α : Type} (cause : FileCause) (p : Path) : FileTask α :=
  throw (.file ⟨cause, p.text⟩)

/-- The place of a path, or the refusal of the whole change. -/
def place (workFolder : Place) (p : Path) : FileTask Place := do
  match Text.pathRun? p.text with
  | some run => throw (.unencodable run)
  | none =>
    if FileTree.hasNull p then throw .nullInPath
    else match (← get).placeOf workFolder p with
      | .ok place => pure place
      | .error cause => refuse cause p

/-- The content of the file at a path. -/
def read (workFolder : Place) (p : Path) : FileTask ByteArray := do
  let place ← place workFolder p
  match (← get).lookup place with
  | some (.file content) => pure content
  | some .folder => refuse .folder p
  | none => refuse .missing p

/-- The content of the file at a path replaced by what `update` makes of it; a missing file counts
as empty and is made. -/
def update (workFolder : Place) (p : Path) (update : ByteArray → ByteArray) : FileTask Unit := do
  let place ← place workFolder p
  match (← get).lookup place with
  | some .folder => refuse .folder p
  | some (.file old) => modify fun tree => tree.put place (.file (update old))
  | none => modify fun tree => tree.put place (.file (update .empty))

/-- A file with the given content at a path, in place of one that is there. -/
def write (workFolder : Place) (p : Path) (content : ByteArray) : FileTask Unit :=
  update workFolder p fun _ => content

/-- A file with the given text at a path, in place of one that is there. A text that has no bytes
leaves the file empty. -/
def writeText (workFolder : Place) (p : Path) (text : String) : FileTask Unit :=
  match Text.surrogateRun? text with
  | none => write workFolder p text.toUTF8
  | some run => do
    write workFolder p .empty
    throw (.unencodable run)

/-- A new folder at a path. Nothing may stand there. -/
def makeFolder (workFolder : Place) (p : Path) : FileTask Unit := do
  let place ← place workFolder p
  match (← get).lookup place with
  | some _ => refuse .exists p
  | none => modify fun tree => tree.put place .folder

/-- A folder at a path, new unless there is one already; its parent has to be there. -/
def needFolder (workFolder : Place) (p : Path) : FileTask Unit :=
  tryCatch (makeFolder workFolder p) fun fault => do
    match fault with
    | .file ⟨.missing, _⟩ | .nullInPath | .unencodable _ => throw fault
    | _ =>
      match (← get).find workFolder p with
      | .ok .folder => pure ()
      | _ => throw fault

/-- A folder at a path of an anchor and parts, the last part first, with all its parents. -/
def needFoldersAt (workFolder : Place) (anchor : Anchor) : (parts : List String) → FileTask Unit
  | [] => needFolder workFolder ⟨anchor, []⟩
  | part :: above =>
    let p : Path := ⟨anchor, (part :: above).reverse⟩
    tryCatch (needFolder workFolder p) fun fault => do
      match fault with
      | .file ⟨.missing, _⟩ => do
        needFoldersAt workFolder anchor above
        needFolder workFolder p
      | _ => throw fault

/-- A folder at a path with all its parents, each new unless there is one already. -/
def needFolders (workFolder : Place) (p : Path) : FileTask Unit :=
  needFoldersAt workFolder p.anchor p.parts.reverse

end FileTask

end Tabsmith
