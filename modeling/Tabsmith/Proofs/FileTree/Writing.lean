import Tabsmith.Destination
import Tabsmith.Proofs.FileTree.Folders

/-!
Writing a script to a path, with the folders above it. If it succeeds, the path leads to the script
and nothing else changed but new folders on the way; if the file tree refuses it, all files are what
they were.
-/

namespace Tabsmith

namespace FileTree

variable {workFolder place : Place} {p : Path}
variable {before made after : FileTree}

/-- A tree after a file with some content was written to a path, and the tree before. -/
structure WrittenAt (workFolder : Place) (p : Path) (content : ByteArray)
    (before after : FileTree) : Prop where
  file : after.find workFolder p = .ok (.file content)
  /-- The names above the last one lead through folders. -/
  above : ∀ names, names <+: p.parent.parts → ∃ folder,
    after.walk (p.origin workFolder) names = .ok folder ∧ after.lookup folder = some .folder
  /-- Nothing else changed, but that folders on the way to the file may be new. -/
  others : ∀ other, after.placeOf workFolder p ≠ .ok other →
    after.lookup other = before.lookup other ∨
      before.lookup other = none ∧ after.lookup other = some .folder ∧
        after.OnWay workFolder p.parent other

/-- The folders above a path were made, and the path leads to a place where a file can be put. -/
structure Prepared (workFolder : Place) (p : Path) (before made : FileTree) (place : Place) :
    Prop where
  grown : GrownAlong workFolder p.parent before made
  parent : made.find workFolder p.parent = .ok .folder
  askable : p.IsAskable
  leads : made.placeOf workFolder p = .ok place
  free : made.lookup place ≠ some .folder

/-- A file where no folder stands takes no folder away. -/
theorem keepsFolders_put (hfree : before.lookup place ≠ some .folder) (entry : Entry) :
    KeepsFolders before (before.put place entry) := by
  intro other hfolder
  have hdiffers : other ≠ place := by
    rintro rfl
    exact hfree hfolder
  rw [lookup_put_of_ne _ hdiffers, hfolder]

/-- Each of the first names on a way to a folder leads to a folder. -/
theorem folder_of_walk {tree : FileTree} {start folder : Place} {names all : List String}
    (hwalk : tree.walk start all = .ok folder) (hfolder : tree.lookup folder = some .folder)
    (hnames : names <+: all) :
    ∃ above, tree.walk start names = .ok above ∧ tree.lookup above = some .folder := by
  induction names generalizing start all with
  | nil =>
    refine ⟨start, rfl, ?_⟩
    cases all with
    | nil =>
      cases hwalk
      exact hfolder
    | cons name rest =>
      obtain ⟨next, hstep, _⟩ := walk_cons_eq_ok_iff.1 hwalk
      exact lookup_eq_folder_of_step hstep
  | cons name rest ih =>
    obtain ⟨below, rfl⟩ := hnames
    obtain ⟨next, hstep, hrest⟩ := walk_cons_eq_ok_iff.1 hwalk
    obtain ⟨above, habove, hlookup⟩ := ih hrest (List.prefix_append _ _)
    exact ⟨above, walk_cons_eq_ok_iff.2 ⟨next, hstep, habove⟩, hlookup⟩

theorem walk_of_placeOf {tree : FileTree} (hplace : tree.placeOf workFolder p = .ok place) :
    tree.walk (p.origin workFolder) p.parts = .ok place := by
  unfold placeOf at hplace
  split at hplace
  · cases hplace
  · exact hplace

theorem Prepared.placeOf_put (hready : Prepared workFolder p before made place)
    (content : ByteArray) :
    (made.put place (.file content)).placeOf workFolder p = .ok place :=
  (keepsFolders_put hready.free (.file content)).placeOf hready.leads

theorem Prepared.writtenAt (hready : Prepared workFolder p before made place)
    (content : ByteArray) :
    WrittenAt workFolder p content before (made.put place (.file content)) := by
  have hne : place ≠ [] := by
    rintro rfl
    exact hready.free rfl
  have hkeeps := keepsFolders_put hready.free (.file content)
  have hplace := hready.placeOf_put content
  refine ⟨find_eq_ok_iff.2 ⟨place, hplace, lookup_put_self made hne _⟩, ?_, ?_⟩
  · intro names hnames
    obtain ⟨folder, hfolder, hlookup⟩ := find_eq_ok_iff.1 hready.parent
    obtain ⟨above, hwalk, habove⟩ := folder_of_walk (walk_of_placeOf hfolder) hlookup hnames
    exact ⟨above, hkeeps.walk hwalk, hkeeps above habove⟩
  · intro other hother
    have hdiffers : other ≠ place := fun heq => hother (heq ▸ hplace)
    rw [lookup_put_of_ne made hdiffers]
    rcases hready.grown other with hsame | ⟨hnone, hnew, hway⟩
    · exact .inl hsame
    · exact .inr ⟨hnone, hnew, hway.of_keepsFolders hkeeps⟩

/-- What stood at the place of a path was found there, unless a folder on the way was missing. In a
tree where everything stands in folders, the path then goes back up by two dots. -/
theorem Prepared.find_cases (hready : Prepared workFolder p before made place) {entry : Entry}
    (hstood : before.lookup place = some entry) :
    before.find workFolder p = .ok entry ∨
      before.placeOf workFolder p = .error .missing ∧ (before.IsRooted → ".." ∈ p.parts) := by
  rcases hready.grown.placeOf_cases hready.leads with hplace | hmissing
  · exact .inl (find_eq_ok_iff.2 ⟨place, hplace, hstood⟩)
  · refine .inr ⟨hmissing, fun hrooted => ?_⟩
    by_contra hdots
    have hway : before.walk (p.origin workFolder) p.parts = .ok place :=
      hrooted.walk hdots (walk_of_placeOf hready.leads) (by simp [hstood])
    unfold placeOf at hmissing
    split at hmissing
    · cases hmissing
    · rw [Path.origin] at hway
      rw [hway] at hmissing
      cases hmissing

theorem find?_of_find {tree : FileTree} {entry : Entry} (haskable : p.IsAskable)
    (hfind : tree.find workFolder p = .ok entry) :
    tree.find? workFolder p = .ok (some entry) := by
  unfold find?
  rw [haskable.1, haskable.2, hfind]
  rfl

end FileTree

namespace FileTask

variable {workFolder : Place} {p : Path}

/-- A file is changed or made where no folder stands, or nothing is changed. -/
theorem outcomeFrom_update (workFolder : Place) (p : Path) (change : ByteArray → ByteArray)
    (files : FileTree) :
    (∃ cause, cause.IsOfFiles ∧
      outcomeFrom (update workFolder p change) files = (.error cause, files)) ∨
    ∃ found old, p.IsAskable ∧ files.placeOf workFolder p = .ok found ∧
      files.lookup found ≠ some .folder ∧ outcomeFrom (update workFolder p change) files =
        (.ok (), files.put found (.file (change old))) := by
  unfold update
  rw [outcomeFrom_bind]
  rcases outcomeFrom_place workFolder p files with ⟨cause, hcause, hfails⟩ |
    ⟨found, haskable, hfound, hplace⟩
  · rw [hfails]
    exact .inl ⟨cause, hcause, rfl⟩
  · rw [hplace]
    dsimp only
    rw [outcomeFrom_bind, outcomeFrom_get]
    dsimp only
    split
    next => exact .inl ⟨.file ⟨.folder, p.text⟩, trivial, rfl⟩
    next old hold => exact .inr ⟨found, old, haskable, hfound, by simp [hold], rfl⟩
    next hnone => exact .inr ⟨found, .empty, haskable, hfound, by simp [hnone], rfl⟩

/-- A file is put where no folder stands, or nothing is changed. -/
theorem outcomeFrom_write (workFolder : Place) (p : Path) (content : ByteArray)
    (files : FileTree) :
    (∃ cause, cause.IsOfFiles ∧
      outcomeFrom (write workFolder p content) files = (.error cause, files)) ∨
    ∃ found, p.IsAskable ∧ files.placeOf workFolder p = .ok found ∧
      files.lookup found ≠ some .folder ∧ outcomeFrom (write workFolder p content) files =
        (.ok (), files.put found (.file content)) := by
  rcases outcomeFrom_update workFolder p (fun _ => content) files with hfails |
    ⟨found, _, haskable, hfound, hfree, hwritten⟩
  · exact .inl hfails
  · exact .inr ⟨found, haskable, hfound, hfree, hwritten⟩

/-- A text is put where no folder stands, or nothing is changed. A text that has no bytes leaves an
empty file. -/
theorem outcomeFrom_writeText (workFolder : Place) (p : Path) (text : String) (files : FileTree) :
    (∃ cause, cause.IsOfFiles ∧
      outcomeFrom (writeText workFolder p text) files = (.error cause, files)) ∨
    (∃ run found, p.IsAskable ∧ files.placeOf workFolder p = .ok found ∧
      files.lookup found ≠ some .folder ∧ outcomeFrom (writeText workFolder p text) files =
        (.error (.unencodable run), files.put found (.file .empty))) ∨
    ∃ found, p.IsAskable ∧ files.placeOf workFolder p = .ok found ∧
      files.lookup found ≠ some .folder ∧ outcomeFrom (writeText workFolder p text) files =
        (.ok (), files.put found (.file text.toUTF8)) := by
  unfold writeText
  split
  · rcases outcomeFrom_write workFolder p text.toUTF8 files with hfails | hwritten
    · exact .inl hfails
    · exact .inr (.inr hwritten)
  next run _ =>
    rw [outcomeFrom_bind]
    rcases outcomeFrom_write workFolder p .empty files with ⟨cause, hcause, hfails⟩ |
      ⟨found, haskable, hfound, hfree, hwritten⟩
    · rw [hfails]
      exact .inl ⟨cause, hcause, rfl⟩
    · rw [hwritten]
      exact .inr (.inl ⟨run, found, haskable, hfound, hfree, rfl⟩)

end FileTask

namespace Destination

open FileTree FileTask

/-- What writing a script leaves: a refused file tree, or below its folders the script, or an empty
file if the script has no bytes. -/
theorem outcomeFrom_write (workFolder : Place) (script text : String) (before : FileTree) :
    (∃ cause after, cause.IsOfFiles ∧
      GrownAlong workFolder (Path.ofText text).parent before after ∧
      outcomeFrom (write workFolder script text) before = (.error cause, after)) ∨
    (∃ run made place, Prepared workFolder (Path.ofText text) before made place ∧
      outcomeFrom (write workFolder script text) before =
        (.error (.unencodable run), made.put place (.file .empty))) ∨
    ∃ made place, Prepared workFolder (Path.ofText text) before made place ∧
      outcomeFrom (write workFolder script text) before =
        (.ok (), made.put place (.file script.toUTF8)) := by
  unfold write
  rw [outcomeFrom_bind]
  rcases hfolders : outcomeFrom (needFolders workFolder (Path.ofText text).parent) before with
    ⟨cause | _, made⟩
  · obtain ⟨hgrown, hcause⟩ := grows_needFolders _ _ _ _ _ hfolders
    exact .inl ⟨cause, made, hcause cause rfl, hgrown, rfl⟩
  · obtain ⟨hgrown, _⟩ := grows_needFolders _ _ _ _ _ hfolders
    have hparent := find_of_needFolders hfolders
    rcases outcomeFrom_writeText workFolder (Path.ofText text) script made with
      ⟨cause, hcause, hfails⟩ | ⟨run, place, haskable, hplace, hfree, hemptied⟩ |
      ⟨place, haskable, hplace, hfree, hwritten⟩
    · exact .inl ⟨cause, made, hcause, hgrown, hfails⟩
    · exact .inr (.inl
        ⟨run, made, place, ⟨hgrown, hparent, haskable, hplace, hfree⟩, hemptied⟩)
    · exact .inr (.inr ⟨made, place, ⟨hgrown, hparent, haskable, hplace, hfree⟩, hwritten⟩)

/-- A script is written, or the file tree refuses it and keeps its files, or writing breaks down. -/
theorem tryWrite_cases (workFolder : Place) (script text : String) (before : FileTree) :
    (∃ cause after, cause.IsOfFiles ∧
      tryWrite workFolder script text before = (.error (.breakdown cause), after)) ∨
    (∃ refused after, SameFiles before after ∧
      tryWrite workFolder script text before = (.ok (some refused), after)) ∨
    ∃ made place, Prepared workFolder (Path.ofText text) before made place ∧
      tryWrite workFolder script text before =
        (.ok none, made.put place (.file script.toUTF8)) := by
  have hrun : (write workFolder script text).run.run before =
      outcomeFrom (write workFolder script text) before := rfl
  unfold tryWrite
  rw [hrun]
  rcases outcomeFrom_write workFolder script text before with
    ⟨cause, after, hcause, hgrown, hfails⟩ | ⟨run, _, _, _, hemptied⟩ |
    ⟨made, place, hready, hwritten⟩
  · rw [hfails]
    split
    next hok => cases hok
    next fault _ hfault =>
      cases hfault
      exact .inr (.inl ⟨fault, after, hgrown.sameFiles, rfl⟩)
    next hother =>
      cases hother
      exact .inl ⟨cause, after, hcause, rfl⟩
  · rw [hemptied]
    exact .inl ⟨.unencodable run, _, trivial, rfl⟩
  · rw [hwritten]
    exact .inr (.inr ⟨made, place, hready, rfl⟩)

/-- However writing a script ends, all files are what they were but the one at its path. -/
theorem tryWrite_leaves (workFolder : Place) (script text : String) (before : FileTree) :
    SameFiles before (tryWrite workFolder script text before).2 ∨
      ∃ made place content, Prepared workFolder (Path.ofText text) before made place ∧
        (tryWrite workFolder script text before).2 = made.put place (.file content) := by
  have hfiles : (tryWrite workFolder script text before).2 =
      (outcomeFrom (write workFolder script text) before).2 := by
    have hrun : (write workFolder script text).run.run before =
        outcomeFrom (write workFolder script text) before := rfl
    unfold tryWrite
    rw [hrun]
    rcases outcomeFrom (write workFolder script text) before with ⟨cause | _, after⟩
    · cases cause <;> rfl
    · rfl
  rw [hfiles]
  rcases outcomeFrom_write workFolder script text before with
    ⟨_, after, _, hgrown, hfails⟩ | ⟨_, made, place, hready, hemptied⟩ |
    ⟨made, place, hready, hwritten⟩
  · rw [hfails]
    exact .inl hgrown.sameFiles
  · exact .inr ⟨made, place, .empty, hready, by rw [hemptied]⟩
  · exact .inr ⟨made, place, script.toUTF8, hready, by rw [hwritten]⟩

end Destination

end Tabsmith
