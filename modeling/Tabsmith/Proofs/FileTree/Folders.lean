import Tabsmith.Proofs.FileTree.Growth
import Tabsmith.Proofs.Outcome

/-!
What tasks on a file tree leave. Making the folders of a path lets the tree grow along the path,
even if it fails on the way; if it succeeds, the path leads to a folder.
-/

namespace Tabsmith

open FileTree

/-- A breakdown of a task on files: a refusal of the file system, or a path or a text that it cannot
be asked about. -/
def Breakdown.IsOfFiles : Breakdown → Prop
  | .file _ | .nullInPath | .unencodable _ => True
  | _ => False

/-- The file system can be asked about a path: it has bytes and holds no null character. -/
def Path.IsAskable (p : Path) : Prop :=
  Text.pathRun? p.text = none ∧ FileTree.hasNull p = false

namespace FileTask

variable {workFolder : Place} {p : Path} {α β : Type}

/-- A task lets every tree grow along a path, and breaks down for causes that have to do with
files. -/
def Grows (workFolder : Place) (p : Path) (task : FileTask α) : Prop :=
  ∀ files result after, outcomeFrom task files = (result, after) →
    GrownAlong workFolder p files after ∧ ∀ cause, result = .error cause → cause.IsOfFiles

namespace Grows

theorem throw {cause : Breakdown} (hcause : cause.IsOfFiles) :
    Grows workFolder p (throw cause : FileTask α) := by
  intro files result after hrun
  cases hrun
  refine ⟨.refl workFolder p files, ?_⟩
  rintro _ ⟨⟩
  exact hcause

theorem pure (a : α) : Grows workFolder p (pure a : FileTask α) := by
  intro files result after hrun
  cases hrun
  refine ⟨.refl workFolder p files, ?_⟩
  rintro _ ⟨⟩

theorem get : Grows workFolder p (get : FileTask FileTree) := by
  intro files result after hrun
  cases hrun
  refine ⟨.refl workFolder p files, ?_⟩
  rintro _ ⟨⟩

theorem bind {task : FileTask α} {next : α → FileTask β} (htask : Grows workFolder p task)
    (hnext : ∀ a, Grows workFolder p (next a)) : Grows workFolder p (task >>= next) := by
  intro files result after hrun
  rw [outcomeFrom_bind] at hrun
  rcases hfirst : outcomeFrom task files with ⟨cause | a, between⟩
  · rw [hfirst] at hrun
    cases hrun
    refine ⟨(htask _ _ _ hfirst).1, ?_⟩
    rintro _ ⟨⟩
    exact (htask _ _ _ hfirst).2 cause rfl
  · rw [hfirst] at hrun
    obtain ⟨hgrown, hcause⟩ := hnext a _ _ _ hrun
    exact ⟨(htask _ _ _ hfirst).1.trans hgrown, hcause⟩

theorem tryCatch {task : FileTask α} {rescue : Breakdown → FileTask α}
    (htask : Grows workFolder p task)
    (hrescue : ∀ cause : Breakdown, cause.IsOfFiles → Grows workFolder p (rescue cause)) :
    Grows workFolder p (tryCatch task rescue) := by
  intro files result after hrun
  rw [outcomeFrom_tryCatch] at hrun
  rcases hfirst : outcomeFrom task files with ⟨cause | a, between⟩
  · rw [hfirst] at hrun
    obtain ⟨hbefore, hfiles⟩ := htask _ _ _ hfirst
    obtain ⟨hgrown, hcause⟩ := hrescue cause (hfiles cause rfl) _ _ _ hrun
    exact ⟨hbefore.trans hgrown, hcause⟩
  · rw [hfirst] at hrun
    cases hrun
    exact htask _ _ _ hfirst

theorem of_prefix {q : Path} {task : FileTask α} (htask : Grows workFolder p task)
    (hanchor : p.anchor = q.anchor) (hparts : p.parts <+: q.parts) : Grows workFolder q task := by
  intro files result after hrun
  obtain ⟨hgrown, hcause⟩ := htask _ _ _ hrun
  exact ⟨hgrown.of_prefix hanchor hparts, hcause⟩

end Grows

/-- Looking for the place of a path changes nothing. -/
theorem outcomeFrom_place (workFolder : Place) (p : Path) (files : FileTree) :
    (∃ cause, cause.IsOfFiles ∧ outcomeFrom (place workFolder p) files = (.error cause, files)) ∨
      ∃ found, p.IsAskable ∧ files.placeOf workFolder p = .ok found ∧
        outcomeFrom (place workFolder p) files = (.ok found, files) := by
  unfold place
  split
  next run _ => exact .inl ⟨.unencodable run, trivial, rfl⟩
  next hbytes =>
    split
    · exact .inl ⟨.nullInPath, trivial, rfl⟩
    next hnull =>
      rw [outcomeFrom_bind, outcomeFrom_get]
      dsimp only
      split
      next found hfound =>
        exact .inr ⟨found, ⟨hbytes, eq_false_of_ne_true hnull⟩, hfound, rfl⟩
      next cause _ => exact .inl ⟨.file ⟨cause, p.text⟩, trivial, rfl⟩

/-- A new folder stands where nothing stood, or nothing is changed. -/
theorem outcomeFrom_makeFolder (workFolder : Place) (p : Path) (files : FileTree) :
    (∃ cause, cause.IsOfFiles ∧
      outcomeFrom (makeFolder workFolder p) files = (.error cause, files)) ∨
    ∃ found, files.placeOf workFolder p = .ok found ∧ files.lookup found = none ∧
      outcomeFrom (makeFolder workFolder p) files = (.ok (), files.put found .folder) := by
  unfold makeFolder
  rw [outcomeFrom_bind]
  rcases outcomeFrom_place workFolder p files with ⟨cause, hcause, hfails⟩ |
    ⟨found, _, hfound, hplace⟩
  · rw [hfails]
    exact .inl ⟨cause, hcause, rfl⟩
  · rw [hplace]
    dsimp only
    rw [outcomeFrom_bind, outcomeFrom_get]
    dsimp only
    split
    · exact .inl ⟨.file ⟨.exists, p.text⟩, trivial, rfl⟩
    next hfree => exact .inr ⟨found, hfound, hfree, rfl⟩

theorem grows_makeFolder (workFolder : Place) (p : Path) :
    Grows workFolder p (makeFolder workFolder p) := by
  intro files result after hrun
  rcases outcomeFrom_makeFolder workFolder p files with ⟨cause, hcause, hfails⟩ |
    ⟨found, hfound, hfree, hmade⟩
  · rw [hfails] at hrun
    cases hrun
    refine ⟨.refl workFolder p files, ?_⟩
    rintro _ ⟨⟩
    exact hcause
  · rw [hmade] at hrun
    cases hrun
    refine ⟨grownAlong_put hfound hfree, ?_⟩
    rintro _ ⟨⟩

theorem grows_needFolder (workFolder : Place) (p : Path) :
    Grows workFolder p (needFolder workFolder p) := by
  refine (grows_makeFolder workFolder p).tryCatch fun cause hcause => ?_
  split
  · exact .throw hcause
  · exact .throw hcause
  · exact .throw hcause
  · refine Grows.get.bind fun tree => ?_
    split
    · exact .pure ()
    · exact .throw hcause

theorem grows_needFoldersAt (workFolder : Place) (anchor : Anchor) (parts : List String) :
    Grows workFolder ⟨anchor, parts.reverse⟩ (needFoldersAt workFolder anchor parts) := by
  -- A missing parent is made first, along a path of fewer names.
  induction parts with
  | nil => exact grows_needFolder workFolder ⟨anchor, []⟩
  | cons part above ih =>
    have hfolder := grows_needFolder workFolder ⟨anchor, (part :: above).reverse⟩
    have hparts : above.reverse <+: (part :: above).reverse := by
      rw [List.reverse_cons]
      exact List.prefix_append _ _
    have habove : Grows workFolder ⟨anchor, (part :: above).reverse⟩
        (needFoldersAt workFolder anchor above) := ih.of_prefix rfl hparts
    unfold needFoldersAt
    refine hfolder.tryCatch fun cause hcause => ?_
    split
    · exact habove.bind fun _ => hfolder
    · exact .throw hcause

theorem grows_needFolders (workFolder : Place) (p : Path) :
    Grows workFolder p (needFolders workFolder p) := by
  have hgrows := grows_needFoldersAt workFolder p.anchor p.parts.reverse
  rw [List.reverse_reverse] at hgrows
  exact hgrows

/-! ## Folders that were made -/

/-- A needed folder is there. -/
theorem find_of_needFolder {files after : FileTree}
    (hrun : outcomeFrom (needFolder workFolder p) files = (.ok (), after)) :
    after.find workFolder p = .ok .folder := by
  unfold needFolder at hrun
  rw [outcomeFrom_tryCatch] at hrun
  rcases outcomeFrom_makeFolder workFolder p files with ⟨cause, hcause, hfails⟩ |
    ⟨found, hfound, hfree, hmade⟩
  · rw [hfails] at hrun
    dsimp only at hrun
    split at hrun
    · cases hrun
    · cases hrun
    · cases hrun
    · rw [outcomeFrom_bind, outcomeFrom_get] at hrun
      dsimp only at hrun
      split at hrun
      · cases hrun
        assumption
      · cases hrun
  · rw [hmade] at hrun
    cases hrun
    have hne : found ≠ [] := by
      rintro rfl
      cases hfree
    exact find_eq_ok_iff.2 ⟨found, (grownAlong_put hfound hfree).keepsFolders.placeOf hfound,
      lookup_put_self files hne _⟩

theorem find_of_needFolders {files after : FileTree}
    (hrun : outcomeFrom (needFolders workFolder p) files = (.ok (), after)) :
    after.find workFolder p = .ok .folder := by
  have hparts : p = ⟨p.anchor, p.parts.reverse.reverse⟩ := by rw [List.reverse_reverse]
  unfold needFolders at hrun
  rw [hparts]
  generalize p.anchor = anchor at *
  generalize p.parts.reverse = parts at *
  cases parts with
  | nil => exact find_of_needFolder hrun
  | cons part above =>
    unfold needFoldersAt at hrun
    rw [outcomeFrom_tryCatch] at hrun
    split at hrun
    · cases hrun
      exact find_of_needFolder ‹_›
    · split at hrun
      · obtain ⟨_, _, _, hlast⟩ := outcomeFrom_bind_eq_ok_iff.1 hrun
        exact find_of_needFolder hlast
      · cases hrun

end FileTask

end Tabsmith
