import Mathlib.Data.List.Basic
import Tabsmith.FileTree
import Tabsmith.Proofs.Outcome

/-!
How a file tree grows along a path: new folders where nothing stood, on the way to the path. A tree
that grew keeps all its files, and every way through it.
-/

namespace Tabsmith

/-- The place from which the names of a path lead. -/
def Path.origin (workFolder : Place) (p : Path) : Place :=
  if p.isAbsolute then [] else workFolder

namespace FileTree

variable {workFolder : Place} {p : Path} {before between after : FileTree}

/-- A place is on the way to a path if some of the first names of the path lead there, or all. -/
def OnWay (tree : FileTree) (workFolder : Place) (p : Path) (place : Place) : Prop :=
  ∃ names, names <+: p.parts ∧ tree.walk (p.origin workFolder) names = .ok place

/-- Whatever stands in the tree stands in a folder. -/
def IsRooted (tree : FileTree) : Prop :=
  ∀ place name, tree.lookup (place ++ [name]) ≠ none → tree.lookup place = some .folder

/-- The folders of one tree are folders of another. -/
def KeepsFolders (before after : FileTree) : Prop :=
  ∀ place, before.lookup place = some .folder → after.lookup place = some .folder

/-- Two trees have the same files with the same content. They may have different folders. -/
def SameFiles (before after : FileTree) : Prop :=
  ∀ place content, after.lookup place = some (.file content) ↔
    before.lookup place = some (.file content)

/-- A tree got new folders on the way to a path, and nothing else changed. -/
def GrownAlong (workFolder : Place) (p : Path) (before after : FileTree) : Prop :=
  ∀ place, after.lookup place = before.lookup place ∨
    before.lookup place = none ∧ after.lookup place = some .folder ∧ after.OnWay workFolder p place

theorem find_eq_ok_iff {tree : FileTree} {entry : Entry} : tree.find workFolder p = .ok entry ↔
    ∃ place, tree.placeOf workFolder p = .ok place ∧ tree.lookup place = some entry := by
  refine bind_eq_ok_iff.trans (exists_congr fun place => and_congr_right fun _ => ?_)
  cases tree.lookup place with
  | none =>
    constructor
    · rintro ⟨⟩
    · rintro ⟨⟩
  | some found =>
    constructor
    · rintro ⟨⟩
      rfl
    · rintro ⟨⟩
      rfl

theorem lookup_eq_folder_of_step {tree : FileTree} {place next : Place} {name : String}
    (hstep : tree.step place name = .ok next) : tree.lookup place = some .folder := by
  unfold step at hstep
  split at hstep
  · cases hstep
  · cases hstep
  · assumption

theorem walk_cons_eq_ok_iff {tree : FileTree} {start place : Place} {name : String}
    {rest : List String} : tree.walk start (name :: rest) = .ok place ↔
      ∃ next, tree.step start name = .ok next ∧ tree.walk next rest = .ok place :=
  bind_eq_ok_iff

/-- A way stays a way where the folders that it goes through stay. -/
theorem KeepsFolders.walk (hkeeps : KeepsFolders before after) {start place : Place}
    {names : List String} (hwalk : before.walk start names = .ok place) :
    after.walk start names = .ok place := by
  induction names generalizing start with
  | nil => exact hwalk
  | cons name rest ih =>
    obtain ⟨next, hstep, hrest⟩ := walk_cons_eq_ok_iff.1 hwalk
    have hfolder := lookup_eq_folder_of_step hstep
    refine walk_cons_eq_ok_iff.2 ⟨next, ?_, ih hrest⟩
    rw [step, hkeeps start hfolder, ← hfolder]
    exact hstep

theorem KeepsFolders.placeOf (hkeeps : KeepsFolders before after) {place : Place}
    (hplace : before.placeOf workFolder p = .ok place) : after.placeOf workFolder p = .ok place := by
  unfold FileTree.placeOf at hplace ⊢
  split at hplace
  · cases hplace
  · rw [if_neg ‹_›]
    exact hkeeps.walk hplace

theorem OnWay.of_keepsFolders {place : Place} (hway : before.OnWay workFolder p place)
    (hkeeps : KeepsFolders before after) : after.OnWay workFolder p place := by
  obtain ⟨names, hprefix, hwalk⟩ := hway
  exact ⟨names, hprefix, hkeeps.walk hwalk⟩

/-- A way to a path of fewer names is a way to the longer path. -/
theorem OnWay.of_prefix {tree : FileTree} {place : Place} {q : Path}
    (hway : tree.OnWay workFolder p place) (hanchor : p.anchor = q.anchor)
    (hparts : p.parts <+: q.parts) : tree.OnWay workFolder q place := by
  obtain ⟨names, hprefix, hwalk⟩ := hway
  refine ⟨names, hprefix.trans hparts, ?_⟩
  rw [← hwalk, Path.origin, Path.origin, Path.isAbsolute, Path.isAbsolute, hanchor]

namespace GrownAlong

theorem refl (workFolder : Place) (p : Path) (tree : FileTree) :
    GrownAlong workFolder p tree tree :=
  fun _ => .inl rfl

theorem keepsFolders (hgrown : GrownAlong workFolder p before after) :
    KeepsFolders before after := by
  intro place hfolder
  rcases hgrown place with hsame | ⟨_, hnew, _⟩
  · rw [hsame, hfolder]
  · exact hnew

theorem sameFiles (hgrown : GrownAlong workFolder p before after) : SameFiles before after := by
  intro place content
  rcases hgrown place with hsame | ⟨hnone, hfolder, _⟩
  · rw [hsame]
  · simp [hnone, hfolder]

theorem trans (hfirst : GrownAlong workFolder p before between)
    (hsecond : GrownAlong workFolder p between after) : GrownAlong workFolder p before after := by
  intro place
  rcases hfirst place with hsame | ⟨hnone, hfolder, hway⟩
  · rw [← hsame]
    exact hsecond place
  · exact .inr ⟨hnone, hsecond.keepsFolders place hfolder, hway.of_keepsFolders hsecond.keepsFolders⟩

theorem of_prefix {q : Path} (hgrown : GrownAlong workFolder p before after)
    (hanchor : p.anchor = q.anchor) (hparts : p.parts <+: q.parts) :
    GrownAlong workFolder q before after := by
  intro place
  rcases hgrown place with hsame | ⟨hnone, hfolder, hway⟩
  · exact .inl hsame
  · exact .inr ⟨hnone, hfolder, hway.of_prefix hanchor hparts⟩

/-- A way through a grown tree was there before, or ended where a folder was missing. -/
theorem walk_cases (hgrown : GrownAlong workFolder p before after) {start place : Place}
    {names : List String} (hwalk : after.walk start names = .ok place) :
    before.walk start names = .ok place ∨ before.walk start names = .error .missing := by
  induction names generalizing start with
  | nil => exact .inl hwalk
  | cons name rest ih =>
    obtain ⟨next, hstep, hrest⟩ := walk_cons_eq_ok_iff.1 hwalk
    have hfolder := lookup_eq_folder_of_step hstep
    rcases hgrown start with hsame | ⟨hnone, _, _⟩
    · have hbefore : before.step start name = .ok next := by
        unfold step at hstep ⊢
        rw [← hsame]
        exact hstep
      rw [walk, hbefore]
      exact ih hrest
    · have hbefore : before.step start name = .error .missing := by
        rw [step, hnone]
        rfl
      rw [walk, hbefore]
      exact .inr rfl

theorem placeOf_cases (hgrown : GrownAlong workFolder p before after) {q : Path} {place : Place}
    (hplace : after.placeOf workFolder q = .ok place) :
    before.placeOf workFolder q = .ok place ∨ before.placeOf workFolder q = .error .missing := by
  unfold FileTree.placeOf at hplace ⊢
  split at hplace
  · cases hplace
  · rw [if_neg ‹_›]
    exact hgrown.walk_cases hplace

end GrownAlong

theorem IsRooted.folder_of_append {tree : FileTree} (hrooted : tree.IsRooted) {place : Place}
    {names : List String} (hne : names ≠ []) (hstands : tree.lookup (place ++ names) ≠ none) :
    tree.lookup place = some .folder := by
  induction names generalizing place with
  | nil => exact absurd rfl hne
  | cons name rest ih =>
    cases rest with
    | nil => exact hrooted place name hstands
    | cons next more =>
      rw [← List.singleton_append, ← List.append_assoc] at hstands
      have hbelow := ih (List.cons_ne_nil _ _) hstands
      exact hrooted place name (by simp [hbelow])

/-- Without two dots, a way appends its names. -/
theorem eq_append_of_walk {tree : FileTree} {start place : Place} {names : List String}
    (hnames : ".." ∉ names) (hwalk : tree.walk start names = .ok place) :
    place = start ++ names := by
  induction names generalizing start with
  | nil =>
    cases hwalk
    simp
  | cons name rest ih =>
    obtain ⟨next, hstep, hrest⟩ := walk_cons_eq_ok_iff.1 hwalk
    have hname : name ≠ ".." := fun heq => hnames (heq ▸ List.mem_cons_self)
    have hnext : next = start ++ [name] := by
      rw [step, lookup_eq_folder_of_step hstep] at hstep
      dsimp only at hstep
      rw [if_neg hname] at hstep
      split at hstep
      · cases hstep
      · cases hstep
        rfl
    rw [ih (fun hmem => hnames (List.mem_cons_of_mem _ hmem)) hrest, hnext, List.append_assoc]
    rfl

/-- Without two dots, a way to something that stands in another tree is a way through that tree. -/
theorem IsRooted.walk {tree other : FileTree} (hrooted : tree.IsRooted) {start place : Place}
    {names : List String} (hnames : ".." ∉ names) (hwalk : other.walk start names = .ok place)
    (hstands : tree.lookup place ≠ none) : tree.walk start names = .ok place := by
  induction names generalizing start with
  | nil => exact hwalk
  | cons name rest ih =>
    have hplace := eq_append_of_walk hnames hwalk
    obtain ⟨next, hstep, hrest⟩ := walk_cons_eq_ok_iff.1 hwalk
    have hfolder : tree.lookup start = some .folder :=
      hrooted.folder_of_append (List.cons_ne_nil name rest) (hplace ▸ hstands)
    have hsame : tree.step start name = .ok next := by
      rw [← hstep, step, step, hfolder, lookup_eq_folder_of_step hstep]
    exact walk_cons_eq_ok_iff.2
      ⟨next, hsame, ih (fun hmem => hnames (List.mem_cons_of_mem _ hmem)) hrest⟩

/-- A folder at the place of a path, where nothing stood, is growth along the path. -/
theorem grownAlong_put {tree : FileTree} {place : Place}
    (hplace : tree.placeOf workFolder p = .ok place) (hfree : tree.lookup place = none) :
    GrownAlong workFolder p tree (tree.put place .folder) := by
  have hne : place ≠ [] := by
    rintro rfl
    cases hfree
  have hkeeps : KeepsFolders tree (tree.put place .folder) := by
    intro other hfolder
    rw [lookup_put_of_ne _ fun heq => by simp [heq, hfree] at hfolder]
    exact hfolder
  intro other
  by_cases heq : other = place
  · subst heq
    refine .inr ⟨hfree, lookup_put_self tree hne _, p.parts, List.prefix_refl _, ?_⟩
    have hafter := hkeeps.placeOf hplace
    unfold placeOf at hafter
    split at hafter
    · cases hafter
    · exact hafter
  · exact .inl (lookup_put_of_ne tree heq _)

end FileTree

end Tabsmith
