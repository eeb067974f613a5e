import Tabsmith.Proofs.Sites

/-!
The sites directly below another one: each site but those of the top level is directly below exactly
one, and from the bottom up it comes before that one.
-/

namespace Tabsmith

/-- The sites of one level. -/
def levelSites (above : List String) (commands : List Command) : List Site :=
  (branchingCommands commands).map fun c => ⟨above ++ [c.name], c⟩

/-- The sites directly below a site. -/
def Site.children (site : Site) : List Site :=
  levelSites site.path site.command.subcommands

/-- The paths of the sites of one level. -/
def levelPaths (above : List String) (commands : List Command) : List (List String) :=
  (levelSites above commands).map (·.path)

/-- The paths of the sites directly below a site. -/
def Site.childPaths (site : Site) : List (List String) :=
  levelPaths site.path site.command.subcommands

theorem levelSites_subset_sitesDown (above : List String) (commands : List Command) :
    levelSites above commands ⊆ sitesDown above commands := by
  intro site hsite
  obtain ⟨c, hc, rfl⟩ := List.mem_map.1 hsite
  exact mem_sitesDown.2 ⟨c, hc, Or.inl rfl⟩

/-- The sites directly below a site are sites. -/
theorem Site.children_subset {p : Program} {site : Site} (hsite : site ∈ p.sites) :
    site.children ⊆ p.sites :=
  fun _ hbelow => mem_sitesDown_trans hsite (levelSites_subset_sitesDown _ _ hbelow)

theorem levelPaths_eq (above : List String) (commands : List Command) :
    levelPaths above commands = (branchingCommands commands).map fun c => above ++ [c.name] := by
  simp [levelPaths, levelSites]

/-- The sites of the top level and those directly below some site are all sites, each as often as it
occurs. -/
theorem levelPaths_append_childPaths_perm (above : List String) (commands : List Command) :
    (levelPaths above commands ++ (sitesDown above commands).flatMap Site.childPaths).Perm
      ((sitesDown above commands).map (·.path)) := by
  induction commands using forestInduction generalizing above with
  | step commands ih =>
    rw [sitesDown_eq_flatMap, List.flatMap_assoc, List.map_flatMap, levelPaths_eq]
    simp only [List.flatMap_cons, List.map_cons]
    refine (List.map_append_flatMap_perm _ _ _).trans (List.Perm.flatMap_left _ fun c hc => ?_)
    exact (ih c (mem_branchingCommands.1 hc).1 _).cons _

/-- The sites of the top level are met from the bottom up too. -/
theorem levelPaths_subset_sitesUp (above : List String) (commands : List Command) :
    levelPaths above commands ⊆ (sitesUp above commands).map (·.path) := by
  refine List.map_subset _ fun site hsite => ?_
  exact (sitesUp_perm_sitesDown _ _).mem_iff.2 (levelSites_subset_sitesDown _ _ hsite)

/-- Every site directly below one of the sites is among those before it or among `seen`. -/
def ChildrenFirst (seen : List (List String)) : List Site → Prop
  | [] => True
  | site :: rest =>
    (∀ path ∈ site.childPaths, path ∈ seen) ∧ ChildrenFirst (seen ++ [site.path]) rest

theorem ChildrenFirst.append {seen : List (List String)} {first rest : List Site}
    (hfirst : ChildrenFirst seen first)
    (hrest : ChildrenFirst (seen ++ first.map (·.path)) rest) :
    ChildrenFirst seen (first ++ rest) := by
  induction first generalizing seen with
  | nil => simpa using hrest
  | cons site others ih => exact ⟨hfirst.1, ih hfirst.2 (by simpa using hrest)⟩

theorem ChildrenFirst.flatMap {α : Type} {f : α → List Site} {xs : List α}
    (hf : ∀ x ∈ xs, ∀ seen, ChildrenFirst seen (f x)) (seen : List (List String)) :
    ChildrenFirst seen (xs.flatMap f) := by
  induction xs generalizing seen with
  | nil => trivial
  | cons x rest ih =>
    rw [List.flatMap_cons]
    exact (hf x (by simp) seen).append (ih (fun y hy => hf y (by simp [hy])) _)

/-- From the bottom up, the sites directly below a site come before it. -/
theorem childrenFirst_sitesUp (above : List String) (commands : List Command)
    (seen : List (List String)) : ChildrenFirst seen (sitesUp above commands) := by
  induction commands using forestInduction generalizing above seen with
  | step commands ih =>
    rw [sitesUp_eq_flatMap]
    refine ChildrenFirst.flatMap (fun c hc seen => ?_) seen
    refine (ih c (mem_branchingCommands.1 hc).1 _ _).append ⟨fun path hpath => ?_, trivial⟩
    exact List.mem_append_right _ (levelPaths_subset_sitesUp _ _ hpath)

/-- In a walk that goes through children first, every child of a site is met before the site. -/
theorem ChildrenFirst.mem_before {seen : List (List String)} {before after : List Site} {site : Site}
    (hfirst : ChildrenFirst seen (before ++ site :: after)) {path : List String}
    (hpath : path ∈ site.childPaths) : path ∈ seen ++ before.map (·.path) := by
  induction before generalizing seen with
  | nil => simpa using hfirst.1 path hpath
  | cons other rest ih => simpa using ih hfirst.2

end Tabsmith
