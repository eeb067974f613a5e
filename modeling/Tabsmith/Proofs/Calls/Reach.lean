import Mathlib.Data.List.Nodup
import Tabsmith.Proofs.Calls.Bash
import Tabsmith.Proofs.Calls.Zsh

/-!
What the calls of a loaded script run. A shell keeps the last definition of a name, so a call runs the
function that it is meant for if no name is defined twice.
-/

namespace Tabsmith

/-- The function that a name stands for when several have it: the one that is defined last. -/
def lastNamed {α : Type} (name : α → String) (functions : List α) (called : String) : Option α :=
  functions.reverse.find? fun f => name f = called

theorem lastNamed_of_nodup {α : Type} {name : α → String} {functions : List α}
    (hnames : (functions.map name).Nodup) {f : α} (hf : f ∈ functions) :
    lastNamed name functions (name f) = some f := by
  cases hfound : lastNamed name functions (name f) with
  | none =>
    have hnone := List.find?_eq_none.1 hfound f (List.mem_reverse.2 hf)
    simp at hnone
  | some g =>
    have hg : g ∈ functions := List.mem_reverse.1 (List.mem_of_find?_eq_some hfound)
    have hname : name g = name f := by simpa using List.find?_some hfound
    rw [List.inj_on_of_nodup_map hnames hg hf hname]

/-- Each call runs the function of the site in whose branch it stands: the calls of the entry function
those of the top level, and the calls of a site's function those of the sites directly below it. -/
structure CallsReachSites {α : Type} (p : Program) (run : String → Option α)
    (calls : α → List String) (entry : α) (function : Site → α) : Prop where
  entry : (calls entry).map run =
    (levelSites [] p.commands).map fun below => some (function below)
  site : ∀ site ∈ p.sites, (calls (function site)).map run =
    site.children.map fun below => some (function below)

theorem callsReachSites_of_nodup {α : Type} {p : Program} {name : α → String}
    {calls : α → List String} {definitions : List α} {entry : α} {function : Site → α}
    (hnames : (definitions.map name).Nodup)
    (hname : ∀ site, name (function site) = functionName (p.name :: site.path))
    (hmem : ∀ site ∈ p.sites, function site ∈ definitions)
    (hentry : calls entry =
      (levelPaths [] p.commands).map fun path => functionName (p.name :: path))
    (hsite : ∀ site, calls (function site) =
      site.childPaths.map fun path => functionName (p.name :: path)) :
    CallsReachSites p (lastNamed name definitions) calls entry function := by
  have hrun : ∀ sites ⊆ p.sites,
      ((sites.map (·.path)).map fun path => functionName (p.name :: path)).map
        (lastNamed name definitions) = sites.map fun site => some (function site) := by
    intro sites hsites
    rw [List.map_map, List.map_map]
    refine List.map_congr_left fun site hsite => ?_
    rw [Function.comp_apply, Function.comp_apply, ← hname site,
      lastNamed_of_nodup hnames (hmem site (hsites hsite))]
  constructor
  · rw [hentry]
    exact hrun _ (levelSites_subset_sitesDown _ _)
  · intro site hmemSite
    rw [hsite]
    exact hrun _ (Site.children_subset hmemSite)

/-- Every call of the bash script runs the function of the command in whose branch it stands. -/
def Bash.CallsReachTheirSites (p : Program) : Prop :=
  CallsReachSites p (lastNamed (·.name) (script p).definitions) Function.calls (entryFunction p)
    (siteFunction p.name)

/-- Every call of the zsh script runs the function of the command in whose branch it stands. -/
def Zsh.CallsReachTheirSites (p : Program) : Prop :=
  CallsReachSites p (lastNamed (·.name) (script p).definitions) Function.calls (entryFunction p)
    (siteFunction p.name)

theorem Bash.callsReachTheirSites {p : Program}
    (hnames : ((script p).definitions.map (·.name)).Nodup) : CallsReachTheirSites p := by
  refine callsReachSites_of_nodup hnames (fun _ => rfl) (fun site hsite => ?_)
    (calls_entryFunction p) (calls_siteFunction p.name)
  rw [definitions_script]
  exact List.mem_cons_of_mem _ (List.mem_map_of_mem hsite)

theorem Zsh.callsReachTheirSites {p : Program}
    (hnames : ((script p).definitions.map (·.name)).Nodup) : CallsReachTheirSites p := by
  refine callsReachSites_of_nodup hnames (fun _ => rfl) (fun site hsite => ?_)
    (calls_entryFunction p) (calls_siteFunction p.name)
  have hup := (sitesUp_perm_sitesDown [] p.commands).mem_iff.2 hsite
  rw [definitions_script]
  exact List.mem_append_left _ (List.mem_map_of_mem hup)

end Tabsmith
