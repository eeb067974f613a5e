import Mathlib.Data.List.Forall2
import Tabsmith.Proofs.Sites.Distinct

/-!
What a program offers, and after which paths: the names of the visible commands below the path and
the flags of its visible options. The paths are the one of the program itself and those of the
visible commands, with all commands above them visible, that are not leaves.
-/

namespace Tabsmith

/-- The words that are offered after a path of commands. -/
structure Offering where
  path : List String
  commands : List String
  flags : List String
deriving DecidableEq, Repr

/-- A word that is offered, by what it is. -/
inductive Candidate where
  | command (name : String)
  | flag (word : String)
deriving DecidableEq, Repr

/-- The words of an offering, the commands first. -/
def Offering.candidates (o : Offering) : List Candidate :=
  o.commands.map .command ++ o.flags.map .flag

/-- The offering of a path with the given commands and options below it. -/
def Offering.ofParts (path : List String) (commands : List Command) (options : List Opt) :
    Offering where
  path := path
  commands := (visibleCommands commands).map (·.name)
  flags := (visibleOptions options).flatMap Opt.flags

def Site.offering (site : Site) : Offering :=
  .ofParts site.path site.command.subcommands site.command.options

/-- The offering before any command. -/
def Program.startOffering (p : Program) : Offering :=
  .ofParts [] p.commands p.globalOptions

def Program.offerings (p : Program) : List Offering :=
  p.startOffering :: p.sites.map Site.offering

/-- There is an offering for the start and one for each visible command, with all commands above it
visible, that is not a leaf. -/
theorem Program.mem_offerings_iff {p : Program} {o : Offering} :
    o ∈ p.offerings ↔ o = .ofParts [] p.commands p.globalOptions ∨
      ∃ c, Reaches p.commands o.path c ∧ c.isLeaf = false ∧
        o = .ofParts o.path c.subcommands c.options := by
  rw [Program.offerings, List.mem_cons, List.mem_map]
  apply or_congr Iff.rfl
  constructor
  · rintro ⟨site, hsite, rfl⟩
    obtain ⟨hreach, hleaf⟩ := Program.mem_sites_iff.1 hsite
    exact ⟨site.command, hreach, hleaf, rfl⟩
  · rintro ⟨c, hreach, hleaf, hparts⟩
    have hsite : (⟨o.path, c⟩ : Site) ∈ p.sites := Program.mem_sites_iff.2 ⟨hreach, hleaf⟩
    exact ⟨⟨o.path, c⟩, hsite, hparts.symm⟩

example :
    let all : Opt := { name := "all", short := ["a"] }
    let debug : Opt := { name := "debug", hidden := true }
    let run : Command := { name := "run", options := [all, debug] }
    let help : Command := { name := "help" }
    let inner : Command := { name := "inner", hidden := true, options := [all] }
    let p : Program := { name := "tool", commands := [run, help, inner] }
    p.offerings = [⟨[], ["run", "help"], []⟩, ⟨["run"], [], ["-a", "--all"]⟩] := rfl

/-- What is made of each site goes with the offering of the site. -/
theorem forall₂_map_offering {α : Type} {R : α → Offering → Prop} {part : Site → α}
    {sites : List Site} (hpart : ∀ site ∈ sites, R (part site) site.offering) :
    List.Forall₂ R (sites.map part) (sites.map Site.offering) := by
  rw [List.forall₂_map_left_iff, List.forall₂_map_right_iff, List.forall₂_same]
  exact hpart

theorem Site.path_ne_nil {p : Program} {site : Site} (hsite : site ∈ p.sites) : site.path ≠ [] :=
  (Program.mem_sites_iff.1 hsite).1.path_ne_nil

theorem Program.paths_offerings (p : Program) :
    p.offerings.map (·.path) = [] :: p.sites.map (·.path) := by
  have hpaths : (·.path) ∘ Site.offering = fun site : Site => site.path := rfl
  rw [Program.offerings, List.map_cons, List.map_map, hpaths]
  rfl

/-- Where the names of siblings differ, there is one offering for each path. -/
theorem Program.nodup_paths_offerings {p : Program} (hdiffer : SiblingsDiffer p.commands) :
    (p.offerings.map (·.path)).Nodup := by
  rw [Program.paths_offerings, List.nodup_cons]
  refine ⟨fun hstart => ?_, nodup_paths_sitesDown hdiffer []⟩
  obtain ⟨site, hsite, hpath⟩ := List.mem_map.1 hstart
  exact Site.path_ne_nil hsite hpath

end Tabsmith
