import Mathlib.Data.List.Perm.Basic
import Tabsmith.Program.Site

/-!
The command tree and its sites: induction over the tree, the two walks as maps over the branching
commands of one level, and the sites as the visible commands with something left to complete.
-/

namespace Tabsmith

theorem sizeOf_subcommands_lt_of_mem {c : Command} {commands : List Command}
    (hmem : c ∈ commands) : sizeOf c.subcommands < sizeOf commands := by
  have hlist := List.sizeOf_lt_of_mem hmem
  cases c
  simp only [Command.mk.sizeOf_spec] at hlist ⊢
  omega

/-- Induction over the commands of one level, where the hypothesis is about the levels below all of
them, those of hidden commands included. -/
theorem forestInduction {motive : List Command → Prop}
    (step : ∀ commands, (∀ c ∈ commands, motive c.subcommands) → motive commands)
    (commands : List Command) : motive commands :=
  step commands fun c hmem =>
    have := sizeOf_subcommands_lt_of_mem hmem
    forestInduction step c.subcommands
termination_by sizeOf commands

theorem mem_visibleCommands {c : Command} {commands : List Command} :
    c ∈ visibleCommands commands ↔ c ∈ commands ∧ c.hidden = false := by
  simp [visibleCommands]

theorem mem_branchingCommands {c : Command} {commands : List Command} :
    c ∈ branchingCommands commands ↔ c ∈ commands ∧ c.hidden = false ∧ c.isLeaf = false := by
  simp [branchingCommands, mem_visibleCommands, and_assoc]

/-- A command with a subcommand, be it a hidden one, is no leaf. -/
theorem Command.isLeaf_eq_false_of_mem {c sub : Command} (hsub : sub ∈ c.subcommands) :
    c.isLeaf = false := by
  have hne : c.subcommands ≠ [] := List.ne_nil_of_mem hsub
  simp [Command.isLeaf, hne]

theorem branchingCommands_cons (c : Command) (rest : List Command) :
    branchingCommands (c :: rest) =
      if c.hidden || c.isLeaf then branchingCommands rest else c :: branchingCommands rest := by
  unfold branchingCommands visibleCommands
  cases hhidden : c.hidden <;> cases hleaf : c.isLeaf <;> simp [hhidden, hleaf]

theorem Command.sites_eq (above : List String) (c : Command) :
    c.sites above = if c.hidden || c.isLeaf then []
      else ⟨above ++ [c.name], c⟩ :: sitesDown (above ++ [c.name]) c.subcommands := by
  cases c
  rw [Command.sites]

theorem Command.sitesUp_eq (above : List String) (c : Command) :
    c.sitesUp above = if c.hidden || c.isLeaf then []
      else Tabsmith.sitesUp (above ++ [c.name]) c.subcommands ++ [⟨above ++ [c.name], c⟩] := by
  cases c
  rw [Command.sitesUp]

/-- From the top down, each branching command of a level stands before the sites below it. -/
theorem sitesDown_eq_flatMap (above : List String) (commands : List Command) :
    sitesDown above commands = (branchingCommands commands).flatMap fun c =>
      ⟨above ++ [c.name], c⟩ :: sitesDown (above ++ [c.name]) c.subcommands := by
  induction commands with
  | nil => rfl
  | cons c rest ih =>
    rw [sitesDown, ih, branchingCommands_cons, Command.sites_eq]
    split <;> simp

/-- From the bottom up, each branching command of a level stands after the sites below it. -/
theorem sitesUp_eq_flatMap (above : List String) (commands : List Command) :
    sitesUp above commands = (branchingCommands commands).flatMap fun c =>
      sitesUp (above ++ [c.name]) c.subcommands ++ [⟨above ++ [c.name], c⟩] := by
  induction commands with
  | nil => rfl
  | cons c rest ih =>
    rw [sitesUp, ih, branchingCommands_cons, Command.sitesUp_eq]
    split <;> simp

/-- A site is a branching command of the level, or stands below one. -/
theorem mem_sitesDown {site : Site} {above : List String} {commands : List Command} :
    site ∈ sitesDown above commands ↔ ∃ c ∈ branchingCommands commands,
      site = ⟨above ++ [c.name], c⟩ ∨ site ∈ sitesDown (above ++ [c.name]) c.subcommands := by
  rw [sitesDown_eq_flatMap]
  simp

/-- The two walks meet the same sites, each as often. -/
theorem sitesUp_perm_sitesDown (above : List String) (commands : List Command) :
    (sitesUp above commands).Perm (sitesDown above commands) := by
  induction commands using forestInduction generalizing above with
  | step commands ih =>
    rw [sitesUp_eq_flatMap, sitesDown_eq_flatMap]
    apply List.Perm.flatMap_left
    intro c hc
    have hbelow := ih c (mem_branchingCommands.1 hc).1 (above ++ [c.name])
    exact (List.perm_append_singleton _ _).trans (hbelow.cons _)

/-- The sites below a site are sites. -/
theorem mem_sitesDown_trans {site below : Site} {above : List String} {commands : List Command}
    (hsite : site ∈ sitesDown above commands)
    (hbelow : below ∈ sitesDown site.path site.command.subcommands) :
    below ∈ sitesDown above commands := by
  induction commands using forestInduction generalizing above with
  | step commands ih =>
    obtain ⟨c, hc, hcase⟩ := mem_sitesDown.1 hsite
    refine mem_sitesDown.2 ⟨c, hc, Or.inr ?_⟩
    rcases hcase with rfl | hunder
    · exact hbelow
    · exact ih c (mem_branchingCommands.1 hc).1 hunder

/-- A command that is visible together with all commands above it, and its names from the top. -/
inductive Reaches (commands : List Command) : List String → Command → Prop
  | top {c : Command} (hmem : c ∈ commands) (hvisible : c.hidden = false) :
      Reaches commands [c.name] c
  | under {path : List String} {c sub : Command} (habove : Reaches commands path c)
      (hmem : sub ∈ c.subcommands) (hvisible : sub.hidden = false) :
      Reaches commands (path ++ [sub.name]) sub

theorem Reaches.path_ne_nil {commands : List Command} {path : List String} {c : Command}
    (hreach : Reaches commands path c) : path ≠ [] := by
  cases hreach <;> simp

/-- What the commands of a level reach, they reach from the command above them too. -/
theorem Reaches.from_above {commands : List Command} {c : Command} (hmem : c ∈ commands)
    (hvisible : c.hidden = false) {path : List String} {found : Command}
    (hreach : Reaches c.subcommands path found) : Reaches commands (c.name :: path) found := by
  induction hreach with
  | top hsub hshown => exact .under (.top hmem hvisible) hsub hshown
  | under _ hsub hshown ih => exact .under ih hsub hshown

/-- The sites are the visible commands below visible ones that are not leaves. -/
theorem mem_sitesDown_iff {site : Site} {above : List String} {commands : List Command} :
    site ∈ sitesDown above commands ↔ ∃ path, site.path = above ++ path ∧
      Reaches commands path site.command ∧ site.command.isLeaf = false := by
  constructor
  · intro hsite
    induction commands using forestInduction generalizing above with
    | step commands ih =>
      obtain ⟨c, hc, hcase⟩ := mem_sitesDown.1 hsite
      obtain ⟨hmem, hvisible, hleaf⟩ := mem_branchingCommands.1 hc
      rcases hcase with rfl | hbelow
      · exact ⟨[c.name], rfl, .top hmem hvisible, hleaf⟩
      · obtain ⟨path, hpath, hreach, hsiteLeaf⟩ := ih c hmem hbelow
        exact ⟨c.name :: path, by simp [hpath], hreach.from_above hmem hvisible, hsiteLeaf⟩
  · rintro ⟨path, hpath, hreach, hleaf⟩
    obtain ⟨sitePath, found⟩ := site
    obtain rfl : sitePath = above ++ path := hpath
    dsimp only at hreach hleaf
    -- A path ends at its command, so the induction puts one level below what is already a site.
    induction hreach with
    | top hmem hvisible =>
      exact mem_sitesDown.2 ⟨_, mem_branchingCommands.2 ⟨hmem, hvisible, hleaf⟩, Or.inl rfl⟩
    | under _ hsub hvisible ih =>
      refine mem_sitesDown_trans (ih (Command.isLeaf_eq_false_of_mem hsub)) (mem_sitesDown.2 ?_)
      exact ⟨_, mem_branchingCommands.2 ⟨hsub, hvisible, hleaf⟩, Or.inl (by simp)⟩

/-- The sites of a program are its visible commands, with all commands above them visible, that are
not leaves. -/
theorem Program.mem_sites_iff {site : Site} {p : Program} :
    site ∈ p.sites ↔ Reaches p.commands site.path site.command ∧ site.command.isLeaf = false := by
  simp [Program.sites, mem_sitesDown_iff]

end Tabsmith
