import Mathlib.Data.List.Nodup
import Tabsmith.Proofs.Sites

/-!
Where the names of siblings differ, a path leads to one command.
-/

namespace Tabsmith

/-- At every depth the names of the commands of one level differ. -/
inductive SiblingsDiffer : List Command → Prop
  | intro {commands : List Command} (names : (commands.map (·.name)).Nodup)
      (below : ∀ c ∈ commands, SiblingsDiffer c.subcommands) : SiblingsDiffer commands

theorem branchingCommands_sublist (commands : List Command) :
    (branchingCommands commands).Sublist commands :=
  List.filter_sublist.trans List.filter_sublist

theorem prefix_of_mem_sitesDown {site : Site} {above : List String} {commands : List Command}
    (hsite : site ∈ sitesDown above commands) : ∃ path, path ≠ [] ∧ site.path = above ++ path := by
  obtain ⟨path, hpath, hreach, _⟩ := mem_sitesDown_iff.1 hsite
  exact ⟨path, hreach.path_ne_nil, hpath⟩

/-- The paths of a command and of the sites below it go through its name. -/
theorem path_through_name {c : Command} {above path : List String}
    (hpath : path ∈ ((⟨above ++ [c.name], c⟩ : Site) ::
      sitesDown (above ++ [c.name]) c.subcommands).map (·.path)) :
    ∃ rest, path = above ++ c.name :: rest := by
  obtain ⟨site, hsite, rfl⟩ := List.mem_map.1 hpath
  rcases List.mem_cons.1 hsite with rfl | hbelow
  · exact ⟨[], rfl⟩
  · obtain ⟨rest, _, hrest⟩ := prefix_of_mem_sitesDown hbelow
    exact ⟨rest, by simp [hrest]⟩

/-- No two sites have one path. -/
theorem nodup_paths_sitesDown {commands : List Command} (hdiffer : SiblingsDiffer commands)
    (above : List String) : ((sitesDown above commands).map (·.path)).Nodup := by
  induction hdiffer generalizing above with
  | @intro commands hnames _ ih =>
    rw [sitesDown_eq_flatMap, List.map_flatMap, List.nodup_flatMap]
    constructor
    -- Below one command the paths are longer than its own; below two they part at the names.
    · intro c hc
      rw [List.map_cons, List.nodup_cons]
      refine ⟨fun hmem => ?_, ih c (mem_branchingCommands.1 hc).1 _⟩
      obtain ⟨site, hsite, hpath⟩ := List.mem_map.1 hmem
      obtain ⟨path, hne, hlonger⟩ := prefix_of_mem_sitesDown hsite
      rw [hpath] at hlonger
      exact hne (List.self_eq_append_right.1 hlonger)
    · have hbranching : ((branchingCommands commands).map (·.name)).Nodup :=
        hnames.sublist ((branchingCommands_sublist commands).map _)
      refine (List.pairwise_map.1 hbranching).imp fun hne path hleft hright => hne ?_
      obtain ⟨left, hl⟩ := path_through_name hleft
      obtain ⟨right, hr⟩ := path_through_name hright
      exact (List.cons.inj (List.append_cancel_left (hl.symm.trans hr))).1

end Tabsmith
