import Tabsmith.Proofs.Calls.Reach
import Tabsmith.Proofs.FunctionNames

/-!
Running a bash script down the words typed so far. Each function tests whether the cursor is on the
word that it completes and hands over to the function of that word if the cursor is beyond it, so the
words of a path lead to the function of the path, one call for each word.
-/

namespace Tabsmith.Bash

/-- The function that statements call for the words typed and the index of the word at the cursor. A
test for the cursor ends them where it holds; otherwise the branch for the dispatched word is taken.
The other statements call nothing. -/
def callee? (words : List String) (cursor : Nat) : List Statement → Option String
  | [] => none
  | .atWord index _ :: rest => if cursor = index then none else callee? words cursor rest
  | .dispatch index branches _ :: _ =>
    (branches.find? fun branch => branch.word = words.getD index "").map (·.target)
  | _ :: rest => callee? words cursor rest

/-- The function that a script is in after some calls, if it gets that far. -/
def Script.reached (s : Script) (words : List String) (cursor : Nat) : (calls : Nat) → Option Function
  | 0 => some s.entry
  | calls + 1 => (s.reached words cursor calls).bind fun f =>
      (callee? words cursor f.body).bind (lastNamed (·.name) s.definitions)

/-- The index of the word that a statement compares the cursor with. -/
def Statement.tested? : Statement → Option Nat
  | atWord index _ => some index
  | _ => none

/-- The index of the word that a statement dispatches on. -/
def Statement.dispatched? : Statement → Option Nat
  | dispatch index _ _ => some index
  | _ => none

variable {p : Program} {words : List String} {cursor : Nat}

theorem mem_calls_of_callee? {body : List Statement} {name : String}
    (hcallee : callee? words cursor body = some name) : name ∈ body.flatMap Statement.calls := by
  induction body with
  | nil => cases hcallee
  | cons s rest ih =>
    rw [List.flatMap_cons, List.mem_append]
    cases s with
    | dispatch index branches otherwise =>
      rw [callee?, Option.map_eq_some_iff] at hcallee
      obtain ⟨branch, hfind, rfl⟩ := hcallee
      exact Or.inl (List.mem_map_of_mem (List.mem_of_find?_eq_some hfind))
    | atWord index r =>
      rw [callee?] at hcallee
      split at hcallee
      · cases hcallee
      · exact Or.inr (ih hcallee)
    | _ => exact Or.inr (ih hcallee)

/-- The branch for the name of a branching command calls its function. That function has its name from
the word of the branch, so siblings of one name would not matter here. -/
theorem find?_branches (path : List String) {commands : List Command} {c : Command}
    (hc : c ∈ branchingCommands commands) :
    ((branches path commands).find? fun branch => branch.word = c.name).map (·.target) =
      some (functionName (path ++ [c.name])) := by
  cases hfind : (branches path commands).find? fun branch => branch.word = c.name with
  | none =>
    have hnone := List.find?_eq_none.1 hfind _ (List.mem_map_of_mem hc)
    simp at hnone
  | some branch =>
    obtain ⟨d, _, rfl⟩ := List.mem_map.1 (List.mem_of_find?_eq_some hfind)
    have hword : d.name = c.name := by simpa using List.find?_some hfind
    rw [Option.map_some, hword]

/-- The word after those of a path. -/
theorem getD_of_isPrefix (path : List String) {name : String}
    (hwords : path ++ [name] <+: words.tail) : words.getD (path.length + 1) "" = name := by
  obtain ⟨rest, htail⟩ := hwords
  cases words with
  | nil => simp at htail
  | cons first others =>
    obtain rfl : path ++ [name] ++ rest = others := htail
    simp

theorem callee?_entryFunction (p : Program) (words : List String) (hcursor : cursor ≠ 1) :
    callee? words cursor (entryFunction p).body =
      ((branches [p.name] p.commands).find? fun branch =>
        branch.word = words.getD 1 "").map (·.target) := by
  simp [entryFunction, callee?, hcursor]

/-- Beyond its own word, the function of a command with subcommands calls the function for the next
one. -/
theorem callee?_siteFunction (program : String) (words : List String) {site : Site}
    (hsubs : site.command.subcommands ≠ []) (hcursor : cursor ≠ site.path.length + 1) :
    callee? words cursor (siteFunction program site).body =
      ((branches (program :: site.path) site.command.subcommands).find? fun branch =>
        branch.word = words.getD (site.path.length + 1) "").map (·.target) := by
  have hsome : site.command.subcommands.isEmpty = false := by simpa using hsubs
  simp only [siteFunction, descendStatements, hsome]
  cases (visibleOptions site.command.options).isEmpty <;> simp [callee?, hcursor]

theorem lastNamed_siteFunction (hnames : ((script p).definitions.map (·.name)).Nodup) {site : Site}
    (hsite : site ∈ p.sites) :
    lastNamed (·.name) (script p).definitions (functionName (p.name :: site.path)) =
      some (siteFunction p.name site) := by
  have hmem : siteFunction p.name site ∈ (script p).definitions := by
    rw [definitions_script]
    exact List.mem_cons_of_mem _ (List.mem_map_of_mem hsite)
  exact lastNamed_of_nodup hnames hmem

/-- The words of a path lead to the function of its command, one call for each. -/
theorem reached_of_reaches (hnames : ((script p).definitions.map (·.name)).Nodup)
    {path : List String} {c : Command} (hreach : Reaches p.commands path c)
    (hleaf : c.isLeaf = false) (hwords : path <+: words.tail) (hcursor : path.length < cursor) :
    (script p).reached words cursor path.length = some (siteFunction p.name ⟨path, c⟩) := by
  induction hreach with
  | @top c hmem hvisible =>
    have hsite : (⟨[c.name], c⟩ : Site) ∈ p.sites :=
      Program.mem_sites_iff.2 ⟨.top hmem hvisible, hleaf⟩
    have hword : words.getD 1 "" = c.name := getD_of_isPrefix [] hwords
    have hbranch := find?_branches [p.name] (mem_branchingCommands.2 ⟨hmem, hvisible, hleaf⟩)
    have hbeyond : cursor ≠ 1 := Nat.ne_of_gt hcursor
    have hfound := lastNamed_siteFunction hnames hsite
    have hcallee := callee?_entryFunction p words hbeyond
    rw [hword, hbranch] at hcallee
    change ((callee? words cursor (entryFunction p).body).bind _) = _
    rw [hcallee, Option.bind_some]
    exact hfound
  | @under path c sub habove hmem hvisible ih =>
    have hsite : (⟨path ++ [sub.name], sub⟩ : Site) ∈ p.sites :=
      Program.mem_sites_iff.2 ⟨.under habove hmem hvisible, hleaf⟩
    have hlength : (path ++ [sub.name]).length = path.length + 1 := by simp
    rw [hlength] at hcursor ⊢
    have hcaller := ih (Command.isLeaf_eq_false_of_mem hmem)
      ((List.prefix_append path [sub.name]).trans hwords) (by omega)
    have hsubs : (⟨path, c⟩ : Site).command.subcommands ≠ [] := List.ne_nil_of_mem hmem
    have hcallee := callee?_siteFunction p.name words hsubs (Nat.ne_of_gt hcursor)
    have hbranch := find?_branches (p.name :: path)
      (mem_branchingCommands.2 ⟨hmem, hvisible, hleaf⟩)
    have hfound := lastNamed_siteFunction hnames hsite
    rw [Script.reached, hcaller, Option.bind_some, hcallee, getD_of_isPrefix path hwords, hbranch,
      Option.bind_some]
    exact hfound

/-- What a script calls is the function of a site one level below the one that it is in. -/
theorem eq_siteFunction_of_reached (hnames : ((script p).definitions.map (·.name)).Nodup) {calls : Nat}
    {f : Function} (hreached : (script p).reached words cursor calls = some f) :
    (calls = 0 ∧ f = entryFunction p) ∨
      ∃ site ∈ p.sites, site.path.length = calls ∧ f = siteFunction p.name site := by
  induction calls generalizing f with
  | zero => exact Or.inl ⟨rfl, (Option.some.inj hreached).symm⟩
  | succ calls ih =>
    rw [Script.reached, Option.bind_eq_some_iff] at hreached
    obtain ⟨caller, hcaller, hcall⟩ := hreached
    obtain ⟨name, hcallee, hfound⟩ := Option.bind_eq_some_iff.1 hcall
    have hname : name ∈ caller.calls := mem_calls_of_callee? hcallee
    right
    rcases ih hcaller with ⟨rfl, rfl⟩ | ⟨site, hsite, rfl, rfl⟩
    · rw [calls_entryFunction, levelPaths, List.map_map, List.mem_map] at hname
      obtain ⟨below, hbelow, rfl⟩ := hname
      have hmem := levelSites_subset_sitesDown _ _ hbelow
      obtain ⟨c, _, rfl⟩ := List.mem_map.1 hbelow
      have hf := (lastNamed_siteFunction hnames hmem).symm.trans hfound
      exact ⟨_, hmem, rfl, (Option.some.inj hf).symm⟩
    · rw [calls_siteFunction, Site.childPaths, levelPaths, List.map_map, List.mem_map] at hname
      obtain ⟨below, hbelow, rfl⟩ := hname
      have hmem := Site.children_subset hsite hbelow
      obtain ⟨c, _, rfl⟩ := List.mem_map.1 hbelow
      have hf := (lastNamed_siteFunction hnames hmem).symm.trans hfound
      exact ⟨_, hmem, by simp, (Option.some.inj hf).symm⟩

/-- The function of a command with subcommands tests for the word after its path and dispatches on
it. -/
theorem indices_siteFunction {program : String} {site : Site}
    (hsubs : site.command.subcommands ≠ []) :
    (siteFunction program site).body.filterMap Statement.tested? = [site.path.length + 1] ∧
      (siteFunction program site).body.filterMap Statement.dispatched? = [site.path.length + 1] := by
  have hsome : site.command.subcommands.isEmpty = false := by simpa using hsubs
  simp only [siteFunction, descendStatements, hsome]
  cases (visibleOptions site.command.options).isEmpty <;> exact ⟨rfl, rfl⟩

end Tabsmith.Bash
