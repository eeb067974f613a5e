import Tabsmith.Proofs.Calls.Zsh.Lines
import Tabsmith.Proofs.Sites.Children
import Tabsmith.Zsh.Completion

/-!
The calls in the zsh script of a program: the function of a site calls those of the sites directly
below it, which are defined before it, and the entry function those of the top level.
-/

namespace Tabsmith.Zsh

/-! ## What is no call -/

theorem hasMark_enclose (s : String) : hasMark (enclose s) = true :=
  hasMark_append_right _ (by decide)

theorem hasMark_describeEntry (c : Command) : hasMark (describeEntry c) = true :=
  hasMark_append_right _ (hasMark_enclose _)

theorem all_hasMark_entries (commands : List Command) : (entries commands).all hasMark = true := by
  simp [entries, hasMark_describeEntry]

theorem all_hasMark_optionSpecs (options : List Opt) :
    (options.flatMap optionSpecs).all hasMark = true := by
  rw [List.all_flatMap, List.all_eq_true]
  intro o _
  unfold optionSpecs
  split <;> simp [hasMark_enclose]

theorem all_hasMark_stateSpecs (level : Level) : (stateSpecs level).all hasMark = true := by
  simp [stateSpecs, hasMark_enclose]

theorem all_hasMark_argumentSpecs (position : Nat) (arguments : List Argument) :
    (argumentSpecs position arguments).all hasMark = true := by
  induction arguments generalizing position with
  | nil => rfl
  | cons a rest ih =>
    rw [argumentSpecs, List.all_cons, ih, argumentSpec, hasMark_enclose, Bool.and_true]

/-! ## Calls -/

theorem filterMap_target_branches (program : String) (above : List String)
    (commands : List Command) : (branches (program :: above) commands).filterMap (·.target) =
      (levelPaths above commands).map fun path => functionName (program :: path) := by
  rw [branches, levelPaths_eq, branchingCommands, List.filterMap_map]
  induction visibleCommands commands with
  | nil => rfl
  | cons c rest ih =>
    rw [List.filterMap_cons, List.filter_cons, ih]
    cases hleaf : c.isLeaf <;> simp [hleaf]

/-- The function of a command without subcommands has one statement, which has no branches. -/
theorem siteFunction_body_of_isEmpty {site : Site} (hsubs : site.command.subcommands.isEmpty = true)
    (program : String) : ∃ specs : List String, specs.all hasMark = true ∧
      (siteFunction program site).body =
        [if specs.isEmpty then .nothing else .arguments false specs] := by
  refine ⟨site.command.options.flatMap optionSpecs ++ argumentSpecs 1 site.command.arguments, ?_, ?_⟩
  · rw [List.all_append, all_hasMark_optionSpecs, all_hasMark_argumentSpecs, Bool.and_true]
  · rw [siteFunction, hsubs]
    rfl

/-- The function of a site calls those of the sites directly below it. -/
theorem calls_siteFunction (program : String) (site : Site) :
    (siteFunction program site).calls =
      site.childPaths.map fun path => functionName (program :: path) := by
  rw [Site.childPaths, ← filterMap_target_branches]
  cases hsubs : site.command.subcommands.isEmpty with
  | false => simp [Function.calls, siteFunction, hsubs, Statement.calls]
  | true =>
    obtain ⟨specs, _, hbody⟩ := siteFunction_body_of_isEmpty hsubs program
    rw [List.isEmpty_iff.1 hsubs, Function.calls, hbody]
    split <;> rfl

/-- The entry function calls those of the sites of the top level. -/
theorem calls_entryFunction (p : Program) : (entryFunction p).calls =
    (levelPaths [] p.commands).map fun path => functionName (p.name :: path) := by
  rw [← filterMap_target_branches]
  cases hcommands : p.commands.isEmpty with
  | false => simp [Function.calls, entryFunction, hcommands, Statement.calls]
  | true =>
    rw [List.isEmpty_iff.1 hcommands, Function.calls, entryFunction, hcommands]
    rfl

theorem isNamed_siteFunction (program : String) (site : Site) :
    (siteFunction program site).IsNamed where
  named := ⟨_, rfl⟩
  calls name hname := by
    rw [calls_siteFunction, List.mem_map] at hname
    obtain ⟨path, _, rfl⟩ := hname
    exact ⟨_, rfl⟩
  marked := by
    rw [← List.all_eq_true]
    cases hsubs : site.command.subcommands.isEmpty with
    | false =>
      rw [siteFunction, hsubs]
      simp only [Bool.not_false, if_true, List.all_cons, List.all_nil, Statement.isMarked,
        List.all_append, all_hasMark_optionSpecs, all_hasMark_entries, all_hasMark_stateSpecs,
        Bool.and_true]
    | true =>
      obtain ⟨specs, hspecs, hbody⟩ := siteFunction_body_of_isEmpty hsubs program
      rw [hbody]
      split
      · rfl
      · rw [List.all_cons, Statement.isMarked, hspecs]
        rfl

theorem isNamed_entryFunction (p : Program) : (entryFunction p).IsNamed where
  named := ⟨_, rfl⟩
  calls name hname := by
    rw [calls_entryFunction, List.mem_map] at hname
    obtain ⟨path, _, rfl⟩ := hname
    exact ⟨_, rfl⟩
  marked := by
    rw [← List.all_eq_true, entryFunction, List.all_append]
    split <;> simp only [List.all_cons, List.all_nil, Statement.isMarked, List.all_append,
      all_hasMark_optionSpecs, all_hasMark_entries, all_hasMark_stateSpecs, Bool.and_true]

/-- The functions of a program are those of its sites from the bottom up, and the one of the
program. -/
theorem definitions_script (p : Program) : (script p).definitions =
    (sitesUp [] p.commands).map (siteFunction p.name) ++ [entryFunction p] :=
  rfl

theorem isNamed_of_mem_definitions {p : Program} {f : Function}
    (hf : f ∈ (script p).definitions) : f.IsNamed := by
  rw [definitions_script, List.mem_append, List.mem_map, List.mem_singleton] at hf
  rcases hf with ⟨site, _, rfl⟩ | rfl
  · exact isNamed_siteFunction _ _
  · exact isNamed_entryFunction _

theorem definitions_names (p : Program) : (script p).definitions.map (·.name) =
    ((sitesUp [] p.commands).map fun site => functionName (p.name :: site.path)) ++
      [functionName [p.name]] := by
  simp [definitions_script, entryFunction, siteFunction]

/-- The functions call each of the others but the entry function once, and nothing else. -/
theorem calls_perm (p : Program) :
    (functionName [p.name] :: (script p).definitions.flatMap Function.calls).Perm
      ((script p).definitions.map (·.name)) := by
  have hup := sitesUp_perm_sitesDown [] p.commands
  have hcalls : (levelPaths [] p.commands ++ (sitesUp [] p.commands).flatMap Site.childPaths).Perm
      ((sitesUp [] p.commands).map (·.path)) :=
    ((hup.flatMap_right _).append_left _).trans
      ((levelPaths_append_childPaths_perm [] p.commands).trans (hup.map _).symm)
  have hnames := (List.perm_append_comm.trans hcalls).map fun path => functionName (p.name :: path)
  rw [definitions_names, definitions_script, List.flatMap_append, List.flatMap_map]
  simp only [calls_siteFunction, List.flatMap_singleton, calls_entryFunction]
  refine (List.Perm.cons _ ?_).trans (List.perm_append_singleton _ _).symm
  simpa [List.map_flatMap, Function.comp_def] using hnames

/-- Every function that a function of the script calls is defined before it. -/
theorem calls_before {p : Program} {before after : List Function} {f : Function}
    (hsplit : (script p).definitions = before ++ f :: after) {name : String}
    (hname : name ∈ f.calls) : name ∈ before.map (·.name) := by
  rw [definitions_script] at hsplit
  -- With nothing after it the function is the entry function, else that of a site.
  rcases List.eq_nil_or_concat after with rfl | ⟨rest, last, rfl⟩
  · obtain ⟨rfl, hentry⟩ := List.append_inj' hsplit rfl
    obtain rfl : entryFunction p = f := by simpa using hentry
    rw [calls_entryFunction, List.mem_map] at hname
    obtain ⟨path, hpath, rfl⟩ := hname
    obtain ⟨site, hsite, rfl⟩ := List.mem_map.1 (levelPaths_subset_sitesUp _ _ hpath)
    simpa using ⟨site, hsite, rfl⟩
  · rw [List.concat_eq_append, ← List.cons_append, ← List.append_assoc] at hsplit
    obtain ⟨hsites, _⟩ := List.append_inj' hsplit rfl
    obtain ⟨first, others, hup, rfl, htail⟩ := List.map_eq_append_iff.1 hsites
    obtain ⟨site, others, rfl, rfl, rfl⟩ := List.map_eq_cons_iff.1 htail
    rw [calls_siteFunction, List.mem_map] at hname
    obtain ⟨path, hpath, rfl⟩ := hname
    have hfirst : ChildrenFirst [] (first ++ site :: others) :=
      hup ▸ childrenFirst_sitesUp [] p.commands []
    obtain ⟨below, hbelow, rfl⟩ := List.mem_map.1 (hfirst.mem_before hpath)
    simpa using ⟨below, hbelow, rfl⟩

end Tabsmith.Zsh
