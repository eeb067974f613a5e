import Tabsmith.Bash.Completion
import Tabsmith.Proofs.Calls.Bash.Lines
import Tabsmith.Proofs.Sites.Children

/-!
The calls in the bash script of a program: the function of a site calls those of the sites directly
below it, and the entry function those of the top level.
-/

namespace Tabsmith.Bash

theorem calls_valueStatements (options : List Opt) :
    (valueStatements options).flatMap Statement.calls = [] := by
  unfold valueStatements
  split <;> rfl

theorem map_target_branches (program : String) (above : List String) (commands : List Command) :
    (branches (program :: above) commands).map (·.target) =
      (levelPaths above commands).map fun path => functionName (program :: path) := by
  simp [branches, levelPaths_eq]

theorem calls_descendStatements (program : String) (site : Site) :
    (descendStatements program site).flatMap Statement.calls =
      site.childPaths.map fun path => functionName (program :: path) := by
  rw [Site.childPaths, ← map_target_branches]
  simp [descendStatements, Statement.calls]

theorem calls_argumentStatements (c : Command) (first : Argument) :
    (argumentStatements c first).flatMap Statement.calls = [] := by
  unfold argumentStatements
  split <;> simp [calls_valueStatements, Statement.calls]

theorem calls_optionStatements (c : Command) :
    (optionStatements c).flatMap Statement.calls = [] := by
  simp [optionStatements, calls_valueStatements, Statement.calls]

/-- The function of a site calls those of the sites directly below it. -/
theorem calls_siteFunction (program : String) (site : Site) :
    (siteFunction program site).calls =
      site.childPaths.map fun path => functionName (program :: path) := by
  have hdeclare : ∀ (p : Prop) [Decidable p] (v : Variable) (ws : List String),
      (if p then [] else [Statement.declare v ws]).flatMap Statement.calls = [] := by
    intro p _ v ws
    split <;> rfl
  simp only [Function.calls, siteFunction, List.flatMap_append, hdeclare, List.nil_append]
  cases hsubs : site.command.subcommands.isEmpty with
  | false => exact calls_descendStatements program site
  | true =>
    have hnone : site.childPaths = [] := by
      simp [Site.childPaths, List.isEmpty_iff.1 hsubs, levelPaths_eq, branchingCommands,
        visibleCommands]
    rw [hnone]
    cases site.command.drivingArgument? with
    | none => exact calls_optionStatements _
    | some first => exact calls_argumentStatements _ first

/-- The entry function calls those of the sites of the top level. -/
theorem calls_entryFunction (p : Program) : (entryFunction p).calls =
    (levelPaths [] p.commands).map fun path => functionName (p.name :: path) := by
  rw [← map_target_branches]
  simp [Function.calls, entryFunction, Statement.calls]

/-- The functions of a program are those of its sites, below the one of the program. -/
theorem definitions_script (p : Program) :
    (script p).definitions = entryFunction p :: p.sites.map (siteFunction p.name) :=
  rfl

theorem isNamed_of_mem_definitions {p : Program} {f : Function}
    (hf : f ∈ (script p).definitions) : f.IsNamed := by
  rw [definitions_script, List.mem_cons, List.mem_map] at hf
  rcases hf with rfl | ⟨site, _, rfl⟩
  · refine ⟨⟨_, rfl⟩, fun name hname => ?_⟩
    rw [calls_entryFunction, List.mem_map] at hname
    obtain ⟨path, _, rfl⟩ := hname
    exact ⟨_, rfl⟩
  · refine ⟨⟨_, rfl⟩, fun name hname => ?_⟩
    rw [calls_siteFunction, List.mem_map] at hname
    obtain ⟨path, _, rfl⟩ := hname
    exact ⟨_, rfl⟩

theorem definitions_names (p : Program) : (script p).definitions.map (·.name) =
    functionName [p.name] :: p.sites.map fun site => functionName (p.name :: site.path) := by
  simp [definitions_script, entryFunction, siteFunction]

/-- The functions call each of the others but the entry function once, and nothing else. -/
theorem calls_perm (p : Program) :
    (functionName [p.name] :: (script p).definitions.flatMap Function.calls).Perm
      ((script p).definitions.map (·.name)) := by
  have hcalls := (levelPaths_append_childPaths_perm [] p.commands).map
    fun path => functionName (p.name :: path)
  rw [definitions_names, definitions_script, List.flatMap_cons, calls_entryFunction,
    List.flatMap_map]
  simp only [calls_siteFunction]
  refine List.Perm.cons _ ?_
  simpa [List.map_flatMap, Program.sites, Function.comp_def] using hcalls

end Tabsmith.Bash
