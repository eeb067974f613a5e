import Tabsmith.Proofs.View
import Tabsmith.Shell

/-!
The scripts of programs that show the same. Each shell has a lemma of its own, which says what
corresponding commands have to agree on beside what they show.
-/

namespace Tabsmith

variable {agree : Command → Command → Prop} {c d : Command} {cs ds : List Command} {p q : Program}

namespace Bash

theorem commandWords_eq
    (hview : List.Forall₂ (Command.SameView agree) (visibleCommands cs) (visibleCommands ds)) :
    commandWords cs = commandWords ds :=
  map_eq_of_forall₂ hview fun _ _ hcd => hcd.name_eq

theorem branches_eq (path : List String) (hleaf : ∀ c d, agree c d → c.isLeaf = d.isLeaf)
    (hview : List.Forall₂ (Command.SameView agree) (visibleCommands cs) (visibleCommands ds)) :
    branches path cs = branches path ds :=
  map_eq_of_forall₂ (branchingCommands_of_sameView hleaf hview) fun _ _ hcd => by rw [hcd.name_eq]

/-- A bash function is about the shape of its command, what the command shows, and the hint of its
first argument. -/
theorem siteFunction_eq (program : String) (path : List String)
    (hshape : ∀ c d, agree c d → c.SameShape d) (hdriver : ∀ c d, agree c d → c.SameDriver d)
    (hview : Command.SameView agree c d) :
    siteFunction program ⟨path, c⟩ = siteFunction program ⟨path, d⟩ := by
  cases hview with
  | intro hname hdescription hstrays hoptions hagree hbelow =>
    have hbranches := branches_eq (program :: path) (fun c d h => (hshape c d h).1) hbelow
    have hfirst := hdriver c d hagree
    unfold Command.SameDriver at hfirst
    simp only [siteFunction, descendStatements, argumentStatements, optionStatements,
      valueStatements, flagWords, hoptions, (hshape c d hagree).2, commandWords_eq hbelow, hbranches]
    cases hc : c.drivingArgument? <;> cases hd : d.drivingArgument? <;> simp_all

/-- The bash scripts of programs that show the same are the same, if corresponding commands agree on
their shape and on the hint of the first argument. -/
theorem script_eq (hshape : ∀ c d, agree c d → c.SameShape d)
    (hdriver : ∀ c d, agree c d → c.SameDriver d) (hview : p.SameView agree q) :
    script p = script q := by
  have hfunctions : p.sites.map (siteFunction q.name) = q.sites.map (siteFunction q.name) := by
    simp only [List.map_eq_flatMap]
    refine flatMap_sitesDown_eq (fun path c d hcd => ?_) hview.commands
    simp only [unlessLeaf, (hshape c d hcd.agrees).1, siteFunction_eq _ path hshape hdriver hcd]
  simp only [script, entryFunction, Program.title, hfunctions, hview.name, hview.version,
    commandWords_eq hview.commands, branches_eq _ (fun c d h => (hshape c d h).1) hview.commands,
    flagWords, hview.options]

end Bash

namespace Zsh

theorem entries_eq
    (hview : List.Forall₂ (Command.SameView agree) (visibleCommands cs) (visibleCommands ds)) :
    entries cs = entries ds :=
  map_eq_of_forall₂ hview fun _ _ hcd => by
    rw [describeEntry, describeEntry, hcd.name_eq, hcd.description_eq]

theorem branches_eq (path : List String) (hleaf : ∀ c d, agree c d → c.isLeaf = d.isLeaf)
    (hview : List.Forall₂ (Command.SameView agree) (visibleCommands cs) (visibleCommands ds)) :
    branches path cs = branches path ds :=
  map_eq_of_forall₂ hview fun c d hcd => by rw [hcd.name_eq, hleaf c d hcd.agrees]

theorem optionSpecs_flatMap_eq {options others : List Opt}
    (hoptions : visibleOptions options = visibleOptions others) :
    options.flatMap optionSpecs = others.flatMap optionSpecs :=
  flatMap_options_eq (fun _ hhidden => by rw [optionSpecs, if_pos hhidden]) hoptions

/-- A zsh function is about the shape of its command, what the command shows, and all arguments. -/
theorem siteFunction_eq (program : String) (path : List String)
    (hshape : ∀ c d, agree c d → c.SameShape d)
    (harguments : ∀ c d, agree c d → c.arguments = d.arguments)
    (hview : Command.SameView agree c d) :
    siteFunction program ⟨path, c⟩ = siteFunction program ⟨path, d⟩ := by
  cases hview with
  | intro hname hdescription hstrays hoptions hagree hbelow =>
    simp only [siteFunction, optionSpecs_flatMap_eq hoptions, harguments c d hagree,
      (hshape c d hagree).2, entries_eq hbelow,
      branches_eq _ (fun c d h => (hshape c d h).1) hbelow]

/-- The zsh scripts of programs that show the same are the same, if corresponding commands agree on
their shape and their arguments, and the programs on whether they have commands. -/
theorem script_eq (hshape : ∀ c d, agree c d → c.SameShape d)
    (harguments : ∀ c d, agree c d → c.arguments = d.arguments) (hview : p.SameView agree q)
    (hempty : p.commands.isEmpty = q.commands.isEmpty) : script p = script q := by
  have hfunctions : (sitesUp [] p.commands).map (siteFunction q.name) =
      (sitesUp [] q.commands).map (siteFunction q.name) := by
    simp only [List.map_eq_flatMap]
    refine flatMap_sitesUp_eq (fun path c d hcd => ?_) hview.commands
    simp only [unlessLeaf, (hshape c d hcd.agrees).1, siteFunction_eq _ path hshape harguments hcd]
  simp only [script, entryFunction, hfunctions, hview.name, hempty,
    optionSpecs_flatMap_eq hview.options, entries_eq hview.commands,
    branches_eq _ (fun c d h => (hshape c d h).1) hview.commands]

theorem entriesAreWhole_eq
    (hview : List.Forall₂ (Command.SameView agree) (visibleCommands cs) (visibleCommands ds)) :
    entriesAreWhole cs = entriesAreWhole ds :=
  all_eq_of_forall₂ hview fun _ _ hcd => by rw [hcd.strays_eq]

theorem optionsAreWhole_eq {options others : List Opt}
    (hoptions : visibleOptions options = visibleOptions others) :
    options.all optionIsWhole = others.all optionIsWhole :=
  all_options_eq (fun _ hhidden => by rw [optionIsWhole, hhidden, Bool.true_or]) hoptions

theorem siteIsWhole_eq (path : List String) (hshape : ∀ c d, agree c d → c.SameShape d)
    (harguments : ∀ c d, agree c d → c.arguments = d.arguments)
    (hview : Command.SameView agree c d) : siteIsWhole ⟨path, c⟩ = siteIsWhole ⟨path, d⟩ := by
  cases hview with
  | intro hname hdescription hstrays hoptions hagree hbelow =>
    simp only [siteIsWhole, optionsAreWhole_eq hoptions, harguments c d hagree,
      (hshape c d hagree).2, entriesAreWhole_eq hbelow]

theorem isWhole_eq (hshape : ∀ c d, agree c d → c.SameShape d)
    (harguments : ∀ c d, agree c d → c.arguments = d.arguments) (hview : p.SameView agree q) :
    isWhole p = isWhole q := by
  have hsites : p.sites.all siteIsWhole = q.sites.all siteIsWhole := by
    rw [all_eq_isEmpty_flatMap, all_eq_isEmpty_flatMap]
    congr 1
    refine flatMap_sitesDown_eq (fun path c d hcd => ?_) hview.commands
    simp only [unlessLeaf, (hshape c d hcd.agrees).1, siteIsWhole_eq path hshape harguments hcd]
  simp only [isWhole, hsites, optionsAreWhole_eq hview.options, entriesAreWhole_eq hview.commands]

end Zsh

theorem describedByTexts_eq {options others : List Opt}
    (hview : List.Forall₂ (Command.SameView agree) (visibleCommands cs) (visibleCommands ds))
    (hoptions : visibleOptions options = visibleOptions others) :
    Program.describedByTexts cs options = Program.describedByTexts ds others := by
  rw [Program.describedByTexts, Program.describedByTexts, hoptions,
    all_eq_of_forall₂ hview fun _ _ hcd => by rw [hcd.strays_eq]]

/-- Whether all that is visible is described by texts does not depend on what is hidden. The two
sides need not agree on which commands are leaves, since a leaf shows nothing below it. -/
theorem isDescribedByTexts_eq (hview : p.SameView agree q) :
    p.isDescribedByTexts = q.isDescribedByTexts := by
  have hleaf : ∀ c : Command, c.isLeaf = true →
      Program.describedByTexts c.subcommands c.options = true := by
    intro c hleaf
    rw [c.subcommands_eq_nil_of_isLeaf hleaf, c.options_eq_nil_of_isLeaf hleaf]
    rfl
  have hsites : p.sites.all (fun site =>
        Program.describedByTexts site.command.subcommands site.command.options) =
      q.sites.all fun site =>
        Program.describedByTexts site.command.subcommands site.command.options := by
    rw [all_eq_isEmpty_flatMap, all_eq_isEmpty_flatMap]
    congr 1
    refine flatMap_sitesDown_eq (fun path c d hcd => ?_) hview.commands
    rw [unlessLeaf_eq_self fun h => by simp [hleaf c h],
      unlessLeaf_eq_self fun h => by simp [hleaf d h]]
    cases hcd with
    | intro hname hdescription hstrays hoptions hagree hbelow =>
      rw [describedByTexts_eq hbelow hoptions]
  rw [Program.isDescribedByTexts, Program.isDescribedByTexts, hsites,
    describedByTexts_eq hview.commands hview.options]

namespace Fish

theorem commandLines_eq (condition : Condition)
    (hview : List.Forall₂ (Command.SameView agree) (visibleCommands cs) (visibleCommands ds)) :
    commandLines condition cs = commandLines condition ds :=
  map_eq_of_forall₂ hview fun _ _ hcd => by rw [hcd.name_eq, hcd.description_eq]

theorem argumentLines_eq (condition : Condition) (hdriver : c.SameDriver d) :
    argumentLines condition c = argumentLines condition d := by
  unfold Command.SameDriver at hdriver
  unfold argumentLines
  cases hc : c.drivingArgument? <;> cases hd : d.drivingArgument? <;> simp_all

/-- The lines of a site are about what its command shows and the hint of the first argument. -/
theorem siteLines_eq (path : List String) (hdriver : ∀ c d, agree c d → c.SameDriver d)
    (hview : Command.SameView agree c d) : siteLines ⟨path, c⟩ = siteLines ⟨path, d⟩ := by
  cases hview with
  | intro hname hdescription hstrays hoptions hagree hbelow =>
    simp only [siteLines, commandLines_eq _ hbelow, optionsLines, hoptions,
      argumentLines_eq _ (hdriver c d hagree)]

theorem siteLines_of_isLeaf (path : List String) (hleaf : c.isLeaf = true) :
    siteLines ⟨path, c⟩ = [] := by
  simp [siteLines, commandLines, optionsLines, argumentLines, Command.drivingArgument?,
    visibleCommands, visibleOptions, c.subcommands_eq_nil_of_isLeaf hleaf,
    c.options_eq_nil_of_isLeaf hleaf, c.arguments_eq_nil_of_isLeaf hleaf]

/-- The fish scripts of programs that show the same are the same, if corresponding commands agree on
the hint of the first argument. They need not agree on which commands are leaves, or on where there
are commands at all. -/
theorem script_eq (hdriver : ∀ c d, agree c d → c.SameDriver d) (hview : p.SameView agree q) :
    script p = script q := by
  have hlines : p.sites.flatMap siteLines = q.sites.flatMap siteLines := by
    refine flatMap_sitesDown_eq (fun path c d hcd => ?_) hview.commands
    rw [unlessLeaf_eq_self (siteLines_of_isLeaf path), unlessLeaf_eq_self (siteLines_of_isLeaf path),
      siteLines_eq path hdriver hcd]
  simp only [script, hlines, hview.name, hview.description, commandLines_eq _ hview.commands,
    optionsLines, hview.options]

theorem isWhole_eq (hview : p.SameView agree q) : isWhole p = isWhole q := by
  rw [isWhole, isWhole, hview.strays, isDescribedByTexts_eq hview]

end Fish

namespace PowerShell

theorem commandEntries_eq
    (hview : List.Forall₂ (Command.SameView agree) (visibleCommands cs) (visibleCommands ds)) :
    commandEntries cs = commandEntries ds :=
  map_eq_of_forall₂ hview fun _ _ hcd => by rw [hcd.name_eq, hcd.description_eq]

theorem argumentEntries_eq (hdriver : c.SameDriver d) : argumentEntries c = argumentEntries d := by
  unfold Command.SameDriver at hdriver
  unfold argumentEntries
  cases hc : c.drivingArgument? <;> cases hd : d.drivingArgument? <;> simp_all

/-- A branch is about what its command shows and the hint of the first argument. -/
theorem siteBranch_eq (program : String) (path : List String)
    (hdriver : ∀ c d, agree c d → c.SameDriver d) (hview : Command.SameView agree c d) :
    siteBranch program ⟨path, c⟩ = siteBranch program ⟨path, d⟩ := by
  cases hview with
  | intro hname hdescription hstrays hoptions hagree hbelow =>
    simp only [siteBranch, commandEntries_eq hbelow, optionsEntries, hoptions,
      argumentEntries_eq (hdriver c d hagree)]

/-- The PowerShell scripts of programs that show the same are the same, if corresponding commands
agree on being leaves and on the hint of the first argument. -/
theorem script_eq (hleaf : ∀ c d, agree c d → c.isLeaf = d.isLeaf)
    (hdriver : ∀ c d, agree c d → c.SameDriver d) (hview : p.SameView agree q) :
    script p = script q := by
  have hbranches : p.sites.map (siteBranch q.name) = q.sites.map (siteBranch q.name) := by
    simp only [List.map_eq_flatMap]
    refine flatMap_sitesDown_eq (fun path c d hcd => ?_) hview.commands
    simp only [unlessLeaf, hleaf c d hcd.agrees, siteBranch_eq _ path hdriver hcd]
  simp only [script, Program.title, hbranches, hview.name, hview.version,
    commandEntries_eq hview.commands, optionsEntries, hview.options]

end PowerShell

end Tabsmith
