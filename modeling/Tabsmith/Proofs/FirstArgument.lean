import Tabsmith.Proofs.Hiding

/-!
Only the first argument of a command is completed in bash, fish and PowerShell: programs that differ
in nothing but arguments have the same scripts for these shells, if the first arguments of
corresponding commands are completed alike.
-/

namespace Tabsmith

/-- Two commands that differ in arguments only, their own and those of the commands below them. Of
each pair of corresponding commands, neither has an argument or both do, and then the hint of the
first one is the same. -/
inductive Command.SameButArguments : Command → Command → Prop
  | intro {c d : Command} (hname : c.name = d.name) (hdescription : c.description = d.description)
      (hhidden : c.hidden = d.hidden) (hoptions : c.options = d.options)
      (hstrays : c.strays = d.strays) (hdriver : c.SameDriver d)
      (hbelow : List.Forall₂ SameButArguments c.subcommands d.subcommands) : SameButArguments c d

/-- Two programs whose commands differ in arguments only. -/
structure Program.SameButArguments (p q : Program) : Prop where
  name : p.name = q.name
  description : p.description = q.description
  version : p.version = q.version
  strays : p.strays = q.strays
  options : p.globalOptions = q.globalOptions
  commands : List.Forall₂ Command.SameButArguments p.commands q.commands

/-- What corresponding commands agree on then: whether they are leaves and have subcommands, and how
their first arguments are completed. -/
def Command.SameFirst (c d : Command) : Prop :=
  c.SameShape d ∧ c.SameDriver d

theorem Command.SameDriver.isEmpty_arguments {c d : Command} (hdriver : c.SameDriver d) :
    c.arguments.isEmpty = d.arguments.isEmpty := by
  unfold Command.SameDriver Command.drivingArgument? at hdriver
  cases hc : c.arguments <;> cases hd : d.arguments <;> simp_all

theorem isEmpty_eq_of_forall₂ {α β : Type} {R : α → β → Prop} {as : List α} {bs : List β}
    (hlists : List.Forall₂ R as bs) : as.isEmpty = bs.isEmpty := by
  cases hlists <;> rfl

theorem Command.SameButArguments.sameFirst {c d : Command} (hsame : c.SameButArguments d) :
    c.SameFirst d := by
  cases hsame with
  | intro _ _ _ hoptions _ hdriver hbelow =>
    have hempty := isEmpty_eq_of_forall₂ hbelow
    refine ⟨⟨?_, hempty⟩, hdriver⟩
    rw [Command.isLeaf, Command.isLeaf, hempty, hoptions, hdriver.isEmpty_arguments]

/-- Commands that differ in arguments only show the same, and are hidden alike. -/
theorem sameView_of_sameButArguments {cs ds : List Command}
    (hsame : List.Forall₂ Command.SameButArguments cs ds) :
    List.Forall₂ (Command.SameView Command.SameFirst) (visibleCommands cs) (visibleCommands ds) := by
  -- As in a walk, only the left side is followed down: each pair brings its own list on the right.
  induction cs using forestInduction generalizing ds with
  | step cs ih =>
    have hviews : List.Forall₂
        (fun c d => c.hidden = d.hidden ∧ Command.SameView Command.SameFirst c d) cs ds := by
      refine ((List.forall₂_and_left _ _).2 ⟨fun _ hc => hc, hsame⟩).imp ?_
      rintro c d ⟨hc, hcd⟩
      have hfirst := hcd.sameFirst
      cases hcd with
      | intro hname hdescription hhidden hoptions hstrays _ hbelow =>
        exact ⟨hhidden, .intro hname hdescription hstrays (by rw [hoptions]) hfirst (ih c hc hbelow)⟩
    refine (List.rel_filter (fun c d hcd => ?_) hviews).imp fun _ _ hcd => hcd.2
    simp [hcd.1]

theorem Program.SameButArguments.sameView {p q : Program} (hsame : p.SameButArguments q) :
    p.SameView Command.SameFirst q :=
  ⟨hsame.name, hsame.description, hsame.version, hsame.strays, by rw [hsame.options],
    sameView_of_sameButArguments hsame.commands⟩

/-- The scripts for bash, fish and PowerShell read nothing of the arguments but the hint of each first
one. The names and descriptions of arguments, whether they are required or variadic, and all
arguments after the first do not matter. -/
theorem generate_reads_first_hints_only (p q : Program) (hsame : p.SameButArguments q)
    (shell : Shell) (hshell : shell ≠ .zsh) :
    generate (.text shell.name) (.inr p) = generate (.text shell.name) (.inr q) := by
  have hview := hsame.sameView
  have hshape : ∀ c d : Command, c.SameFirst d → c.SameShape d := fun _ _ h => h.1
  have hdriver : ∀ c d : Command, c.SameFirst d → c.SameDriver d := fun _ _ h => h.2
  rw [generate_program, generate_program]
  unfold Shell.script Shell.isWhole
  cases shell with
  | bash => simp only [Bash.script_eq hshape hdriver hview]
  | zsh => exact absurd rfl hshell
  | fish =>
    simp only [Fish.script_eq hdriver hview, Fish.isWhole_eq hview]
  | powershell =>
    have hleaf : ∀ c d : Command, c.SameFirst d → c.isLeaf = d.isLeaf := fun _ _ h => h.1.1
    simp only [PowerShell.script_eq hleaf hdriver hview, isDescribedByTexts_eq hview]

/-- An instance: a tool that has a command with a folder as its first argument, once at the top and
once in a group, and the same tool with other names, a variadic argument and more arguments after the
first. The zsh script tells the two apart. -/
theorem generate_reads_first_hints_of_copying_tool :
    let folder (name description : String) (variadic : Bool) : Argument :=
      { name := name, description := description, variadic := variadic
        completion := some { kind := .directory } }
    let file : Argument := { name := "to", completion := some { kind := .file } }
    let tool (arguments : List Argument) : Program :=
      let copy : Command := { name := "copy", arguments := arguments }
      { name := "tool", commands := [copy, { name := "group", subcommands := [copy] }] }
    let p := tool [folder "from" "The source" false, file]
    let q := tool [folder "folders" "" true, file, file]
    (p.SameButArguments q ∧ ∀ shell : Shell, shell ≠ .zsh →
      generate (.text shell.name) (.inr p) = generate (.text shell.name) (.inr q)) ∧
    Zsh.script p ≠ Zsh.script q := by
  intro folder file tool p q
  have hcopy : Command.SameButArguments
      { name := "copy", arguments := [folder "from" "The source" false, file] }
      { name := "copy", arguments := [folder "folders" "" true, file, file] } :=
    .intro rfl rfl rfl rfl rfl rfl .nil
  have hgroup : Command.SameButArguments
      { name := "group", subcommands := [
        { name := "copy", arguments := [folder "from" "The source" false, file] }] }
      { name := "group", subcommands := [
        { name := "copy", arguments := [folder "folders" "" true, file, file] }] } :=
    .intro rfl rfl rfl rfl rfl rfl (.cons hcopy .nil)
  have hsame : p.SameButArguments q :=
    ⟨rfl, rfl, rfl, rfl, rfl, .cons hcopy (.cons hgroup .nil)⟩
  exact ⟨⟨hsame, generate_reads_first_hints_only p q hsame⟩, by decide⟩

end Tabsmith
