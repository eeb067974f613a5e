import Tabsmith.Proofs.View.Scripts

/-!
Hidden commands and options leave no trace in a script: programs that show the same have the same
scripts, whatever they hide.
-/

namespace Tabsmith

/-- What corresponding commands agree on when only hidden parts differ: the arguments and the shape. -/
def Command.SameButHidden (c d : Command) : Prop :=
  c.arguments = d.arguments ∧ c.SameShape d

/-- Programs that differ in their hidden commands and options only, and not in whether there are
any commands where only hidden ones may be. -/
structure Program.VisiblyEqual (p q : Program) : Prop
    extends Program.SameView Command.SameButHidden p q where
  empty : p.commands.isEmpty = q.commands.isEmpty

theorem Command.SameDriver.of_arguments_eq {c d : Command} (harguments : c.arguments = d.arguments) :
    c.SameDriver d := by
  rw [Command.SameDriver, Command.drivingArgument?, Command.drivingArgument?, harguments]

/-- Programs that show the same take their strays apart, or not, in the same shells. -/
theorem Shell.isWhole_eq {p q : Program} (hview : p.VisiblyEqual q) (shell : Shell) :
    shell.isWhole p = shell.isWhole q := by
  cases shell with
  | bash => rfl
  | zsh => exact Zsh.isWhole_eq (fun _ _ h => h.2) (fun _ _ h => h.1) hview.toSameView
  | fish => exact Fish.isWhole_eq hview.toSameView
  | powershell => exact isDescribedByTexts_eq hview.toSameView

theorem Shell.script_eq {p q : Program} (hview : p.VisiblyEqual q) (shell : Shell) :
    shell.script p = shell.script q := by
  have hdriver : ∀ c d : Command, c.SameButHidden d → c.SameDriver d :=
    fun _ _ h => .of_arguments_eq h.1
  unfold Shell.script
  cases shell with
  | bash => rw [Bash.script_eq (fun _ _ h => h.2) hdriver hview.toSameView]
  | zsh => rw [Zsh.script_eq (fun _ _ h => h.2) (fun _ _ h => h.1) hview.toSameView hview.empty]
  | fish => rw [Fish.script_eq hdriver hview.toSameView]
  | powershell => rw [PowerShell.script_eq (fun _ _ h => h.2.1) hdriver hview.toSameView]

/-- Generating asks a program for its script and for whether that takes a stray apart, and for
nothing else. -/
theorem generate_program (shell : Shell) (p : Program) :
    generate (.text shell.name) (.inr p) =
      if shell.isWhole p then .ok (shell.script p) else .error (.breakdown .noMember) := by
  rw [generate, Shell.ofValue, Shell.ofName?_name]
  rfl

/-- Hidden commands, all that stands below them, and hidden options do not change what is generated
for any shell. The programs agree on whether there are commands at all, and their visible commands
on being leaves and on having subcommands; for fish not even that is needed. -/
theorem generate_ignores_hidden_parts (p q : Program) :
    (p.VisiblyEqual q → ∀ shell : Shell,
      generate (.text shell.name) (.inr p) = generate (.text shell.name) (.inr q)) ∧
    (p.SameView (fun c d => c.arguments = d.arguments) q →
      generate (.text Shell.fish.name) (.inr p) = generate (.text Shell.fish.name) (.inr q)) := by
  refine ⟨fun hview shell => ?_, fun hview => ?_⟩
  · rw [generate_program, generate_program, Shell.isWhole_eq hview, Shell.script_eq hview]
  · rw [generate_program, generate_program, Shell.isWhole, Shell.isWhole, Fish.isWhole_eq hview,
      Shell.script, Shell.script, Fish.script_eq (fun _ _ h => .of_arguments_eq h) hview]

/-- Instances: a tool whose visible command hides an option and a subcommand, the same tool with
other secrets, and the tool without any, whose command is a leaf then. -/
theorem generate_ignores_secrets :
    let run (options : List Opt) (subcommands : List Command) : Command :=
      { name := "run", options := options, subcommands := subcommands }
    let secret : Opt := { name := "secret", hidden := true }
    let inner (name : String) : Command := { name := name, hidden := true, options := [secret] }
    let p : Program := { name := "tool", commands := [run [secret] [inner "a"], inner "b"] }
    let q : Program := { name := "tool", commands := [inner "c", run [] [inner "d", inner "e"]] }
    let bare : Program := { name := "tool", commands := [run [] []] }
    (p.VisiblyEqual q ∧ ∀ shell : Shell,
      generate (.text shell.name) (.inr p) = generate (.text shell.name) (.inr q)) ∧
    p.SameView (fun c d => c.arguments = d.arguments) bare ∧
      generate (.text Shell.fish.name) (.inr p) = generate (.text Shell.fish.name) (.inr bare) := by
  intro run secret inner p q bare
  have hrun : Command.SameView Command.SameButHidden (run [secret] [inner "a"])
      (run [] [inner "d", inner "e"]) :=
    .intro rfl rfl rfl rfl ⟨rfl, rfl, rfl⟩ .nil
  have hbare : Command.SameView (fun c d => c.arguments = d.arguments)
      (run [secret] [inner "a"]) (run [] []) :=
    .intro rfl rfl rfl rfl rfl .nil
  have hequal : p.VisiblyEqual q := ⟨⟨rfl, rfl, rfl, rfl, rfl, .cons hrun .nil⟩, rfl⟩
  have halike : p.SameView (fun c d => c.arguments = d.arguments) bare :=
    ⟨rfl, rfl, rfl, rfl, rfl, .cons hbare .nil⟩
  exact ⟨⟨hequal, (generate_ignores_hidden_parts p q).1 hequal⟩, halike,
    (generate_ignores_hidden_parts p bare).2 halike⟩

end Tabsmith
