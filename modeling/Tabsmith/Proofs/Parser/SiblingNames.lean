import Tabsmith.Proofs.Parser.Commands
import Tabsmith.Proofs.Parser.OptionNames

/-!
When the parts of a described program have names of their own. A parser keeps its flags and the words
for its commands apart, but a description has them in normal form, and two of them may have the same.
-/

namespace Tabsmith

/-- The names of the options of a command differ, and so do those of its subcommands, at every
depth. -/
inductive Command.NamesDiffer : Command → Prop
  | intro {c : Command} (options : (c.options.map (·.name)).Nodup)
      (subcommands : (c.subcommands.map (·.name)).Nodup)
      (below : ∀ sub ∈ c.subcommands, NamesDiffer sub) : NamesDiffer c

/-- The names of the options of a program differ, and so do those of its commands, at every depth. -/
structure Program.NamesDiffer (p : Program) : Prop where
  options : (p.globalOptions.map (·.name)).Nodup
  commands : (p.commands.map (·.name)).Nodup
  below : ∀ c ∈ p.commands, c.NamesDiffer

namespace Parser

/-- What a parser asks for when it is declared: no two of its actions have a flag in common, no flag
is given twice, and every word leads to one command; the same of the parsers below it. -/
inductive IsSound : Parser → Prop
  | intro {p : Parser} (flags : (p.actions.flatMap (·.flags)).Nodup)
      (words : (p.commands.flatMap words).Nodup) (below : ∀ sub ∈ p.commands, IsSound sub) : IsSound p

/-- The first long flags of the actions of a parser have different normal forms, and so do the names
of its commands; the same of the parsers below it. -/
inductive NormalNamesDiffer : Parser → Prop
  | intro {p : Parser} (options : (p.optionActions.filterMap (·.optionName?)).Nodup)
      (commands : (p.commands.map fun sub => Naming.ofCaption sub.name).Nodup)
      (below : ∀ sub ∈ p.commands, NormalNamesDiffer sub) : NormalNamesDiffer p

/-- No first long flag of a parser and no name of a command has an underscore, here and in the parsers
below. -/
inductive LacksUnderscores : Parser → Prop
  | intro {p : Parser}
      (options : ∀ a ∈ p.optionActions, ∀ flag ∈ a.longFlags.head?, '_' ∉ flag.toList)
      (commands : ∀ sub ∈ p.commands, ∃ name, sub.name = .text name ∧ '_' ∉ name.toList)
      (below : ∀ sub ∈ p.commands, LacksUnderscores sub) : LacksUnderscores p

theorem IsSound.wordsDiffer {p : Parser} (hsound : p.IsSound) : p.WordsDiffer := by
  induction hsound with
  | intro _ hwords _ ih => exact .intro (List.nodup_flatMap.1 hwords).2 ih

theorem map_name_commands (parsers : List Parser) :
    (parsers.map command).map (·.name) = parsers.map fun sub => Naming.ofCaption sub.name := by
  rw [List.map_map]
  refine List.map_congr_left fun sub _ => ?_
  rw [Function.comp_apply, command, commandAs_eq]

/-- The names of the parts that a parser makes differ exactly if the normal forms of its own names
do. -/
theorem namesDiffer_parts_iff {p : Parser} (hwords : NoWordShared p.commands)
    (hbelow : ∀ sub ∈ p.commands, (sub.command.NamesDiffer ↔ sub.NormalNamesDiffer)) :
    ((p.options.map (·.name)).Nodup ∧ ((commandsOf p.commands).map (·.name)).Nodup ∧
      ∀ c ∈ commandsOf p.commands, c.NamesDiffer) ↔ p.NormalNamesDiffer := by
  rw [commandsOf_eq_map hwords, map_name_commands, nodup_options_iff, List.forall_mem_map]
  constructor
  · rintro ⟨hoptions, hnames, hdiffer⟩
    exact ⟨hoptions, hnames, fun sub hsub => (hbelow sub hsub).1 (hdiffer sub hsub)⟩
  · rintro ⟨hoptions, hnames, hdiffer⟩
    exact ⟨hoptions, hnames, fun sub hsub => (hbelow sub hsub).2 (hdiffer sub hsub)⟩

theorem namesDiffer_command_iff {p : Parser} (hwords : p.WordsDiffer) :
    p.command.NamesDiffer ↔ p.NormalNamesDiffer := by
  induction hwords with
  | intro hshared _ ih =>
    rw [← namesDiffer_parts_iff hshared ih, command, commandAs_eq]
    constructor
    · rintro ⟨hoptions, hnames, hdiffer⟩
      exact ⟨hoptions, hnames, hdiffer⟩
    · rintro ⟨hoptions, hnames, hdiffer⟩
      exact ⟨hoptions, hnames, hdiffer⟩

/-- The names of a parser's program differ exactly if the normal forms of the parser's names do. -/
theorem WordsDiffer.namesDiffer_program_iff {p : Parser} (hwords : p.WordsDiffer)
    (override : Override) : (p.program override).NamesDiffer ↔ p.NormalNamesDiffer := by
  cases hwords with
  | intro hshared hbelow =>
    have hcommands := fun sub hsub => namesDiffer_command_iff (hbelow sub hsub)
    rw [← namesDiffer_parts_iff hshared hcommands]
    constructor
    · rintro ⟨hoptions, hnames, hdiffer⟩
      exact ⟨hoptions, hnames, hdiffer⟩
    · rintro ⟨hoptions, hnames, hdiffer⟩
      exact ⟨hoptions, hnames, hdiffer⟩

/-! ## Names without underscores -/

theorem normal_eq_self {name : String} (hname : '_' ∉ name.toList) : Naming.normal name = name := by
  have hrun : name ≠ "_run" := by
    rintro rfl
    exact hname (by decide)
  have hchars : name.toList.map (fun c => if c = '_' then '-' else c) = name.toList := by
    refine (List.map_congr_left fun c hc => ?_).trans (List.map_id _)
    have hne : c ≠ '_' := fun heq => hname (heq ▸ hc)
    rw [if_neg hne, id]
  rw [Naming.normal, if_neg hrun, Naming.dashed, Text.replaceChar, hchars, String.ofList_toList]

/-- The flags of a parser tell its options apart, if the first long ones are their own normal forms. -/
theorem IsSound.nodup_optionNames {p : Parser} (hflags : (p.actions.flatMap (·.flags)).Nodup)
    (hlacks : ∀ a ∈ p.optionActions, ∀ flag ∈ a.longFlags.head?, '_' ∉ flag.toList) :
    (p.optionActions.filterMap (·.optionName?)).Nodup := by
  have hdisjoint := (List.nodup_flatMap.1 hflags).2.sublist (List.filter_sublist (p := (·.isOption)))
  have hflag : ∀ a ∈ p.optionActions, ∀ name ∈ a.optionName?, "--" ++ name ∈ a.flags := by
    intro a ha name hname
    obtain ⟨flag, hhead, rfl⟩ := Option.map_eq_some_iff.1 hname
    obtain ⟨whole, hwhole, hlong⟩ := List.mem_filterMap.1 (List.mem_of_head? hhead)
    rw [normal_eq_self (hlacks a ha flag hhead), ← eq_of_longFlag? hlong]
    exact hwhole
  rw [List.Nodup, List.pairwise_filterMap]
  refine hdisjoint.imp_of_mem fun ha hb hab name hname other hother heq => ?_
  exact hab (hflag _ ha name hname) (heq ▸ hflag _ hb other hother)

/-- The words of a parser tell its commands apart, if their names are their own normal forms. -/
theorem IsSound.nodup_commandNames {p : Parser} (hwords : (p.commands.flatMap words).Nodup)
    (hlacks : ∀ sub ∈ p.commands, ∃ name, sub.name = .text name ∧ '_' ∉ name.toList) :
    (p.commands.map fun sub => Naming.ofCaption sub.name).Nodup := by
  rw [List.Nodup, List.pairwise_map]
  refine (List.nodup_flatMap.1 hwords).2.imp_of_mem fun {a b} ha hb hab heq => ?_
  obtain ⟨name, hname, hplain⟩ := hlacks a ha
  obtain ⟨other, hother, hbare⟩ := hlacks b hb
  rw [hname, hother, Naming.ofCaption, Naming.ofCaption, normal_eq_self hplain,
    normal_eq_self hbare] at heq
  have hsame : a.name = b.name := by rw [hname, hother, heq]
  exact hab (List.mem_cons_self ..) (hsame ▸ List.mem_cons_self ..)

theorem IsSound.normalNamesDiffer {p : Parser} (hsound : p.IsSound) (hlacks : p.LacksUnderscores) :
    p.NormalNamesDiffer := by
  induction hsound with
  | intro hflags hwords _ ih =>
    cases hlacks with
    | intro hoptions hcommands hbelow =>
      exact ⟨nodup_optionNames hflags hoptions, nodup_commandNames hwords hcommands,
        fun sub hsub => ih sub hsub (hbelow sub hsub)⟩

end Parser

/-- Of a sound parser, the names in the described program differ, at every depth, exactly if the normal
forms of the parser's own names do: those of the first long flags of one parser, and those of its
commands. They do where no such flag or name has an underscore. -/
theorem described_names_differ_iff (p : Parser) (override : Parser.Override) (program : Program)
    (hsound : p.IsSound) (hdescribe : p.describe override = .ok program) :
    (program.NamesDiffer ↔ p.NormalNamesDiffer) ∧ (p.LacksUnderscores → program.NamesDiffer) := by
  have hprogram : program = p.program override := by
    unfold Parser.describe at hdescribe
    split at hdescribe
    · cases hdescribe
    · exact (Except.ok.inj hdescribe).symm
  subst hprogram
  have hiff := hsound.wordsDiffer.namesDiffer_program_iff override
  exact ⟨hiff, fun hlacks => hiff.2 (hsound.normalNamesDiffer hlacks)⟩

/-- An instance: a tool with a toggle, whose negation the description does not repeat, and with a
command that has an alias and an option named like the one above it. -/
theorem described_names_differ_of_running_tool :
    let color : Action := { kind := .toggle, flags := ["--color", "--no-color"]
                            arity := some (.exactly 0) }
    let again : Action := { kind := .storeTrue, flags := ["-c", "--color"]
                            arity := some (.exactly 0) }
    let run : Parser := { name := .text "run", aliases := ["r"], actions := [again] }
    let p : Parser := { name := .text "my_tool", actions := [color], commands := [run] }
    p.IsSound ∧ p.LacksUnderscores ∧
      ∃ program, p.describe {} = .ok program ∧ program.NamesDiffer := by
  intro color again run p
  have hrun : run.IsSound := .intro (by decide) (by decide) (by simp [run])
  have hsound : p.IsSound := .intro (by decide) (by decide) (by simpa [p] using hrun)
  have hbelow : run.LacksUnderscores := .intro (by decide) (by simp [run]) (by simp [run])
  have hlacks : p.LacksUnderscores :=
    .intro (by decide) (by simp [p, run]) (by simpa [p] using hbelow)
  have hfindings : (p.findings {}).findSome? Finding.fault? = none :=
    Option.isNone_iff_eq_none.1 (by decide +kernel)
  have hdescribe : p.describe {} = .ok (p.program {}) := by
    rw [Parser.describe, hfindings]
    rfl
  exact ⟨hsound, hlacks, _, hdescribe,
    (described_names_differ_iff p {} _ hsound hdescribe).2 hlacks⟩

/-- The flags `--dry_run` and `--dry-run` make two options of one name, and the commands `run` and
`_run` are described under one name too, though a parser keeps them all apart. -/
theorem described_names_collide_after_normalizing :
    let flag (word : String) : Action := { flags := [word] }
    let command (word : String) : Parser := { name := .text word }
    let p : Parser := { name := .text "tool", actions := [flag "--dry_run", flag "--dry-run"]
                        commands := [command "run", command "_run"] }
    p.IsSound ∧ ∃ program, p.describe {} = .ok program ∧
      program.globalOptions.map (·.name) = ["dry-run", "dry-run"] ∧
      program.commands.map (·.name) = ["run", "run"] ∧ ¬ program.NamesDiffer := by
  intro flag command p
  have hleaf : ∀ word, (command word).IsSound := fun word =>
    .intro (by simp [command]) (by simp [command]) (by simp [command])
  have hsound : p.IsSound := .intro (by decide) (by decide) (by simp [p, hleaf])
  have hdescribe : p.describe {} = .ok (p.program {}) := rfl
  have hnames : (p.program {}).commands.map (·.name) = ["run", "run"] := by decide
  refine ⟨hsound, _, hdescribe, by decide +kernel, hnames, fun hdiffer => ?_⟩
  have hnodup := hdiffer.commands
  rw [hnames] at hnodup
  exact absurd hnodup (by decide)

end Tabsmith
