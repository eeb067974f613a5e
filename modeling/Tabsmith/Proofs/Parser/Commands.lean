import Mathlib.Data.List.Forall2
import Tabsmith.Parser.Program
import Tabsmith.Proofs.Parser.Words

/-!
The commands of a described program and the parsers that they were made of. However many words lead to
a parser, it makes one command, under the name that it was added under.
-/

namespace Tabsmith

namespace Parser

/-- No word leads to two of the parsers below a parser, which is asked for when a command is added; the
same holds of the parsers below. -/
inductive WordsDiffer : Parser → Prop
  | intro {p : Parser} (words : NoWordShared p.commands)
      (below : ∀ sub ∈ p.commands, WordsDiffer sub) : WordsDiffer p

/-- The command of a parser, under the name and with the help that it was added with. -/
def command (p : Parser) : Command :=
  p.commandAs p.name p.help

/-- The findings on the command of a parser. -/
def commandFindings (p : Parser) : List Finding :=
  p.findingsAs p.name p.help

theorem commandsAs_eq_map (parsers : List Parser) : commandsAs parsers = parsers.map commandAs := by
  induction parsers with
  | nil => rfl
  | cons p rest ih => rw [commandsAs, ih, List.map_cons]

theorem findingsBelow_eq_map (parsers : List Parser) :
    findingsBelow parsers = parsers.map findingsAs := by
  induction parsers with
  | nil => rfl
  | cons p rest ih => rw [findingsBelow, ih, List.map_cons]

theorem commandAs_eq (p : Parser) (word help : Caption) : p.commandAs word help =
    { name := Naming.ofCaption word
      description := Naming.description (help.orElse p.description)
      hidden := help = .text suppressed
      options := p.options
      arguments := p.arguments
      subcommands := commandsOf p.commands } := by
  cases p
  rw [commandAs]
  rfl

theorem findingsAs_eq (p : Parser) (word help : Caption) : p.findingsAs word help =
    Finding.ofCaption word ++ Finding.ofCaption (help.orElse p.description) ++ p.optionFindings ++
      p.argumentFindings ++ commandsFindings p.commands ++
      Finding.ofName "Command" (Naming.ofCaption word) := by
  cases p
  rw [findingsAs]
  rfl

theorem commandsOf_eq_map {parsers : List Parser} (hwords : NoWordShared parsers) :
    commandsOf parsers = parsers.map command := by
  rw [commandsOf, commandsAs_eq_map, eachMet_map hwords]
  rfl

theorem commandsFindings_eq_flatMap {parsers : List Parser} (hwords : NoWordShared parsers) :
    commandsFindings parsers = parsers.flatMap commandFindings := by
  rw [commandsFindings, findingsBelow_eq_map, eachMet_map hwords, ← List.flatMap_def]
  rfl

/-- A command stands for a parser: it is named by the word that the parser was added under, it is hidden
if the help given with that word hides it and not else, and its options, arguments and subcommands are
those that the parser makes. The subcommands stand for the parsers below, one for each in the order in
which they were added. -/
inductive StandsFor : Parser → Command → Prop
  | intro {p : Parser} {c : Command} {word : String} (added : p.name = .text word)
      (name : c.name = Naming.normal word) (hidden : c.hidden = true ↔ p.help = .text suppressed)
      (options : c.options = p.options) (arguments : c.arguments = p.arguments)
      (subcommands : c.subcommands = commandsOf p.commands)
      (below : List.Forall₂ StandsFor p.commands c.subcommands) : StandsFor p c

/-- A name that makes no finding is a text. -/
theorem eq_text_of_ofName {caption : Caption}
    (hname : ∀ finding ∈ Finding.ofName "Command" (Naming.ofCaption caption), finding.fault? = none) :
    ∃ word, caption = .text word := by
  cases caption with
  | text word => exact ⟨word, rfl⟩
  | none => cases hname (.unnamed "Command") (List.mem_singleton_self _)
  | stray => cases hname (.unnamed "Command") (List.mem_singleton_self _)

theorem forall₂_standsFor {parsers : List Parser} (hwords : NoWordShared parsers)
    (hstands : ∀ p ∈ parsers, StandsFor p p.command) :
    List.Forall₂ StandsFor parsers (commandsOf parsers) := by
  rw [commandsOf_eq_map hwords, List.forall₂_map_right_iff, List.forall₂_same]
  exact hstands

/-- A parser whose words differ at every depth makes a command that stands for it, unless a finding
stops the description. -/
theorem standsFor_command {p : Parser} (hwords : p.WordsDiffer)
    (hfindings : ∀ finding ∈ p.commandFindings, finding.fault? = none) : StandsFor p p.command := by
  induction hwords with
  | @intro p hshared _ ih =>
    rw [commandFindings, findingsAs_eq, commandsFindings_eq_flatMap hshared] at hfindings
    simp only [List.forall_mem_append, List.forall_mem_flatMap] at hfindings
    obtain ⟨⟨_, hbelow⟩, hname⟩ := hfindings
    obtain ⟨word, hword⟩ := eq_text_of_ofName hname
    have hstands := forall₂_standsFor hshared fun sub hsub => ih sub hsub (hbelow sub hsub)
    rw [command, commandAs_eq]
    exact .intro hword (by rw [hword]; rfl) (by simp) rfl rfl rfl hstands

theorem eq_program_of_describe {p : Parser} {override : Override} {program : Program}
    (hdescribe : p.describe override = .ok program) :
    program = p.program override ∧ ∀ finding ∈ p.findings override, finding.fault? = none := by
  unfold describe at hdescribe
  split at hdescribe
  · cases hdescribe
  next hnone => exact ⟨(Except.ok.inj hdescribe).symm, List.findSome?_eq_none_iff.1 hnone⟩

end Parser

/-- The commands of a described program stand for the parsers that were added, at every depth: one for
each parser, however many words lead to it, in the order in which they were added. -/
theorem described_commands_stand_for_parsers (p : Parser) (override : Parser.Override)
    (program : Program) (hwords : p.WordsDiffer) (hdescribe : p.describe override = .ok program) :
    List.Forall₂ Parser.StandsFor p.commands program.commands := by
  obtain ⟨rfl, hfindings⟩ := Parser.eq_program_of_describe hdescribe
  cases hwords with
  | intro hshared hbelow =>
    rw [Parser.findings, Parser.commandsFindings_eq_flatMap hshared] at hfindings
    simp only [List.forall_mem_append, List.forall_mem_flatMap] at hfindings
    obtain ⟨⟨⟨_, hcommands⟩, _⟩, _⟩ := hfindings
    exact Parser.forall₂_standsFor hshared fun sub hsub =>
      Parser.standsFor_command (hbelow sub hsub) (hcommands sub hsub)

/-- An instance: a command `_run` with two aliases and a command below it, and a hidden command that has
its own name among its aliases. -/
theorem described_commands_stand_for_aliased_parsers :
    let once : Parser := { name := .text "once", aliases := ["o"] }
    let run : Parser := { name := .text "_run", aliases := ["r", "go"], help := .text "Run it"
                          commands := [once] }
    let check : Parser := { name := .text "self_check", aliases := ["self_check", "check"]
                            help := .text suppressed }
    let p : Parser := { name := .text "tool", commands := [run, check] }
    p.WordsDiffer ∧ ∃ program, p.describe {} = .ok program ∧
      program.commands.map (·.name) = ["run", "self-check"] ∧
      List.Forall₂ Parser.StandsFor p.commands program.commands := by
  intro once run check p
  have hleaf : ∀ leaf : Parser, leaf.commands = [] → leaf.WordsDiffer := fun leaf hnone =>
    .intro (by simp [Parser.NoWordShared, hnone]) (by simp [hnone])
  have hrun : run.WordsDiffer :=
    .intro (List.pairwise_singleton ..) (by simpa [run] using hleaf once rfl)
  have hwords : p.WordsDiffer := by
    refine .intro ?_ (by simpa [p] using ⟨hrun, hleaf check rfl⟩)
    simp [Parser.NoWordShared, p, run, check, Parser.words, Caption.ofValue]
  have hdescribe : p.describe {} = .ok (p.program {}) := by
    have hfindings : (p.findings {}).findSome? Finding.fault? = none :=
      Option.isNone_iff_eq_none.1 (by decide +kernel)
    rw [Parser.describe, hfindings]
    rfl
  exact ⟨hwords, _, hdescribe, by decide +kernel,
    described_commands_stand_for_parsers p {} _ hwords hdescribe⟩

end Tabsmith
