import Tabsmith.Proofs.Inspection
import Tabsmith.Proofs.Parser.Words
import Tabsmith.Proofs.Reading
import Tabsmith.Proofs.Sites
import Tabsmith.Shell

/-!
Whole programs, in which a text stands wherever one belongs. A loaded program is whole, be it read
from a document or made from a parser, and the script of a whole program takes no stray apart.
-/

namespace Tabsmith

/-- An option without strays, those of its hint counted. -/
structure Opt.IsWhole (o : Opt) : Prop where
  strays : o.strays = []
  completion : ∀ hint ∈ o.completion, hint.strays = []

/-- An argument without strays, those of its hint counted. -/
structure Argument.IsWhole (a : Argument) : Prop where
  strays : a.strays = []
  completion : ∀ hint ∈ a.completion, hint.strays = []

/-- A command without strays at any depth. -/
inductive Command.IsWhole : Command → Prop
  | intro {c : Command} (strays : c.strays = []) (options : ∀ o ∈ c.options, o.IsWhole)
      (arguments : ∀ a ∈ c.arguments, a.IsWhole)
      (subcommands : ∀ sub ∈ c.subcommands, Command.IsWhole sub) : Command.IsWhole c

/-- A program without strays at any depth. -/
structure Program.IsWhole (p : Program) : Prop where
  strays : p.strays = []
  options : ∀ o ∈ p.globalOptions, o.IsWhole
  commands : ∀ c ∈ p.commands, c.IsWhole

/-! ## Programs of documents -/

theorem Opt.WellFormed.isWhole {o : Opt} (hwell : o.WellFormed) : o.IsWhole :=
  ⟨hwell.whole, fun hint hhint => (hwell.completion hint hhint).whole⟩

theorem Argument.WellFormed.isWhole {a : Argument} (hwell : a.WellFormed) : a.IsWhole :=
  ⟨hwell.whole, fun hint hhint => (hwell.completion hint hhint).whole⟩

theorem Command.WellFormed.isWhole {c : Command} (hwell : c.WellFormed) : c.IsWhole := by
  induction hwell with
  | intro _ options _ arguments _ _ whole ih =>
    exact ⟨whole, fun o ho => (options o ho).isWhole, fun a ha => (arguments a ha).isWhole, ih⟩

theorem Program.WellFormed.isWhole {p : Program} (hwell : p.WellFormed) : p.IsWhole :=
  ⟨hwell.whole, fun o ho => (hwell.options o ho).isWhole,
    fun c hc => (hwell.commands c hc).isWhole⟩

/-! ## Programs of parsers -/

theorem Naming.strays_hint? {name : String} {hint : Hint} (hhint : hint ∈ Naming.hint? name) :
    hint.strays = [] := by
  unfold Naming.hint? at hhint
  split at hhint
  · cases hhint
    rfl
  · split at hhint
    · cases hhint
      rfl
    · cases hhint

namespace Parser

theorem isWhole_of_mem_options {p : Parser} {o : Opt} (ho : o ∈ p.options) : o.IsWhole := by
  obtain ⟨a, _, ho⟩ := List.mem_flatMap.1 ho
  unfold Action.options at ho
  split at ho
  · cases ho
  · rcases List.mem_cons.1 ho with rfl | hsibling
    · exact ⟨rfl, fun _ hhint => Naming.strays_hint? hhint⟩
    · unfold Action.siblings at hsibling
      split at hsibling
      · obtain ⟨_, _, rfl⟩ := List.mem_map.1 hsibling
        exact ⟨rfl, fun _ hhint => nomatch hhint⟩
      · cases hsibling

theorem isWhole_of_mem_arguments {p : Parser} {a : Argument} (ha : a ∈ p.arguments) :
    a.IsWhole := by
  obtain ⟨action, _, rfl⟩ := List.mem_map.1 ha
  refine ⟨rfl, fun hint hhint => ?_⟩
  unfold Action.argument at hhint
  split at hhint
  · exact Naming.strays_hint? hhint
  · cases hhint
    rfl

theorem isWhole_of_mem_eachMet {parsers : List Parser} {make : List (Caption → Caption → Command)}
    (hmake : ∀ made ∈ make, ∀ word help, (made word help).IsWhole) :
    ∀ c ∈ eachMet parsers make, c.IsWhole := by
  intro c hc
  obtain ⟨made, hmade, word, help, rfl⟩ := exists_made_of_mem_eachMet hc
  exact hmake made hmade word help

mutual

theorem isWhole_commandAs : (p : Parser) → (word help : Caption) → (p.commandAs word help).IsWhole
  | .mk _ _ _ _ _ commands, word, help => by
    rw [commandAs]
    exact ⟨rfl, fun _ ho => isWhole_of_mem_options ho, fun _ ha => isWhole_of_mem_arguments ha,
      isWhole_of_mem_eachMet (isWhole_of_mem_commandsAs commands)⟩

theorem isWhole_of_mem_commandsAs : (parsers : List Parser) →
    ∀ made ∈ commandsAs parsers, ∀ word help, (made word help).IsWhole
  | [], _, hmade => nomatch hmade
  | p :: rest, made, hmade => by
    rw [commandsAs] at hmade
    rcases List.mem_cons.1 hmade with rfl | hrest
    · exact isWhole_commandAs p
    · exact isWhole_of_mem_commandsAs rest made hrest

end

theorem isWhole_of_describe {parser : Parser} {p : Program} (hmade : parser.describe {} = .ok p) :
    p.IsWhole := by
  unfold describe at hmade
  split at hmade
  · cases hmade
  · cases hmade
    exact ⟨rfl, fun _ ho => isWhole_of_mem_options ho,
      isWhole_of_mem_eachMet (isWhole_of_mem_commandsAs _)⟩

end Parser

/-! ## Loaded programs -/

namespace Source

theorem isWhole_of_loadParser {s : Setting} {reference : String} {p : Program}
    (hload : (loadParser s reference).outcome = .ok p) : p.IsWhole := by
  unfold loadParser at hload
  split at hload
  · cases hload
  · cases hload
  · split at hload
    · cases hload
    · cases hload
    · exact Parser.isWhole_of_describe hload

theorem isWhole_of_readDocument {path : Path} {document : Value} {p : Program}
    (hload : (readDocument path document).outcome = .ok p) : p.IsWhole := by
  rw [readDocument_eq] at hload
  dsimp only at hload
  split at hload
  · cases hload
  · split at hload
    next hnone => exact (wellFormed_of_no_problems (List.isEmpty_iff.1 hnone) hload).isWhole
    next => cases hload

theorem isWhole_of_loadDocument {s : Setting} {path : Path} {found : Option Entry} {p : Program}
    (hload : (loadDocument s path found).outcome = .ok p) : p.IsWhole := by
  unfold loadDocument at hload
  split at hload
  · dsimp only at hload
    unfold loadContent at hload
    split at hload
    · exact isWhole_of_readDocument hload
    · cases hload
    · cases hload
    · cases hload
  · cases hload

/-- A loaded program is whole. -/
theorem isWhole_of_load {s : Setting} {source : String} {p : Program}
    (hload : (load s source).outcome = .ok p) : p.IsWhole := by
  unfold load at hload
  split at hload
  · cases hload
  · split at hload
    · cases hload
    · split at hload
      · exact isWhole_of_loadParser hload
      · exact isWhole_of_loadDocument hload
    · exact isWhole_of_loadDocument hload

end Source

/-! ## Scripts of whole programs -/

theorem Fields.lacks_nil (key : String) : Fields.lacks [] key = true :=
  rfl

theorem Command.IsWhole.strays_eq {c : Command} (hwhole : c.IsWhole) : c.strays = [] := by
  cases hwhole
  assumption

theorem Command.IsWhole.option {c : Command} (hwhole : c.IsWhole) : ∀ o ∈ c.options, o.IsWhole := by
  cases hwhole
  assumption

theorem Command.IsWhole.argument {c : Command} (hwhole : c.IsWhole) :
    ∀ a ∈ c.arguments, a.IsWhole := by
  cases hwhole
  assumption

theorem Command.IsWhole.subcommand {c : Command} (hwhole : c.IsWhole) :
    ∀ sub ∈ c.subcommands, sub.IsWhole := by
  cases hwhole
  assumption

theorem Reaches.isWhole {commands : List Command} {path : List String} {c : Command}
    (hreach : Reaches commands path c) (hwhole : ∀ top ∈ commands, top.IsWhole) : c.IsWhole := by
  induction hreach with
  | top hmem _ => exact hwhole _ hmem
  | under _ hmem _ ih => exact ih.subcommand _ hmem

theorem Program.IsWhole.site {p : Program} (hwhole : p.IsWhole) :
    ∀ site ∈ p.sites, site.command.IsWhole :=
  fun _ hsite => (Program.mem_sites_iff.1 hsite).1.isWhole hwhole.commands

theorem describedByTexts_of_isWhole {commands : List Command} {options : List Opt}
    (hcommands : ∀ c ∈ commands, c.IsWhole) (hoptions : ∀ o ∈ options, o.IsWhole) :
    Program.describedByTexts commands options = true := by
  rw [Program.describedByTexts, Bool.and_eq_true, List.all_eq_true, List.all_eq_true]
  constructor
  · intro c hc
    rw [(hcommands c (List.mem_of_mem_filter hc)).strays_eq, Fields.lacks_nil]
  · intro o ho
    rw [(hoptions o (List.mem_of_mem_filter ho)).strays, Fields.lacks_nil]

theorem Program.IsWhole.isDescribedByTexts {p : Program} (hwhole : p.IsWhole) :
    p.isDescribedByTexts = true := by
  rw [Program.isDescribedByTexts, Bool.and_eq_true, List.all_eq_true]
  refine ⟨describedByTexts_of_isWhole hwhole.commands hwhole.options, fun site hsite => ?_⟩
  exact describedByTexts_of_isWhole (hwhole.site site hsite).subcommand (hwhole.site site hsite).option

namespace Zsh

theorem actionIsWhole_of_strays {completion : Option Hint}
    (hstrays : ∀ hint ∈ completion, hint.strays = []) : actionIsWhole completion = true := by
  cases completion with
  | none => rfl
  | some hint =>
    rw [actionIsWhole, hstrays hint rfl]
    cases hint.kind <;> rfl

theorem optionIsWhole_of_isWhole {o : Opt} (hwhole : o.IsWhole) : optionIsWhole o = true := by
  have hvalue : valueIsWhole o = true := by
    unfold valueIsWhole
    split
    next hint hsome => simp [actionIsWhole_of_strays (hsome ▸ hwhole.completion)]
    next => simp [hwhole.strays, Fields.lacks_nil]
  simp [optionIsWhole, hwhole.strays, Fields.lacks_nil, hvalue]

theorem argumentIsWhole_of_isWhole {a : Argument} (hwhole : a.IsWhole) :
    argumentIsWhole a = true := by
  simp [argumentIsWhole, hwhole.strays, Fields.lacks_nil, actionIsWhole_of_strays hwhole.completion]

theorem entriesAreWhole_of_isWhole {commands : List Command}
    (hwhole : ∀ c ∈ commands, c.IsWhole) : entriesAreWhole commands = true := by
  rw [entriesAreWhole, List.all_eq_true]
  intro c hc
  rw [(hwhole c (List.mem_of_mem_filter hc)).strays_eq, Fields.lacks_nil]

theorem siteIsWhole_of_isWhole {site : Site} (hwhole : site.command.IsWhole) :
    siteIsWhole site = true := by
  have hoptions : site.command.options.all optionIsWhole = true :=
    List.all_eq_true.2 fun o ho => optionIsWhole_of_isWhole (hwhole.option o ho)
  have harguments : site.command.arguments.all argumentIsWhole = true :=
    List.all_eq_true.2 fun a ha => argumentIsWhole_of_isWhole (hwhole.argument a ha)
  simp [siteIsWhole, hoptions, harguments, entriesAreWhole_of_isWhole hwhole.subcommand]

theorem isWhole_of_isWhole {p : Program} (hwhole : p.IsWhole) : isWhole p = true := by
  rw [isWhole, Bool.and_eq_true, Bool.and_eq_true, List.all_eq_true, List.all_eq_true]
  exact ⟨⟨fun site hsite => siteIsWhole_of_isWhole (hwhole.site site hsite),
    fun o ho => optionIsWhole_of_isWhole (hwhole.options o ho)⟩,
    entriesAreWhole_of_isWhole hwhole.commands⟩

end Zsh

/-- No shell takes a stray of a whole program apart. -/
theorem Shell.isWhole_of_isWhole {p : Program} (hwhole : p.IsWhole) (shell : Shell) :
    shell.isWhole p = true := by
  cases shell with
  | bash => rfl
  | zsh => exact Zsh.isWhole_of_isWhole hwhole
  | fish =>
    simp [Shell.isWhole, Fish.isWhole, hwhole.strays, Fields.lacks_nil, hwhole.isDescribedByTexts]
  | powershell => exact hwhole.isDescribedByTexts

end Tabsmith
