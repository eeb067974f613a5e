import Tabsmith.Fish.Completion
import Tabsmith.Proofs.Offering

/-!
What the lines of a fish script offer under the condition of a path.
-/

namespace Tabsmith.Fish

/-- A flag as it is typed. -/
def Flag.word : Flag → String
  | short name | old name => "-" ++ name
  | long name => "--" ++ name

def Line.candidate? (line : Line) : Option Candidate :=
  match line.offer with
  | .command name _ => some (.command name)
  | .flag flag _ _ => some (.flag flag.word)
  | .folders => none

/-- The condition of a path. -/
def Condition.ofPath : List String → Condition
  | [] => .start
  | names => .path names

/-- Lines that stand under the condition of the path of an offering and offer its words. -/
structure Offers (lines : List Line) (o : Offering) : Prop where
  condition : ∀ line ∈ lines, line.condition = .ofPath o.path
  candidates : lines.filterMap Line.candidate? = o.candidates

theorem word_shortFlag (name : String) : (shortFlag name).word = "-" ++ name := by
  unfold shortFlag
  split <;> rfl

theorem map_word_flags (o : Opt) : (flags o).map Flag.word = o.flags := by
  have hshort : Flag.word ∘ shortFlag = ("-" ++ ·) := funext word_shortFlag
  rw [flags, Opt.flags, List.map_append, List.map_map, hshort]
  rfl

section Lines

variable (condition : Condition)

theorem candidates_commandLines (commands : List Command) :
    (commandLines condition commands).filterMap Line.candidate? =
      ((visibleCommands commands).map (·.name)).map .command := by
  rw [commandLines, List.filterMap_map, List.map_map]
  exact congrFun List.filterMap_eq_map' _

theorem candidates_optionsLines (options : List Opt) :
    (optionsLines condition options).filterMap Line.candidate? =
      ((visibleOptions options).flatMap Opt.flags).map .flag := by
  have hoption : ∀ o, (optionLines condition o).filterMap Line.candidate? =
      o.flags.map .flag := by
    intro o
    rw [← map_word_flags, optionLines, List.filterMap_map, List.map_map]
    exact congrFun List.filterMap_eq_map' _
  rw [optionsLines, List.filterMap_flatMap, List.map_flatMap]
  simp only [hoption]

theorem candidates_argumentLines (c : Command) :
    (argumentLines condition c).filterMap Line.candidate? = [] := by
  unfold argumentLines
  split
  · split <;> rfl
  · rfl

theorem condition_optionsLines (options : List Opt) :
    ∀ line ∈ optionsLines condition options, line.condition = condition := by
  intro line hline
  obtain ⟨o, _, hline⟩ := List.mem_flatMap.1 hline
  obtain ⟨flag, _, rfl⟩ := List.mem_map.1 hline
  rfl

theorem condition_commandLines (commands : List Command) :
    ∀ line ∈ commandLines condition commands, line.condition = condition := by
  intro line hline
  obtain ⟨c, _, rfl⟩ := List.mem_map.1 hline
  rfl

theorem condition_argumentLines (c : Command) :
    ∀ line ∈ argumentLines condition c, line.condition = condition := by
  intro line hline
  unfold argumentLines at hline
  split at hline
  · split at hline
    · rw [List.mem_singleton.1 hline]
    · cases hline
  · cases hline

end Lines

theorem offers_startLines (p : Program) :
    Offers (commandLines .start p.commands ++ optionsLines .start p.globalOptions)
      p.startOffering := by
  constructor
  · rw [List.forall_mem_append]
    exact ⟨condition_commandLines .start _, condition_optionsLines .start _⟩
  · rw [List.filterMap_append, candidates_commandLines, candidates_optionsLines]
    rfl

theorem offers_siteLines {site : Site} (hpath : site.path ≠ []) :
    Offers (siteLines site) site.offering := by
  have hcondition : Condition.ofPath site.path = .path site.path := by
    cases hnames : site.path with
    | nil => exact absurd hnames hpath
    | cons name rest => rfl
  constructor
  · change ∀ line ∈ siteLines site, line.condition = .ofPath site.path
    rw [hcondition, siteLines, List.forall_mem_append, List.forall_mem_append]
    exact ⟨⟨condition_commandLines _ _, condition_optionsLines _ _⟩, condition_argumentLines _ _⟩
  · rw [siteLines, List.filterMap_append, List.filterMap_append, candidates_commandLines,
      candidates_optionsLines, candidates_argumentLines, List.append_nil]
    rfl

/-- The lines come in groups, one for each offering. -/
theorem exists_groups (p : Program) :
    ∃ groups, (script p).lines = groups.flatten ∧ List.Forall₂ Offers groups p.offerings := by
  refine ⟨_ :: p.sites.map siteLines, ?_, .cons (offers_startLines p) ?_⟩
  · rw [List.flatten_cons, ← List.flatMap_def]
    rfl
  · apply forall₂_map_offering
    exact fun site hsite => offers_siteLines (Site.path_ne_nil hsite)

theorem Condition.ofPath_inj {names others : List String} :
    Condition.ofPath names = .ofPath others ↔ names = others := by
  cases names <;> cases others <;> simp [Condition.ofPath]

/-- The lines under the condition of a path offer the words of the offerings of that path. -/
theorem candidates_under {groups : List (List Line)} {offerings : List Offering}
    (hgroups : List.Forall₂ Offers groups offerings) (path : List String) :
    (groups.flatten.filter (·.condition = .ofPath path)).filterMap Line.candidate? =
      (offerings.filter (·.path = path)).flatMap Offering.candidates := by
  induction hgroups with
  | nil => rfl
  | @cons lines o groups offerings hlines _ ih =>
    rw [List.flatten_cons, List.filter_append, List.filterMap_append, ih, List.filter_cons]
    by_cases hpath : o.path = path
    · have hall : lines.filter (·.condition = .ofPath path) = lines := by
        apply List.filter_eq_self.2
        intro line hline
        simp [hlines.condition line hline, hpath]
      rw [hall, hlines.candidates, if_pos (by simpa using hpath), List.flatMap_cons]
    · have hnone : lines.filter (·.condition = .ofPath path) = [] := by
        apply List.filter_eq_nil_iff.2
        intro line hline
        simp [hlines.condition line hline, Condition.ofPath_inj, hpath]
      rw [hnone, if_neg (by simpa using hpath)]
      rfl

end Tabsmith.Fish
