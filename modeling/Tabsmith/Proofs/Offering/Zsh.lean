import Tabsmith.Proofs.Calls.Zsh
import Tabsmith.Proofs.Offering
import Tabsmith.Proofs.View

/-!
What the functions of a zsh script offer: the entries that describe commands, and those of their
specifications that are about options.
-/

namespace Tabsmith.Zsh

def Statement.entries : Statement → List String
  | describe _ entries => entries
  | _ => []

def Statement.specs : Statement → List String
  | arguments _ specs => specs
  | _ => []

/-- A specification is one of an option if it starts with a flag or with a group of flags. -/
def isOptionSpec (spec : String) : Bool :=
  match (spec.toList.drop 1).head? with
  | some c => c = '-' || c = '('
  | none => false

/-- An entry consists of a name and a description. -/
def Describes (entry name : String) : Prop :=
  ∃ description, entry = enclose (escapeName name) ++ ":" ++ enclose (escapeDescription description)

/-- A specification consists of a flag, before which may stand the group of flags that it belongs
to, of a description, and of what is said about the value. -/
def Specifies (spec flag : String) : Prop :=
  ∃ exclusion description value,
    (exclusion = "" ∨ ∃ flags, flag ∈ flags ∧ exclusion = "(" ++ " ".intercalate flags ++ ")") ∧
      spec = enclose (exclusion ++ flag ++ "[" ++ escapeDescription description ++ "]" ++ value)

/-- A function is the one for the path of an offering, describes its commands, and specifies its
flags. -/
structure Function.Offers (program : String) (f : Function) (o : Offering) : Prop where
  name : f.name = functionName (program :: o.path)
  commands : List.Forall₂ Describes (f.body.flatMap Statement.entries) o.commands
  flags : List.Forall₂ Specifies ((f.body.flatMap Statement.specs).filter isOptionSpec) o.flags

theorem forall₂_describes (commands : List Command) :
    List.Forall₂ Describes (entries commands) ((visibleCommands commands).map (·.name)) := by
  rw [entries, List.forall₂_map_left_iff, List.forall₂_map_right_iff, List.forall₂_same]
  exact fun c _ => ⟨c.description, rfl⟩

theorem forall₂_specifies_optionSpecs (o : Opt) (hvisible : o.hidden = false) :
    List.Forall₂ Specifies (optionSpecs o) o.flags := by
  rw [optionSpecs, hvisible, if_neg Bool.false_ne_true, List.forall₂_map_left_iff,
    List.forall₂_same]
  intro flag hflag
  refine ⟨exclusion o, o.description, valuePart o, ?_, rfl⟩
  unfold exclusion
  split
  · exact Or.inl rfl
  · exact Or.inr ⟨o.flags, hflag, rfl⟩

theorem forall₂_specifies (options : List Opt) :
    List.Forall₂ Specifies (options.flatMap optionSpecs)
      ((visibleOptions options).flatMap Opt.flags) := by
  have hagain : visibleOptions options = visibleOptions (visibleOptions options) := by
    simp [visibleOptions]
  have hhidden : ∀ o : Opt, o.hidden = true → optionSpecs o = [] := by
    intro o hhidden
    rw [optionSpecs, if_pos hhidden]
  have hvisible : List.Forall₂ (fun o other => o = other ∧ o.hidden = false)
      (visibleOptions options) (visibleOptions options) := by
    apply List.forall₂_same.2
    intro o ho
    exact ⟨rfl, by simpa using (List.mem_filter.1 ho).2⟩
  rw [flatMap_options_eq hhidden hagain]
  apply List.rel_flatMap hvisible
  rintro o _ ⟨rfl, hshown⟩
  exact forall₂_specifies_optionSpecs o hshown

/-! ### Which specifications are of options -/

theorem isOptionSpec_enclose (s : String) :
    isOptionSpec (enclose s) = s.toList.head?.any fun c => c = '-' || c = '(' := by
  have hlist : (enclose s).toList.drop 1 = s.toList ++ ['\''] := by simp [enclose]
  rw [isOptionSpec, hlist]
  cases s.toList with
  | nil => rfl
  | cons c rest => rfl

theorem isOptionSpec_of_mem_optionSpecs {o : Opt} {spec : String} (hspec : spec ∈ optionSpecs o) :
    isOptionSpec spec = true := by
  unfold optionSpecs at hspec
  split at hspec
  · cases hspec
  obtain ⟨flag, hflag, rfl⟩ := List.mem_map.1 hspec
  rw [isOptionSpec_enclose, exclusion]
  cases hshort : o.short with
  | nil =>
    obtain rfl : flag = "--" ++ o.name := by simpa [Opt.flags, hshort] using hflag
    simp
  | cons first rest => simp

theorem isOptionSpec_stateSpecs (level : Level) :
    ∀ spec ∈ stateSpecs level, isOptionSpec spec = false := by
  cases level <;> decide

theorem isOptionSpec_argumentSpec (a : Argument) (position : Nat) :
    isOptionSpec (argumentSpec a (toString position)) = false := by
  rw [argumentSpec, isOptionSpec_enclose]
  cases a.variadic with
  | true => simp
  | false =>
    -- The number of a position starts with a digit.
    cases hdigits : Nat.toDigits 10 position with
    | nil => exact absurd hdigits Nat.toDigits_ne_nil
    | cons c rest =>
      have hdigit : c.isDigit = true :=
        Nat.isDigit_of_mem_toDigits (by decide) (by decide) (hdigits ▸ List.mem_cons_self)
      have hdash : c ≠ '-' := by rintro rfl; exact absurd hdigit (by decide)
      have hgroup : c ≠ '(' := by rintro rfl; exact absurd hdigit (by decide)
      simp [hdigits, hdash, hgroup]

theorem isOptionSpec_argumentSpecs (position : Nat) (arguments : List Argument) :
    ∀ spec ∈ argumentSpecs position arguments, isOptionSpec spec = false := by
  induction arguments generalizing position with
  | nil => exact List.forall_mem_nil _
  | cons a rest ih =>
    rw [argumentSpecs, List.forall_mem_cons]
    exact ⟨isOptionSpec_argumentSpec a position, ih (position + 1)⟩

theorem filter_isOptionSpec {options : List Opt} {others : List String}
    (hothers : ∀ spec ∈ others, isOptionSpec spec = false) :
    (options.flatMap optionSpecs ++ others).filter isOptionSpec = options.flatMap optionSpecs := by
  have hoptions : (options.flatMap optionSpecs).filter isOptionSpec =
      options.flatMap optionSpecs := by
    apply List.filter_eq_self.2
    intro spec hspec
    obtain ⟨o, _, hspec⟩ := List.mem_flatMap.1 hspec
    exact isOptionSpec_of_mem_optionSpecs hspec
  have hnone : others.filter isOptionSpec = [] := by
    apply List.filter_eq_nil_iff.2
    intro spec hspec
    simp [hothers spec hspec]
  rw [List.filter_append, hoptions, hnone, List.append_nil]

theorem entries_nil : entries [] = [] :=
  rfl

theorem entries_siteFunction (program : String) (site : Site) :
    (siteFunction program site).body.flatMap Statement.entries =
      entries site.command.subcommands := by
  rw [siteFunction]
  cases hsubs : site.command.subcommands with
  | nil =>
    dsimp only [List.isEmpty_nil]
    rw [if_neg (by decide), List.flatMap_singleton, entries_nil]
    split <;> rfl
  | cons c rest => exact List.append_nil _

/-- The function of a site specifies its options, and other things that are no options. -/
theorem specs_siteFunction (program : String) (site : Site) :
    ∃ others : List String, (∀ spec ∈ others, isOptionSpec spec = false) ∧
      (siteFunction program site).body.flatMap Statement.specs =
        site.command.options.flatMap optionSpecs ++ others := by
  rw [siteFunction]
  cases hsubs : site.command.subcommands with
  | nil =>
    refine ⟨argumentSpecs 1 site.command.arguments, isOptionSpec_argumentSpecs _ _, ?_⟩
    dsimp only [List.isEmpty_nil]
    rw [if_neg (by decide), List.flatMap_singleton]
    split
    next hnone => exact (List.isEmpty_iff.1 hnone).symm
    next => rfl
  | cons c rest =>
    exact ⟨stateSpecs .subcommand, isOptionSpec_stateSpecs _, List.append_nil _⟩

theorem offers_siteFunction (program : String) (site : Site) :
    (siteFunction program site).Offers program site.offering := by
  refine ⟨rfl, ?_, ?_⟩
  · rw [entries_siteFunction]
    exact forall₂_describes _
  · obtain ⟨others, hothers, hspecs⟩ := specs_siteFunction program site
    rw [hspecs, filter_isOptionSpec hothers]
    exact forall₂_specifies _

theorem entries_entryFunction (p : Program) :
    (entryFunction p).body.flatMap Statement.entries = entries p.commands := by
  rw [entryFunction]
  cases hcommands : p.commands with
  | nil => rfl
  | cons c rest => exact List.append_nil _

theorem specs_entryFunction (p : Program) :
    ∃ others : List String, (∀ spec ∈ others, isOptionSpec spec = false) ∧
      (entryFunction p).body.flatMap Statement.specs =
        p.globalOptions.flatMap optionSpecs ++ others := by
  rw [entryFunction]
  cases hcommands : p.commands with
  | nil => exact ⟨[], List.forall_mem_nil _, rfl⟩
  | cons c rest => exact ⟨stateSpecs .command, isOptionSpec_stateSpecs _, List.append_nil _⟩

theorem offers_entryFunction (p : Program) :
    (entryFunction p).Offers p.name p.startOffering := by
  refine ⟨rfl, ?_, ?_⟩
  · rw [entries_entryFunction]
    exact forall₂_describes _
  · obtain ⟨others, hothers, hspecs⟩ := specs_entryFunction p
    rw [hspecs, filter_isOptionSpec hothers]
    exact forall₂_specifies _

/-- The functions come in an order of their own: those of sites from the bottom up, the entry
function last. -/
theorem forall₂_offers (p : Program) :
    ∃ order, order.Perm p.offerings ∧
      List.Forall₂ (Function.Offers p.name) (script p).definitions order := by
  refine ⟨(sitesUp [] p.commands).map Site.offering ++ [p.startOffering], ?_, ?_⟩
  · apply (List.perm_append_singleton _ _).trans
    exact ((sitesUp_perm_sitesDown [] p.commands).map Site.offering).cons p.startOffering
  · rw [definitions_script]
    apply List.rel_append
    · apply forall₂_map_offering
      exact fun site _ => offers_siteFunction p.name site
    · exact .cons (offers_entryFunction p) .nil

end Tabsmith.Zsh
