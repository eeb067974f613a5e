import Tabsmith.Proofs.Parser.OptionNames

/-!
Which negations stand among the options of a parser, and which options have a name in common. A negation
is made unless one of the parser's long flags has its name, whether or not that flag makes an option.
-/

namespace Tabsmith

namespace Action

theorem isNegation_append {start : String} (hstart : start ∈ negations) (name : String) :
    isNegation (start ++ name) = true := by
  unfold isNegation
  refine List.any_eq_true.2 ⟨start, hstart, ?_⟩
  rw [List.isPrefixOf_iff_prefix, String.toList_append]
  exact List.prefix_append _ _

/-- The options of an action are the one under its own name and the negations of that. -/
theorem mem_options_iff {a : Action} {taken : List String} {o : Opt} :
    o ∈ a.options taken ↔ ∃ name, a.optionName? = some name ∧
      (o = a.option name ∨ o ∈ a.siblings taken name) := by
  unfold options optionName?
  cases a.longFlags with
  | nil => simp
  | cons flag rest => simp

end Action

namespace Parser

theorem mem_options {p : Parser} {o : Opt} :
    o ∈ p.options ↔ ∃ a ∈ p.optionActions, o ∈ a.options p.takenNames :=
  List.mem_flatMap

theorem mem_takenNames_iff {p : Parser} {name : String} :
    name ∈ p.takenNames ↔ ∃ a ∈ p.actions, ∃ flag ∈ a.longFlags, Naming.normal flag = name := by
  simp only [takenNames, List.mem_flatMap, List.mem_map]

/-- The own name of an action that makes an option is among the names of the options. -/
theorem exists_option_of_optionName? {p : Parser} {a : Action} {name : String}
    (ha : a ∈ p.optionActions) (hname : a.optionName? = some name) :
    ∃ o ∈ p.options, o.name = name :=
  ⟨a.option name, mem_options.2 ⟨a, ha, Action.mem_options_iff.2 ⟨name, hname, .inl rfl⟩⟩, rfl⟩

/-- An option that is no negation has the own name of an action, and the type of what that takes. -/
theorem exists_action_of_not_isNegation {p : Parser} {o : Opt} (ho : o ∈ p.options)
    (hname : Action.isNegation o.name = false) :
    ∃ a ∈ p.optionActions, a.optionName? = some o.name ∧ o.type = a.valueType := by
  obtain ⟨a, ha, hoption⟩ := mem_options.1 ho
  obtain ⟨name, hown, rfl | hsibling⟩ := Action.mem_options_iff.1 hoption
  · exact ⟨a, ha, hown, rfl⟩
  · obtain ⟨_, _, _, start, hstart, heq⟩ :=
      Action.mem_map_name_siblings.1 (List.mem_map_of_mem (f := (·.name)) hsibling)
    rw [heq, Action.isNegation_append hstart] at hname
    cases hname

/-- Two options come from different actions of the same name: the first long flags of the two have the
same normal form. -/
def ComeFromSameName (p : Parser) (first second : Opt) : Prop :=
  ∃ (i j : Nat) (a b : Action) (name : String), i < j ∧
    p.optionActions[i]? = some a ∧ p.optionActions[j]? = some b ∧
    first ∈ a.options p.takenNames ∧ second ∈ b.options p.takenNames ∧
    a.optionName? = some name ∧ b.optionName? = some name

/-- Options of different actions that have a name in common come from actions that have. -/
theorem exists_optionName?_of_name_eq {p : Parser} {a b : Action} {first second : Opt}
    (ha : a ∈ p.optionActions) (hb : b ∈ p.optionActions) (hfirst : first ∈ a.options p.takenNames)
    (hsecond : second ∈ b.options p.takenNames) (heq : first.name = second.name) :
    ∃ name, a.optionName? = some name ∧ b.optionName? = some name := by
  have hmeet : ¬ List.Disjoint (a.optionNames p.takenNames) (b.optionNames p.takenNames) :=
    fun hdisjoint => hdisjoint (List.mem_map_of_mem hfirst) (heq ▸ List.mem_map_of_mem hsecond)
  rw [Action.disjoint_optionNames_iff (mem_takenNames ha) (mem_takenNames hb)] at hmeet
  push Not at hmeet
  obtain ⟨name, hname, _, hother, rfl⟩ := hmeet
  exact ⟨name, hname, hother⟩

end Parser

/-- A boolean option that is no negation itself has its negation beside it exactly if no long flag of the
parser has the negation's name, or if that is the first long flag of an action that makes an option. Where
it is another flag, such as the negative one of a toggle, the negation is not made, and the flag makes no
option either. -/
theorem negation_listed_iff (p : Parser) (o : Opt) (ho : o ∈ p.options)
    (hboolean : o.isBoolean = true) (hname : Action.isNegation o.name = false) (start : String)
    (hstart : start ∈ Action.negations) :
    (∃ negation ∈ p.options, negation.name = start ++ o.name) ↔
      ∀ a ∈ p.actions, ∀ flag ∈ a.longFlags, Naming.normal flag = start ++ o.name →
        ∃ b ∈ p.optionActions, b.optionName? = some (start ++ o.name) := by
  constructor
  · rintro ⟨negation, hnegation, heq⟩ a ha flag hflag hnormal
    obtain ⟨b, hb, hmade⟩ := Parser.mem_options.1 hnegation
    obtain ⟨name, hown, rfl | hsibling⟩ := Action.mem_options_iff.1 hmade
    · exact ⟨b, hb, heq ▸ hown⟩
    · obtain ⟨_, _, hfree, _⟩ :=
        Action.mem_map_name_siblings.1 (List.mem_map_of_mem (f := (·.name)) hsibling)
      rw [heq] at hfree
      exact absurd (Parser.mem_takenNames_iff.2 ⟨a, ha, flag, hflag, hnormal⟩) hfree
  · intro hlisted
    obtain ⟨a, ha, hown, htype⟩ := Parser.exists_action_of_not_isNegation ho hname
    by_cases htaken : start ++ o.name ∈ p.takenNames
    · obtain ⟨b, hb, flag, hflag, hnormal⟩ := Parser.mem_takenNames_iff.1 htaken
      obtain ⟨c, hc, hfirst⟩ := hlisted b hb flag hflag hnormal
      exact Parser.exists_option_of_optionName? hc hfirst
    · have hmade : start ++ o.name ∈ (a.siblings p.takenNames o.name).map (·.name) :=
        Action.mem_map_name_siblings.2
          ⟨htype ▸ beq_iff_eq.1 hboolean, hname, htaken, start, hstart, rfl⟩
      obtain ⟨negation, hsibling, heq⟩ := List.mem_map.1 hmade
      exact ⟨negation, Parser.mem_options.2
        ⟨a, ha, Action.mem_options_iff.2 ⟨o.name, hown, .inr hsibling⟩⟩, heq⟩

/-- An instance: one negation of `--bundle` is declared as a flag of its own, with an underscore. -/
theorem negation_listed_of_bundle :
    let switch (flags : List String) : Action :=
      { kind := .storeTrue, flags := flags, arity := some (.exactly 0) }
    let p : Parser := { name := .text "tool", actions := [switch ["-b", "--bundle"],
      switch ["--no_bundle"]] }
    ∃ o ∈ p.options, o.name = "bundle" ∧ ∃ negation ∈ p.options, negation.name = "no-bundle" := by
  intro switch p
  let o := (switch ["-b", "--bundle"]).option "bundle"
  have ho : o ∈ p.options := Parser.mem_options.2
    ⟨switch ["-b", "--bundle"], by simp [p, Parser.optionActions, switch, Action.isOption,
      Action.isPositional], Action.mem_options_iff.2 ⟨"bundle", by decide, .inl rfl⟩⟩
  refine ⟨o, ho, rfl, ?_⟩
  refine (negation_listed_iff p o ho rfl (by decide) "no-" (by decide)).2 fun _ _ _ _ _ => ?_
  exact ⟨switch ["--no_bundle"], by simp [p, Parser.optionActions, switch, Action.isOption,
    Action.isPositional], by decide⟩

/-- A toggle declares `--color` and `--no-color`. Its option is named for the first one, and no option is
named for the second one. -/
theorem toggle_lacks_negation :
    let p : Parser := { name := .text "tool"
                        actions := [Declaration.action ['-'] { kind := .toggle, flags := ["--color"] }] }
    (∃ o ∈ p.options, o.isBoolean = true ∧ o.name = "color") ∧
      Action.isNegation "color" = false ∧ ∀ o ∈ p.options, o.name ≠ "no-color" := by
  intro p
  have hnames : p.options.map (fun o => (o.isBoolean, o.name)) =
      [(true, "color"), (true, "skip-color")] := by decide +kernel
  refine ⟨?_, by decide, fun o ho heq => ?_⟩
  · have hmem : (true, "color") ∈ p.options.map fun o => (o.isBoolean, o.name) := by simp [hnames]
    obtain ⟨o, ho, heq⟩ := List.mem_map.1 hmem
    exact ⟨o, ho, (Prod.mk.inj heq).1, (Prod.mk.inj heq).2⟩
  · have hmem := List.mem_map_of_mem (f := fun o => (o.isBoolean, o.name)) ho
    simp [hnames, heq] at hmem

/-- Two options of a parser have the same name only if they come from different actions whose first long
flags have the same normal form. A negation that is made has the normal form of no long flag of the parser,
whether or not the flag is the first of its action, and whether or not the action makes an option. -/
theorem option_names_tell_actions_apart (p : Parser) :
    (p.options.Pairwise fun first second =>
      first.name = second.name → p.ComeFromSameName first second) ∧
    ∀ a ∈ p.optionActions, ∀ name ∈ a.optionName?, ∀ negation ∈ a.siblings p.takenNames name,
      ∀ b ∈ p.actions, ∀ flag ∈ b.longFlags, Naming.normal flag ≠ negation.name := by
  constructor
  · unfold Parser.options
    rw [List.pairwise_flatMap]
    constructor
    · intro a ha
      have hdiffer := List.pairwise_map.1 (Action.nodup_optionNames (Parser.mem_takenNames ha))
      exact hdiffer.imp fun hne heq => absurd heq hne
    · refine List.pairwise_iff_getElem.2 fun i j hi hj hlt first hfirst second hsecond heq => ?_
      have ha := List.getElem_mem hi
      have hb := List.getElem_mem hj
      obtain ⟨name, hname, hother⟩ :=
        Parser.exists_optionName?_of_name_eq ha hb hfirst hsecond heq
      exact ⟨i, j, _, _, name, hlt, List.getElem?_eq_getElem hi, List.getElem?_eq_getElem hj,
        hfirst, hsecond, hname, hother⟩
  · intro a _ name _ negation hsibling b hb flag hflag heq
    obtain ⟨_, _, hfree, _⟩ :=
      Action.mem_map_name_siblings.1 (List.mem_map_of_mem (f := (·.name)) hsibling)
    exact hfree (Parser.mem_takenNames_iff.2 ⟨b, hb, flag, hflag, heq⟩)

/-- An instance: two flags are one in normal form, and so are the negations that both of them get. The flag
that shows the version has the name of the other negation. -/
theorem option_names_tell_actions_apart_of_dry_run :
    let switch (flag : String) : Action :=
      { kind := .storeTrue, flags := [flag], arity := some (.exactly 0) }
    let p : Parser := { name := .text "tool", actions := [switch "--dry_run", switch "--dry-run",
      { kind := .version, flags := ["--skip_dry_run"], arity := some (.exactly 0) }] }
    p.options.map (·.name) = ["dry-run", "no-dry-run", "dry-run", "no-dry-run"] ∧
      ∃ first second, p.options[1]? = some first ∧ p.options[3]? = some second ∧
        p.ComeFromSameName first second := by
  intro switch p
  have hnames : p.options.map (·.name) = ["dry-run", "no-dry-run", "dry-run", "no-dry-run"] := by
    decide +kernel
  have hlength : p.options.length = 4 := by
    rw [← List.length_map (f := (·.name)), hnames]
    rfl
  have hname (i : Nat) (hi : i < p.options.length) :
      (p.options.map (·.name))[i]? = some p.options[i].name := by
    rw [List.getElem?_map, List.getElem?_eq_getElem hi, Option.map_some]
  have heq : p.options[1].name = p.options[3].name := by
    have hfirst := hname 1 (by omega)
    have hsecond := hname 3 (by omega)
    rw [hnames] at hfirst hsecond
    exact Option.some.inj (hfirst.symm.trans hsecond)
  have hpairs := List.pairwise_iff_getElem.1 (option_names_tell_actions_apart p).1
  exact ⟨hnames, _, _, List.getElem?_eq_getElem (by omega), List.getElem?_eq_getElem (by omega),
    hpairs 1 3 (by omega) (by omega) (by decide) heq⟩

end Tabsmith
