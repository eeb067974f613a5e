import Mathlib.Data.List.Nodup
import Tabsmith.Parser.Program
import Tabsmith.Proofs.Text

/-!
The names of the options that a parser's actions make. An action has one name, the normal form of its
first long flag, and the negations beside it have names that no long flag has.
-/

namespace Tabsmith

theorem eq_of_longFlag? {flag name : String} (hflag : longFlag? flag = some name) :
    flag = "--" ++ name := by
  obtain ⟨rest, hrest, rfl⟩ := Option.map_eq_some_iff.1 hflag
  apply String.toList_injective
  simp [Text.eq_append_of_afterLead? hrest]

namespace Action

/-- The name of the option that an action makes, if it has a long flag. -/
def optionName? (a : Action) : Option String :=
  a.longFlags.head?.map Naming.normal

/-- What the options of an action are named, its negations counted. -/
def optionNames (a : Action) (taken : List String) : List String :=
  (a.options taken).map (·.name)

theorem mem_map_name_siblings {a : Action} {taken : List String} {name sibling : String} :
    sibling ∈ (a.siblings taken name).map (·.name) ↔
      a.valueType = booleanType ∧ isNegation name = false ∧ sibling ∉ taken ∧
        ∃ start ∈ negations, sibling = start ++ name := by
  unfold siblings
  split
  next hboolean =>
    simp only [Bool.and_eq_true, decide_eq_true_eq, Bool.not_eq_true'] at hboolean
    simp only [List.map_map, List.mem_map, List.mem_filter, Function.comp_apply, exists_eq_right,
      hboolean, true_and, Bool.not_eq_true', List.contains_eq_mem, decide_eq_false_iff_not]
    constructor
    · rintro ⟨⟨start, hstart, rfl⟩, hfree⟩
      exact ⟨hfree, start, hstart, rfl⟩
    · rintro ⟨hfree, start, hstart, rfl⟩
      exact ⟨⟨start, hstart, rfl⟩, hfree⟩
  next hboolean =>
    simp only [Bool.and_eq_true, decide_eq_true_eq, Bool.not_eq_true'] at hboolean
    simp only [List.map_nil, List.not_mem_nil, false_iff]
    rintro ⟨htype, hnegation, _⟩
    exact hboolean ⟨htype, hnegation⟩

/-- A negation tells what it starts with and the name that it negates. -/
theorem eq_of_negation_eq {start other name second : String} (hstart : start ∈ negations)
    (hother : other ∈ negations) (heq : start ++ name = other ++ second) :
    start = other ∧ name = second := by
  have hlists := congrArg String.toList heq
  rw [String.toList_append, String.toList_append] at hlists
  rw [negations, List.mem_cons, List.mem_singleton] at hstart hother
  rcases hstart with rfl | rfl <;> rcases hother with rfl | rfl
  · exact ⟨rfl, String.toList_injective (by simpa using hlists)⟩
  · simp at hlists
  · simp at hlists
  · exact ⟨rfl, String.toList_injective (by simpa using hlists)⟩

theorem nodup_map_name_siblings (a : Action) (taken : List String) (name : String) :
    ((a.siblings taken name).map (·.name)).Nodup := by
  have hnegations : (negations.map (· ++ name)).Nodup :=
    List.Nodup.map_on (fun _ hstart _ hother heq => (eq_of_negation_eq hstart hother heq).1)
      (by decide)
  unfold siblings
  split
  · rw [List.map_map]
    exact (List.map_id _).symm ▸ hnegations.filter _
  · exact List.nodup_nil

/-- The options of an action are named by its own name and by negations of it. -/
theorem mem_optionNames_iff {a : Action} {taken : List String} {x : String} :
    x ∈ a.optionNames taken ↔ ∃ name, a.optionName? = some name ∧
      (x = name ∨ x ∈ (a.siblings taken name).map (·.name)) := by
  unfold optionNames options optionName?
  cases a.longFlags with
  | nil => simp
  | cons flag rest => simp [option]

/-- The options of one action have different names, as its own name is taken. -/
theorem nodup_optionNames {a : Action} {taken : List String}
    (htaken : ∀ name ∈ a.optionName?, name ∈ taken) : (a.optionNames taken).Nodup := by
  unfold optionNames options
  unfold optionName? at htaken
  cases hlong : a.longFlags with
  | nil => exact List.nodup_nil
  | cons flag rest =>
    rw [List.map_cons, List.nodup_cons]
    refine ⟨fun hmem => ?_, nodup_map_name_siblings a taken _⟩
    have hname := htaken (Naming.normal flag) (by rw [hlong]; rfl)
    exact (mem_map_name_siblings.1 hmem).2.2.1 hname

/-- Two actions make an option of one name exactly if their own names are the same. A name that a
negation takes is no long flag, and so not the name of an action. -/
theorem disjoint_optionNames_iff {a b : Action} {taken : List String}
    (ha : ∀ name ∈ a.optionName?, name ∈ taken) (hb : ∀ name ∈ b.optionName?, name ∈ taken) :
    List.Disjoint (a.optionNames taken) (b.optionNames taken) ↔
      ∀ name ∈ a.optionName?, ∀ other ∈ b.optionName?, name ≠ other := by
  constructor
  · rintro hdisjoint name hname other hother rfl
    exact hdisjoint (mem_optionNames_iff.2 ⟨name, hname, .inl rfl⟩)
      (mem_optionNames_iff.2 ⟨name, hother, .inl rfl⟩)
  · intro hdiffer x hxa hxb
    obtain ⟨name, hname, hxa⟩ := mem_optionNames_iff.1 hxa
    obtain ⟨other, hother, hxb⟩ := mem_optionNames_iff.1 hxb
    apply hdiffer name hname other hother
    rcases hxa with rfl | hxa <;> rcases hxb with rfl | hxb
    · rfl
    · exact absurd (ha _ hname) (mem_map_name_siblings.1 hxb).2.2.1
    · exact absurd (hb _ hother) (mem_map_name_siblings.1 hxa).2.2.1
    · obtain ⟨_, _, _, start, hstart, rfl⟩ := mem_map_name_siblings.1 hxa
      obtain ⟨_, _, _, second, hsecond, heq⟩ := mem_map_name_siblings.1 hxb
      exact (eq_of_negation_eq hstart hsecond heq).2

end Action

namespace Parser

/-- The actions of a parser that become options. -/
def optionActions (p : Parser) : List Action :=
  p.actions.filter (·.isOption)

theorem mem_takenNames {p : Parser} {a : Action} (ha : a ∈ p.optionActions) :
    ∀ name ∈ a.optionName?, name ∈ p.takenNames := by
  intro name hname
  obtain ⟨flag, hflag, rfl⟩ := Option.map_eq_some_iff.1 hname
  exact List.mem_flatMap.2 ⟨a, List.mem_of_mem_filter ha,
    List.mem_map_of_mem (List.mem_of_head? hflag)⟩

/-- The options of a parser have different names exactly if the first long flags of its actions have
different normal forms. -/
theorem nodup_options_iff (p : Parser) : (p.options.map (·.name)).Nodup ↔
    (p.optionActions.filterMap (·.optionName?)).Nodup := by
  have hnames : p.options.map (·.name) =
      p.optionActions.flatMap fun a => a.optionNames p.takenNames := List.map_flatMap
  rw [hnames, List.nodup_flatMap, List.Nodup, List.pairwise_filterMap]
  constructor
  · rintro ⟨_, hdisjoint⟩
    refine hdisjoint.imp_of_mem fun ha hb hab => ?_
    exact (Action.disjoint_optionNames_iff (mem_takenNames ha) (mem_takenNames hb)).1 hab
  · intro hdiffer
    refine ⟨fun a ha => Action.nodup_optionNames (mem_takenNames ha), ?_⟩
    refine hdiffer.imp_of_mem fun ha hb hab => ?_
    exact (Action.disjoint_optionNames_iff (mem_takenNames ha) (mem_takenNames hb)).2 hab

end Parser

end Tabsmith
