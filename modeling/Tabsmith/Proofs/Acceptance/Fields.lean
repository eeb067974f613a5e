import Tabsmith.Proofs.Acceptance.Check

/-!
What the rules of a grammar ask of single fields. A rule is one of a few: it asks for a text, a truth
value, a list of texts, a node, a list of nodes, and so on.
-/

namespace Tabsmith

/-- A field that is absent or `null`, or holds a value with a property. -/
def Fields.May (node : Fields) (key : String) (P : Value → Prop) : Prop :=
  node.get key = .null ∨ P (node.get key)

theorem Fields.May.imp {node : Fields} {key : String} {P Q : Value → Prop} (hmay : node.May key P)
    (himp : ∀ value, P value → Q value) : node.May key Q :=
  Or.imp_right (himp _) hmay

/-- Of the two, `null` is the one that counts as absent. -/
theorem Fields.May.of_isTruthy {node : Fields} {key : String} {P : Value → Prop}
    (hmay : node.May key P) (htruthy : (node.get key).isTruthy = true) : P (node.get key) := by
  refine hmay.resolve_left fun hnull => ?_
  rw [hnull] at htruthy
  exact Bool.noConfusion htruthy

namespace Value

/-- A text. -/
def IsText (value : Value) : Prop :=
  ∃ s, value = text s

/-- A text that is not blank. -/
def IsFilled (value : Value) : Prop :=
  ∃ s, value = text s ∧ Text.isVoid s = false

/-- A truth value. -/
def IsBool (value : Value) : Prop :=
  ∃ b, value = bool b

/-- A text or a number, and no truth value. -/
def IsVersion (value : Value) : Prop :=
  (∃ s, value = text s) ∨ (∃ i, value = int i) ∨ ∃ x, value = float x

/-- A list of texts, numbers and truth values. -/
def IsTexts (value : Value) : Prop :=
  ∃ items, value = list items ∧ ∀ item ∈ items, Condition.isTextual item = true

/-- A short flag without its dash: a text that is not empty and has no space. -/
def IsAlias (value : Value) : Prop :=
  ∃ s, value = text s ∧ s ≠ "" ∧ ' ' ∉ s.toList

/-- A short flag, or a list of them. -/
def IsAliases (value : Value) : Prop :=
  value.IsAlias ∨ ∃ items, value = list items ∧ ∀ item ∈ items, item.IsAlias

theorem IsFilled.isText {value : Value} (hfilled : value.IsFilled) : value.IsText := by
  obtain ⟨s, rfl, _⟩ := hfilled
  exact ⟨s, rfl⟩

theorem IsTexts.isList {value : Value} (htexts : value.IsTexts) :
    value.IsText ∨ ∃ items, value = list items := by
  obtain ⟨items, rfl, _⟩ := htexts
  exact Or.inr ⟨items, rfl⟩

theorem IsAliases.isList {value : Value} (haliases : value.IsAliases) :
    value.IsText ∨ ∃ items, value = list items := by
  rcases haliases with ⟨s, rfl, _⟩ | ⟨items, rfl, _⟩
  · exact Or.inl ⟨s, rfl⟩
  · exact Or.inr ⟨items, rfl⟩

end Value

namespace Grammar

variable {κ : Type} {g : Grammar κ} {location : String} {node : Fields}

-- What a rule says of a value, once the case of the value is known.
attribute [local simp] Value.isNull Rule.refusal? Kind.holds Condition.causes

/-- Nothing is against a field without nodes if its rule admits the value. -/
theorem problems_plainField_eq_nil_iff {rule : Rule κ} (hchildren : rule.children = none)
    (hitems : rule.items = none) : (g.fieldReport location node rule).problems = [] ↔
      rule.Admits (node.get rule.name) := by
  have hchild : ∀ value, g.childReport location rule value = [] := by
    intro value
    rw [childReport, hchildren]
  have hitem : ∀ value, g.itemsReport location rule value = [] := by
    intro value
    unfold itemsReport
    rw [hitems]
  rw [problems_fieldReport_eq_nil_iff, hchild, hitem]
  exact and_iff_left fun _ _ => ⟨rfl, rfl⟩

theorem problems_textField_eq_nil_iff (name : String) :
    (g.fieldReport location node { name := name }).problems = [] ↔
      node.May name Value.IsText := by
  rw [problems_plainField_eq_nil_iff rfl rfl, Fields.May, Rule.Admits]
  cases node.get name <;> simp [Value.IsText]

theorem problems_filledField_eq_nil_iff (name : String) :
    (g.fieldReport location node { name := name, condition := .filled }).problems = [] ↔
      node.May name Value.IsFilled := by
  rw [problems_plainField_eq_nil_iff rfl rfl, Fields.May, Rule.Admits]
  cases node.get name <;> simp [Value.IsFilled]

theorem problems_neededField_eq_nil_iff (name : String) :
    (g.fieldReport location node
      { name := name, required := true, condition := .filled }).problems = [] ↔
      (node.get name).IsFilled := by
  rw [problems_plainField_eq_nil_iff rfl rfl, Rule.Admits]
  cases node.get name <;> simp [Value.IsFilled]

theorem problems_boolField_eq_nil_iff (name : String) :
    (g.fieldReport location node { name := name, kinds := [.bool] }).problems = [] ↔
      node.May name Value.IsBool := by
  rw [problems_plainField_eq_nil_iff rfl rfl, Fields.May, Rule.Admits]
  cases node.get name <;> simp [Value.IsBool]

theorem problems_versionField_eq_nil_iff (name : String) :
    (g.fieldReport location node { name := name, kinds := [.text, .int, .float] }).problems = [] ↔
      node.May name Value.IsVersion := by
  rw [problems_plainField_eq_nil_iff rfl rfl, Fields.May, Rule.Admits]
  cases node.get name <;> simp [Value.IsVersion]

theorem problems_anyField_eq_nil (name : String) :
    (g.fieldReport location node { name := name, kinds := [.anything] }).problems = [] := by
  rw [problems_plainField_eq_nil_iff rfl rfl, Rule.Admits]
  cases node.get name <;> simp

theorem problems_textsField_eq_nil_iff (name : String) :
    (g.fieldReport location node { name := name, kinds := [.list], condition := .texts }).problems =
      [] ↔ node.May name Value.IsTexts := by
  rw [problems_plainField_eq_nil_iff rfl rfl, Fields.May, Rule.Admits]
  cases node.get name <;> simp [Value.IsTexts]

theorem isToken_iff {value : Value} : Condition.isToken value = true ↔ value.IsAlias := by
  cases value <;> simp [Condition.isToken, Value.IsAlias]

theorem problems_aliasField_eq_nil_iff (name : String) :
    (g.fieldReport location node
      { name := name, kinds := [.text, .list], condition := .tokens }).problems = [] ↔
      node.May name Value.IsAliases := by
  rw [problems_plainField_eq_nil_iff rfl rfl, Fields.May, Rule.Admits]
  cases node.get name <;> simp [Condition.members, isToken_iff, Value.IsAliases, Value.IsAlias]

end Grammar

end Tabsmith
