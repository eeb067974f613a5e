import Tabsmith.Program.Document
import Tabsmith.Proofs.Acceptance.Nodes

/-!
Reading single fields of nodes without problems. Only one thing can still go wrong: a number that
has to become text has too many digits for that.
-/

namespace Tabsmith

/-! ## Readings that give a result -/

/-- A reading gives a result with a property. Otherwise it ends at a number that cannot be written,
and then there is such a number. -/
def Gives {α : Type} (unwritable : Prop) (reading : Reading α) (P : α → Prop) : Prop :=
  (∃ a, reading = .ok a ∧ P a) ∨ (reading = .error (.breakdown .unwritable) ∧ unwritable)

namespace Gives

variable {α β : Type} {U V : Prop} {P : α → Prop} {Q : β → Prop}

theorem ok {reading : Reading α} {a : α} (hreading : reading = .ok a) (ha : P a) :
    Gives U reading P :=
  Or.inl ⟨a, hreading, ha⟩

theorem bind {reading : Reading α} {next : α → Reading β} (hreading : Gives U reading P)
    (hnext : ∀ a, P a → Gives U (next a) Q) : Gives U (reading >>= next) Q := by
  rcases hreading with ⟨a, rfl, ha⟩ | ⟨rfl, hu⟩
  · exact hnext a ha
  · exact Or.inr ⟨rfl, hu⟩

theorem mono {reading : Reading α} (hreading : Gives U reading P) (hU : U → V) :
    Gives V reading P :=
  hreading.imp_right fun h => ⟨h.1, hU h.2⟩

theorem mapM {f : β → Reading α} {R : β → α → Prop} {xs : List β}
    (hf : ∀ x ∈ xs, Gives U (f x) (R x)) : Gives U (xs.mapM f) (List.Forall₂ R xs) := by
  induction xs with
  | nil => exact ok rfl .nil
  | cons x rest ih =>
    rw [List.mapM_cons]
    refine (hf x (by simp)).bind fun a ha => ?_
    refine (ih fun y hy => hf y (by simp [hy])).bind fun others hothers => ?_
    exact ok rfl (.cons ha hothers)

end Gives

/-! ## Numbers that cannot be written -/

theorem Value.isUnwritable_list_of_mem {items : List Value} {item : Value} (hmem : item ∈ items)
    (hitem : item.isUnwritable = true) : (Value.list items).isUnwritable = true := by
  rw [Value.isUnwritable]
  induction items with
  | nil => cases hmem
  | cons first rest ih =>
    rw [Value.anyUnwritable, Bool.or_eq_true]
    rcases List.mem_cons.1 hmem with rfl | hmem
    · exact Or.inl hitem
    · exact Or.inr (ih hmem)

theorem Fields.isUnwritable_of_get {node : Fields} {key : String}
    (hvalue : (node.get key).isUnwritable = true) : (Value.object node).isUnwritable = true := by
  rw [Value.isUnwritable]
  induction node with
  | nil => cases hvalue
  | cons field rest ih =>
    obtain ⟨name, value⟩ := field
    rw [Value.anyFieldUnwritable, Bool.or_eq_true]
    rw [Fields.get, List.lookup_cons] at hvalue
    cases hname : key == name with
    | true => exact Or.inl (by simpa [hname] using hvalue)
    | false => exact Or.inr (ih (by simpa [hname, Fields.get] using hvalue))

theorem Fields.isUnwritable_of_mem_nodes {node sub : Fields} {key : String}
    (hmem : sub ∈ node.nodes key) (hsub : (Value.object sub).isUnwritable = true) :
    (Value.object node).isUnwritable = true := by
  obtain ⟨items, hget, hitem⟩ := Fields.mem_nodes.1 hmem
  exact Fields.isUnwritable_of_get (hget ▸ Value.isUnwritable_list_of_mem hitem hsub)

namespace Reading

variable {node : Fields} {key : String}

theorem need_of_isFilled (hfilled : (node.get key).IsFilled) :
    need node key = pure (node.get key) := by
  obtain ⟨s, hget, _⟩ := hfilled
  rw [need, Fields.lookup_of_get hget (by simp), hget]

theorem name_of_isFilled (part : String) {value : Value} (hfilled : value.IsFilled) :
    ∃ s, value = .text s ∧ Text.isVoid s = false ∧ name part value = pure s := by
  obtain ⟨s, rfl, hs⟩ := hfilled
  refine ⟨s, rfl, hs, ?_⟩
  rw [name, if_neg]
  rintro rfl
  exact Bool.noConfusion hs

theorem strays_eq_nil {keys : List String} (hkeys : ∀ key ∈ keys, node.May key Value.IsText) :
    strays node keys = [] := by
  rw [strays, List.filterMap_eq_nil_iff]
  intro key hkey
  rcases hkeys key hkey with hnull | ⟨s, htext⟩
  · simp [stray?, hnull, Value.isTruthy]
  · simp [stray?, htext]

theorem mapM_display (items : List Value) : items.mapM display =
    if Value.anyUnwritable items then throw (.breakdown .unwritable)
    else pure (items.map Value.display) := by
  induction items with
  | nil => rfl
  | cons item rest ih =>
    rw [List.mapM_cons, ih, Value.anyUnwritable, display]
    cases item.isUnwritable <;> cases Value.anyUnwritable rest <;> rfl

theorem texts_eq (htexts : node.May key fun value => value.IsText ∨ ∃ items, value = .list items) :
    texts node key =
      if Value.anyUnwritable (Condition.members (node.get key)) then throw (.breakdown .unwritable)
      else pure ((Condition.members (node.get key)).map Value.display) := by
  rw [← mapM_display, texts]
  rcases htexts with hnull | ⟨s, htext⟩ | ⟨items, hlist⟩
  · rw [hnull]
    rfl
  · rw [htext]
    rfl
  · rw [hlist]
    rfl

theorem gives_texts
    (htexts : node.May key fun value => value.IsText ∨ ∃ items, value = .list items) :
    Gives ((Value.object node).isUnwritable = true) (texts node key)
      (· = (Condition.members (node.get key)).map Value.display) := by
  rw [texts_eq htexts]
  split
  next hunwritable =>
    suffices hvalue : (node.get key).isUnwritable = true from
      Or.inr ⟨rfl, Fields.isUnwritable_of_get hvalue⟩
    rcases htexts with hnull | ⟨s, htext⟩ | ⟨items, hlist⟩
    · simp [hnull, Condition.members, Value.anyUnwritable] at hunwritable
    · simp [htext, Condition.members, Value.anyUnwritable, Value.isUnwritable] at hunwritable
    · rw [hlist] at hunwritable ⊢
      exact hunwritable
  next => exact Gives.ok rfl rfl

theorem elements_eq (hnodes : node.HoldsNodes key) :
    elements (node.get key) = pure ((node.nodes key).map .object) := by
  rcases hnodes with hnull | hlist
  · rw [Fields.nodes, hnull]
    rfl
  · rw [elements, hlist]
    cases node.nodes key <;> rfl

end Reading

end Tabsmith
