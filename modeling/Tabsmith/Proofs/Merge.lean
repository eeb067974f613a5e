import Mathlib.Data.List.Nodup
import Tabsmith.Value.Merge

/-!
What a key is bound to in a merged object.
-/

namespace Tabsmith

namespace Value

/-- What a key is bound to when the first object binds it to `old` and the second to `new`, if they
bind it. -/
def mergedAt (old : Option Value) : (new : Option Value) → Option Value
  | none => old
  | some new =>
    match old with
    | some old => some (mergeInto old new)
    | none => some new

theorem mergedAt_none (old : Option Value) : mergedAt old none = old :=
  rfl

/-- Only an object and a list keep something of what they are merged into. -/
theorem mergeInto_of_no_nest {old : Value} (hobject : ∀ fields, old ≠ .object fields)
    (hlist : ∀ items, old ≠ .list items) (new : Value) : mergeInto old new = new := by
  cases new with
  | object fields =>
    cases old with
    | object known => exact absurd rfl (hobject known)
    | _ => rfl
  | list items =>
    cases old with
    | list known => exact absurd rfl (hlist known)
    | _ => rfl
  | _ => rfl

/-- Each field is merged into what the key was bound to at first, since no other field has its key. -/
theorem lookup_mergeFields {fields : Fields} (hkeys : (fields.map Prod.fst).Nodup) (known : Fields)
    (key : String) : List.lookup key (mergeFields known fields) =
      mergedAt (List.lookup key known) (List.lookup key fields) := by
  induction fields generalizing known with
  | nil => rfl
  | cons field rest ih =>
    obtain ⟨k, new⟩ := field
    obtain ⟨hfresh, hrest⟩ := List.nodup_cons.1 hkeys
    rw [mergeFields, ih hrest]
    by_cases hk : key = k
    · subst hk
      have hnone : List.lookup key rest = none := by
        rw [List.lookup_eq_none_iff]
        rintro ⟨other, value⟩ hfield
        have hdiffers : key ≠ other := by
          rintro rfl
          exact hfresh (List.mem_map.2 ⟨_, hfield, rfl⟩)
        simpa using hdiffers
      rw [hnone, mergedAt_none, Fields.lookup_set_self, List.lookup_cons_self]
      cases List.lookup key known <;> rfl
    · have hne : (key == k) = false := by simpa using hk
      rw [Fields.lookup_set_of_ne known hk, List.lookup_cons, hne]

end Value

theorem Fields.lookup_merge {second : Fields} (hkeys : (second.map Prod.fst).Nodup) (first : Fields)
    (key : String) : List.lookup key (first.merge second) =
      Value.mergedAt (List.lookup key first) (List.lookup key second) :=
  Value.lookup_mergeFields hkeys first key

end Tabsmith
