import Tabsmith.Proofs.Document.Toml
import Tabsmith.Proofs.Merge

/-!
Merged objects by paths of keys. What the second object binds a path to counts, with the list of the first
in front of a list; what it does not bind stays as the first object has it.
-/

namespace Tabsmith

namespace Value

/-- What a path of keys leads to, through objects. -/
def at? : Value → (path : List String) → Option Value
  | value, [] => some value
  | object fields, key :: rest =>
    match List.lookup key fields with
    | some value => at? value rest
    | none => none
  | _, _ :: _ => none

/-- A path of keys leads through objects to one that lacks the next key. -/
inductive LacksAt : Value → (path : List String) → Prop
  | here {fields : Fields} {key : String} (rest : List String) (hkey : List.lookup key fields = none) :
      LacksAt (object fields) (key :: rest)
  | deeper {fields : Fields} {key : String} {value : Value} {rest : List String}
      (hkey : List.lookup key fields = some value) (hrest : LacksAt value rest) :
      LacksAt (object fields) (key :: rest)

section Paths

variable {old new value : Value} {known fields : Fields} {key : String} {path rest : List String}

@[simp] theorem at?_nil (value : Value) : value.at? [] = some value := by
  cases value <;> rfl

theorem at?_object_cons (fields : Fields) (key : String) (rest : List String) :
    (object fields).at? (key :: rest) = (List.lookup key fields).bind fun value => value.at? rest := by
  rw [at?]
  cases List.lookup key fields <;> rfl

/-- A path leads on from what its first key leads to. -/
theorem at?_cons (value : Value) (key : String) (rest : List String) :
    value.at? (key :: rest) = (value.at? [key]).bind fun below => below.at? rest := by
  cases value with
  | object fields => simp [at?_object_cons]
  | _ => rfl

theorem LacksAt.at?_eq_none (hlacks : LacksAt value path) : value.at? path = none := by
  induction hlacks with
  | here rest hkey => rw [at?_object_cons, hkey, Option.bind_none]
  | deeper hkey hrest ih => rw [at?_object_cons, hkey, Option.bind_some, ih]

/-- A key of a merged object leads on from what the two values bind it to, merged. -/
theorem at?_mergeInto_object (hkeys : (fields.map Prod.fst).Nodup) (old : Value) (key : String)
    (rest : List String) :
    (mergeInto old (object fields)).at? (key :: rest) =
      (mergedAt (old.at? [key]) (List.lookup key fields)).bind fun value => value.at? rest := by
  cases old with
  | object known =>
    rw [mergeInto, at?_object_cons, lookup_mergeFields hkeys, at?_object_cons]
    simp
  | _ =>
    rw [mergeInto, at?_object_cons]
    · cases List.lookup key fields <;> rfl
    · simp

/-- A value that is no object and no list replaces any other. -/
theorem mergeInto_scalar (hobject : ∀ fields, new ≠ object fields) (hlist : ∀ items, new ≠ list items)
    (old : Value) : mergeInto old new = new := by
  cases new with
  | object fields => exact absurd rfl (hobject fields)
  | list items => exact absurd rfl (hlist items)
  | _ => rfl

/-- A list replaces what is no list. -/
theorem mergeInto_list (hlist : ∀ known, old ≠ list known) (items : List Value) :
    mergeInto old (list items) = list items := by
  cases old with
  | list known => exact absurd rfl (hlist known)
  | _ => rfl

/-- What the second value binds a path to is merged into what the first one binds it to. -/
theorem at?_mergeInto (hkeys : new.KeysDiffer) (hnew : new.at? path = some value) (old : Value) :
    (mergeInto old new).at? path = mergedAt (old.at? path) (some value) := by
  induction path generalizing old new with
  | nil =>
    rw [at?_nil] at hnew ⊢
    obtain rfl := Option.some.inj hnew
    rw [at?_nil, mergedAt]
  | cons key rest ih =>
    cases new with
    | object fields =>
      rw [at?_object_cons, Option.bind_eq_some_iff] at hnew
      obtain ⟨below, hbelow, hvalue⟩ := hnew
      rw [at?_mergeInto_object hkeys.nodup, at?_cons old key rest, hbelow]
      cases old.at? [key] with
      | none => exact hvalue
      | some before => exact ih (hkeys.lookup hbelow) hvalue before
    | _ => cases hnew

/-- Where the second value lacks a path, the merged one is as the first. -/
theorem LacksAt.at?_mergeInto (hlacks : LacksAt new path) (hkeys : new.KeysDiffer) (old : Value) :
    (mergeInto old new).at? path = old.at? path := by
  induction hlacks generalizing old with
  | here rest hkey => rw [at?_mergeInto_object hkeys.nodup, hkey, mergedAt_none, ← at?_cons]
  | @deeper fields key below rest hkey hrest ih =>
    rw [at?_mergeInto_object hkeys.nodup, hkey, at?_cons old key rest]
    cases old.at? [key] with
    | none => exact hrest.at?_eq_none
    | some before => exact ih (hkeys.lookup hkey) before

theorem KeysDiffer.at? (hkeys : value.KeysDiffer) {found : Value} (hfound : value.at? path = some found) :
    found.KeysDiffer := by
  induction path generalizing value with
  | nil =>
    rw [at?_nil] at hfound
    exact Option.some.inj hfound ▸ hkeys
  | cons key rest ih =>
    cases value with
    | object fields =>
      rw [at?_object_cons, Option.bind_eq_some_iff] at hfound
      obtain ⟨below, hbelow, hfound⟩ := hfound
      exact ih (hkeys.lookup hbelow) hfound
    | _ => cases hfound

end Paths

/-! ## The order of keys -/

section Keys

variable {fields : Fields}

theorem keys_set (fields : Fields) (key : String) (value : Value) :
    (fields.set key value).map Prod.fst =
      if key ∈ fields.map Prod.fst then fields.map Prod.fst else fields.map Prod.fst ++ [key] := by
  induction fields with
  | nil => rfl
  | cons field rest ih =>
    obtain ⟨k, v⟩ := field
    by_cases hk : k = key
    · subst hk
      simp [Fields.set]
    · rw [Fields.set, if_neg hk, List.map_cons, ih]
      by_cases hmem : key ∈ rest.map Prod.fst
      · have hlater : key ∈ ((k, v) :: rest).map Prod.fst := List.mem_cons_of_mem k hmem
        rw [if_pos hmem, if_pos hlater, List.map_cons]
      · have hfresh : key ∉ ((k, v) :: rest).map Prod.fst := by
          rw [List.map_cons, List.mem_cons, not_or]
          exact ⟨Ne.symm hk, hmem⟩
        rw [if_neg hmem, if_neg hfresh, List.map_cons, List.cons_append]

/-- The keys of the first object stay in their order, and the new ones follow in theirs. -/
theorem keys_mergeFields (hkeys : (fields.map Prod.fst).Nodup) (known : Fields) :
    (mergeFields known fields).map Prod.fst =
      known.map Prod.fst ++ (fields.map Prod.fst).filter fun key => key ∉ known.map Prod.fst := by
  induction fields generalizing known with
  | nil => simp [mergeFields]
  | cons field rest ih =>
    obtain ⟨key, new⟩ := field
    obtain ⟨hfresh, hrest⟩ := List.nodup_cons.1 hkeys
    rw [mergeFields, ih hrest, keys_set, List.map_cons]
    by_cases hknown : key ∈ known.map Prod.fst
    · rw [if_pos hknown, List.filter_cons_of_neg (by simpa using hknown)]
    · rw [if_neg hknown, List.filter_cons_of_pos (by simpa using hknown), List.append_assoc,
        List.singleton_append]
      have hsame : ∀ other ∈ rest.map Prod.fst,
          decide (other ∉ known.map Prod.fst ++ [key]) = decide (other ∉ known.map Prod.fst) := by
        intro other hother
        have hne : other ≠ key := by
          rintro rfl
          exact hfresh hother
        simp [hne]
      rw [List.filter_congr hsame]

end Keys

end Value

/-- What a path of keys leads to in a merged object. The value that the second object has there counts, and
a list of the first is kept in front of a list of the second. Where the second object lacks a key on the
way, the first is as it was. An object that both have there has the keys of the first in their order, and
then those that are new. -/
theorem merge_at_paths {second : Fields} (hkeys : (Value.object second).KeysDiffer) (first : Fields) :
    (∀ path value, (Value.object second).at? path = some value → (∀ fields, value ≠ .object fields) →
      (∀ items, value ≠ .list items) → (Value.object (first.merge second)).at? path = some value) ∧
    (∀ path items, (Value.object second).at? path = some (.list items) →
      (∀ known, (Value.object first).at? path = some (.list known) →
        (Value.object (first.merge second)).at? path = some (.list (known ++ items))) ∧
      ((∀ known, (Value.object first).at? path ≠ some (.list known)) →
        (Value.object (first.merge second)).at? path = some (.list items))) ∧
    (∀ path value, (Value.object first).at? path = some value → (Value.object second).LacksAt path →
      (Value.object (first.merge second)).at? path = some value) ∧
    ∀ path (known fields : Fields), (Value.object first).at? path = some (.object known) →
      (Value.object second).at? path = some (.object fields) →
      (Value.object (first.merge second)).at? path = some (.object (known.merge fields)) ∧
      (known.merge fields).map Prod.fst =
        known.map Prod.fst ++ (fields.map Prod.fst).filter fun key => key ∉ known.map Prod.fst := by
  have hmerged : Value.object (first.merge second) =
      Value.mergeInto (.object first) (.object second) := by
    rw [Value.mergeInto, Fields.merge]
  rw [hmerged]
  refine ⟨?_, ?_, ?_, ?_⟩
  · intro path value hvalue hobject hlist
    rw [Value.at?_mergeInto hkeys hvalue]
    cases (Value.object first).at? path with
    | none => rfl
    | some old => exact congrArg some (Value.mergeInto_scalar hobject hlist old)
  · intro path items hitems
    rw [Value.at?_mergeInto hkeys hitems]
    refine ⟨fun known hknown => ?_, fun hnone => ?_⟩
    · rw [hknown]
      rfl
    · cases hfirst : (Value.object first).at? path with
      | none => rfl
      | some old =>
        have hlist : ∀ known, old ≠ .list known := fun known heq => hnone known (heq ▸ hfirst)
        exact congrArg some (Value.mergeInto_list hlist items)
  · intro path value hvalue hlacks
    rw [hlacks.at?_mergeInto hkeys, hvalue]
  · intro path known fields hknown hfields
    rw [Value.at?_mergeInto hkeys hfields, hknown]
    exact ⟨rfl, Value.keys_mergeFields (hkeys.at? hfields).nodup known⟩

/-- An instance: a path of the user's, one more folder, and a shell that comes last. -/
theorem merge_at_paths_of_configuration :
    let first : Fields := [("paths", .object [("zsh", .text "z"), ("folders", .list [.text "a"])]),
      ("debug", .bool true)]
    let second : Fields := [("paths", .object [("fish", .text "f"), ("folders", .list [.text "b"]),
      ("zsh", .text "own")])]
    let merged := Value.object (first.merge second)
    merged.at? ["paths", "zsh"] = some (.text "own") ∧
      merged.at? ["paths", "folders"] = some (.list [.text "a", .text "b"]) ∧
      merged.at? ["debug"] = some (.bool true) ∧
      ∃ paths, merged.at? ["paths"] = some (.object paths) ∧
        paths.map Prod.fst = ["zsh", "folders", "fish"] := by
  intro first second merged
  have hfolders : (Value.list [.text "b"]).KeysDiffer := .list (by simpa using .scalar rfl)
  have hpaths : (Value.object [("fish", .text "f"), ("folders", .list [.text "b"]),
      ("zsh", .text "own")]).KeysDiffer := by
    refine .object (by decide) ?_
    simpa using ⟨.scalar rfl, hfolders, .scalar rfl⟩
  have hkeys : (Value.object second).KeysDiffer := by
    refine .object (by decide) ?_
    simpa [second] using hpaths
  obtain ⟨hscalar, hlist, hkept, hobject⟩ := merge_at_paths hkeys first
  obtain ⟨hmerged, horder⟩ := hobject ["paths"] _ _ rfl rfl
  refine ⟨?_, ?_, ?_, _, hmerged, horder.trans (by decide)⟩
  · exact hscalar ["paths", "zsh"] _ rfl (by simp) (by simp)
  · exact (hlist ["paths", "folders"] _ rfl).1 _ rfl
  · exact hkept ["debug"] _ rfl (.here [] rfl)

end Tabsmith
