import Mathlib.Data.List.Nodup
import Tabsmith.Document.Toml
import Tabsmith.Proofs.Outcome

/-!
The tables that a TOML document writes. A name is bound once in a table, however its bindings are
spread over headers and dotted keys, so that a look-up finds all there is.
-/

namespace Tabsmith

/-- No table within a value binds a name twice. -/
inductive Value.KeysDiffer : Value → Prop
  | scalar {value : Value} (hscalar : Document.Toml.isNest value = false) : KeysDiffer value
  | list {items : List Value} (hitems : ∀ item ∈ items, KeysDiffer item) : KeysDiffer (.list items)
  | object {fields : Fields} (hkeys : (fields.map Prod.fst).Nodup)
      (hfields : ∀ field ∈ fields, KeysDiffer field.2) : KeysDiffer (.object fields)

namespace Value

variable {value : Value} {fields : Fields} {items : List Value} {key : String}

theorem KeysDiffer.of_mem (hlist : KeysDiffer (.list items)) : ∀ item ∈ items, KeysDiffer item := by
  cases hlist with
  | scalar hscalar => cases hscalar
  | list hitems => exact hitems

theorem KeysDiffer.nodup (hobject : KeysDiffer (.object fields)) :
    (fields.map Prod.fst).Nodup := by
  cases hobject with
  | scalar hscalar => cases hscalar
  | object hkeys _ => exact hkeys

theorem KeysDiffer.of_mem_fields (hobject : KeysDiffer (.object fields)) :
    ∀ field ∈ fields, KeysDiffer field.2 := by
  cases hobject with
  | scalar hscalar => cases hscalar
  | object _ hfields => exact hfields

theorem KeysDiffer.lookup (hobject : KeysDiffer (.object fields))
    (hlookup : List.lookup key fields = some value) : KeysDiffer value := by
  obtain ⟨before, after, hsplit, _⟩ := List.lookup_eq_some_iff.1 hlookup
  exact hobject.of_mem_fields (key, value) (by simp [hsplit])

theorem KeysDiffer.append {others : List Value} (hlist : KeysDiffer (.list items))
    (hothers : ∀ item ∈ others, KeysDiffer item) : KeysDiffer (.list (items ++ others)) :=
  .list (List.forall_mem_append.2 ⟨hlist.of_mem, hothers⟩)

theorem mem_keys_set {other : String} :
    other ∈ (fields.set key value).map Prod.fst ↔ other = key ∨ other ∈ fields.map Prod.fst := by
  induction fields with
  | nil => simp [Fields.set]
  | cons field rest ih =>
    obtain ⟨k, v⟩ := field
    by_cases hk : k = key
    · simp [Fields.set, hk]
    · rw [Fields.set, if_neg hk, List.map_cons, List.mem_cons, ih, List.map_cons, List.mem_cons]
      exact or_left_comm

theorem KeysDiffer.set (hobject : KeysDiffer (.object fields)) (hvalue : KeysDiffer value)
    (key : String) : KeysDiffer (.object (fields.set key value)) := by
  induction fields with
  | nil => exact .object (List.nodup_singleton key) (by simpa [Fields.set] using hvalue)
  | cons field rest ih =>
    obtain ⟨k, v⟩ := field
    have hnodup := List.nodup_cons.1 hobject.nodup
    have hfields := List.forall_mem_cons.1 hobject.of_mem_fields
    by_cases hk : k = key
    · rw [Fields.set, if_pos hk]
      exact .object hobject.nodup (List.forall_mem_cons.2 ⟨hvalue, hfields.2⟩)
    · have hrest := ih (.object hnodup.2 hfields.2)
      rw [Fields.set, if_neg hk]
      refine .object (List.nodup_cons.2 ⟨?_, hrest.nodup⟩)
        (List.forall_mem_cons.2 ⟨hfields.1, hrest.of_mem_fields⟩)
      rw [mem_keys_set, not_or]
      exact ⟨hk, hnodup.1⟩

end Value

namespace Document.Toml

/-- A change of tables keeps their names apart. -/
def KeepsKeys (change : Fields → Option Fields) : Prop :=
  ∀ table after, Value.KeysDiffer (.object table) → change table = some after →
    Value.KeysDiffer (.object after)

theorem keepsKeys_bind {item : Value} (hitem : item.KeysDiffer) (name : String) :
    KeepsKeys (bind name item) := by
  intro table after htable hbind
  unfold bind at hbind
  split at hbind
  · cases hbind
  · cases hbind
    exact htable.set hitem name

theorem keysDiffer_empty : Value.KeysDiffer (.object []) :=
  .object List.nodup_nil (List.forall_mem_nil _)

theorem keepsKeys_extend (name : String) : KeepsKeys (extend name) := by
  intro table after htable hextend
  have hnew : ∀ item ∈ [Value.object []], item.KeysDiffer :=
    List.forall_mem_singleton.2 keysDiffer_empty
  unfold extend at hextend
  split at hextend
  · cases hextend
    exact htable.set (.list hnew) name
  next items hlookup =>
    cases hextend
    exact htable.set ((htable.lookup hlookup).append hnew) name
  · cases hextend

/-- A change at the end of a path keeps the names of all tables on the way apart. -/
theorem keepsKeys_changeAt {change : Fields → Option Fields} (hchange : KeepsKeys change)
    (intoLists : Bool) (path : Key) : KeepsKeys (changeAt intoLists change path) := by
  induction path with
  | nil => exact hchange
  | cons name path ih =>
    intro table after htable hafter
    rw [changeAt] at hafter
    cases hlookup : List.lookup name table with
    | none =>
      rw [hlookup] at hafter
      obtain ⟨below, hbelow, rfl⟩ := Option.map_eq_some_iff.1 hafter
      exact htable.set (ih [] below keysDiffer_empty hbelow) name
    | some value =>
      have hvalue := htable.lookup hlookup
      rw [hlookup] at hafter
      cases value with
      | object known =>
        obtain ⟨below, hbelow, rfl⟩ := Option.map_eq_some_iff.1 hafter
        exact htable.set (ih known below hvalue hbelow) name
      | list items =>
        dsimp only at hafter
        split at hafter
        next =>
          split at hafter
          next known hlast =>
            obtain ⟨below, hbelow, rfl⟩ := Option.map_eq_some_iff.1 hafter
            have hknown := hvalue.of_mem _ (List.mem_of_getLast? hlast)
            have hbefore : Value.KeysDiffer (.list items.dropLast) :=
              .list fun item hitem => hvalue.of_mem item (List.dropLast_subset _ hitem)
            have hchanged := List.forall_mem_singleton.2 (ih known below hknown hbelow)
            exact htable.set (hbefore.append hchanged) name
          · cases hafter
        · cases hafter
      | _ => cases hafter

/-! ## Values -/

theorem isNest_ofRun {base : Nat} {run : List Char × List Char} {result : Value × List Char}
    (hread : based?.ofRun base run = some result) : isNest result.1 = false := by
  unfold based?.ofRun at hread
  split at hread
  · cases hread
  · cases hread
    rfl

theorem isNest_based? {s : List Char} {result : Value × List Char} (hread : based? s = some result) :
    isNest result.1 = false := by
  unfold based? at hread
  split at hread
  · exact isNest_ofRun hread
  · exact isNest_ofRun hread
  · exact isNest_ofRun hread
  · cases hread

theorem isNest_signed {negative : Bool} {s : List Char} {result : Value × List Char}
    (hread : signed negative s = .ok result) : isNest result.1 = false := by
  unfold signed at hread
  split at hread
  · cases hread
    rfl
  · cases hread
    rfl
  · unfold decimal at hread
    dsimp only at hread
    split at hread
    · cases hread
    · split at hread
      · obtain ⟨value, hwhole, hread⟩ := bind_eq_ok_iff.1 hread
        cases hread
        unfold wholeNumber at hwhole
        split at hwhole
        · cases hwhole
        · cases hwhole
          rfl
      · cases hread
        rfl

theorem isNest_scalar {s : List Char} {result : Value × List Char} (hread : scalar s = .ok result) :
    isNest result.1 = false := by
  unfold scalar at hread
  split at hread
  · unfold dated at hread
    split at hread
    · cases hread
    · split at hread
      · cases hread
        rfl
      · cases hread
        rfl
  · split at hread
    · cases hread
      rfl
    · split at hread
      · exact isNest_signed hread
      · exact isNest_signed hread
      · split at hread
        next hbased =>
          cases hread
          exact isNest_based? hbased
        · exact isNest_signed hread
      · exact isNest_signed hread

theorem keysDiffer_text {quoted : Step (String × List Char)} {result : Value × List Char}
    (hread : (do let (text, rest) ← quoted; pure (Value.text text, rest)) = .ok result) :
    result.1.KeysDiffer := by
  obtain ⟨_, _, hread⟩ := bind_eq_ok_iff.1 hread
  cases hread
  exact .scalar rfl

/-- All that is read with some fuel keeps the names of its tables apart. -/
structure ReadsKeysApart (bound fuel : Nat) : Prop where
  value : ∀ {room s result}, value bound room fuel s = .ok result → result.1.KeysDiffer
  items : ∀ {room read s result}, (∀ item ∈ read, item.KeysDiffer) →
    items bound room fuel read s = .ok result → result.1.KeysDiffer
  inlineTable : ∀ {room closed table s result}, Value.KeysDiffer (.object table) →
    inlineTable bound room fuel closed table s = .ok result → result.1.KeysDiffer
  binding : ∀ {room s result}, binding bound room fuel s = .ok result → result.2.1.KeysDiffer

theorem readsKeysApart_zero (bound : Nat) : ReadsKeysApart bound 0 where
  value hread := by
    unfold Toml.value at hread
    cases hread
  items _ hread := by
    unfold Toml.items at hread
    cases hread
  inlineTable _ hread := by
    unfold Toml.inlineTable at hread
    cases hread
  binding hread := by
    unfold Toml.binding at hread
    cases hread

section Step

variable {bound fuel room : Nat} {s : List Char}

theorem ReadsKeysApart.value_succ (hbelow : ReadsKeysApart bound fuel) {result : Value × List Char}
    (hread : Toml.value bound room (fuel + 1) s = .ok result) : result.1.KeysDiffer := by
  unfold Toml.value at hread
  split at hread
  · exact keysDiffer_text hread
  · exact keysDiffer_text hread
  · exact keysDiffer_text hread
  · exact keysDiffer_text hread
  · cases hread
    exact .scalar rfl
  · cases hread
    exact .scalar rfl
  · obtain ⟨_, _, hread⟩ := bind_eq_ok_iff.1 hread
    obtain ⟨_, _, hread⟩ := bind_eq_ok_iff.1 hread
    split at hread
    · cases hread
      exact .list (List.forall_mem_nil _)
    · exact hbelow.items (List.forall_mem_nil _) hread
  · obtain ⟨_, _, hread⟩ := bind_eq_ok_iff.1 hread
    split at hread
    · cases hread
      exact keysDiffer_empty
    · exact hbelow.inlineTable keysDiffer_empty hread
  · exact .scalar (isNest_scalar hread)

theorem ReadsKeysApart.items_succ (hbelow : ReadsKeysApart bound fuel) {read : List Value}
    {result : Value × List Char} (hbefore : ∀ item ∈ read, item.KeysDiffer)
    (hread : Toml.items bound room (fuel + 1) read s = .ok result) : result.1.KeysDiffer := by
  unfold Toml.items at hread
  obtain ⟨⟨item, rest⟩, hitem, hread⟩ := bind_eq_ok_iff.1 hread
  have hall : ∀ other ∈ item :: read, other.KeysDiffer :=
    List.forall_mem_cons.2 ⟨hbelow.value hitem, hbefore⟩
  have hlist : Value.KeysDiffer (.list (item :: read).reverse) :=
    .list fun other hother => hall other (List.mem_reverse.1 hother)
  obtain ⟨_, _, hread⟩ := bind_eq_ok_iff.1 hread
  split at hread
  · cases hread
    exact hlist
  · obtain ⟨_, _, hread⟩ := bind_eq_ok_iff.1 hread
    split at hread
    · cases hread
      exact hlist
    · exact hbelow.items hall hread
  · cases hread

theorem ReadsKeysApart.inlineTable_succ (hbelow : ReadsKeysApart bound fuel) {closed : List Key}
    {table : Fields} {result : Value × List Char} (htable : Value.KeysDiffer (.object table))
    (hread : Toml.inlineTable bound room (fuel + 1) closed table s = .ok result) :
    result.1.KeysDiffer := by
  unfold Toml.inlineTable at hread
  obtain ⟨⟨key, item, rest⟩, hitem, hread⟩ := bind_eq_ok_iff.1 hread
  dsimp only at hread
  split at hread
  · cases hread
  · split at hread
    · cases hread
    next after hafter =>
      have hbind := keepsKeys_bind (hbelow.binding hitem) (split key).2
      have hobject := keepsKeys_changeAt hbind false (split key).1 table after htable hafter
      split at hread
      · cases hread
        exact hobject
      · exact hbelow.inlineTable hobject hread
      · cases hread

theorem ReadsKeysApart.binding_succ (hbelow : ReadsKeysApart bound fuel)
    {result : Key × Value × List Char}
    (hread : Toml.binding bound room (fuel + 1) s = .ok result) : result.2.1.KeysDiffer := by
  unfold Toml.binding at hread
  obtain ⟨⟨key, rest⟩, _, hread⟩ := bind_eq_ok_iff.1 hread
  dsimp only at hread
  split at hread
  · obtain ⟨⟨item, rest⟩, hitem, hread⟩ := bind_eq_ok_iff.1 hread
    cases hread
    exact hbelow.value hitem
  · cases hread

end Step

theorem readsKeysApart (bound fuel : Nat) : ReadsKeysApart bound fuel := by
  induction fuel with
  | zero => exact readsKeysApart_zero bound
  | succ fuel ih =>
    exact ⟨ih.value_succ, ih.items_succ, ih.inlineTable_succ, ih.binding_succ⟩

/-! ## Statements -/

namespace Draft

variable {d after : Draft}

theorem keysDiffer_change {path : Key} {f : Fields → Option Fields} (hf : KeepsKeys f)
    (hchange : d.change path f = .ok after) (hd : Value.KeysDiffer (.object d.table)) :
    Value.KeysDiffer (.object after.table) := by
  unfold change at hchange
  split at hchange
  next table htable =>
    cases hchange
    exact keepsKeys_changeAt hf true path d.table table hd htable
  · cases hchange

theorem keysDiffer_openTable {key : Key} (hd : Value.KeysDiffer (.object d.table))
    (hopen : d.openTable key = .ok after) : Value.KeysDiffer (.object after.table) := by
  have hsame : KeepsKeys some := by
    rintro table _ htable ⟨⟩
    exact htable
  unfold openTable at hopen
  split at hopen
  · cases hopen
  · obtain ⟨opened, hchange, hopen⟩ := bind_eq_ok_iff.1 hopen
    cases hopen
    have hopened := keysDiffer_change hsame hchange hd
    exact hopened

theorem keysDiffer_openItem {key : Key} (hd : Value.KeysDiffer (.object d.table))
    (hopen : d.openItem key = .ok after) : Value.KeysDiffer (.object after.table) := by
  unfold openItem at hopen
  split at hopen
  · cases hopen
  · obtain ⟨opened, hchange, hopen⟩ := bind_eq_ok_iff.1 hopen
    cases hopen
    have hopened := keysDiffer_change (keepsKeys_extend _) hchange hd
    exact hopened

theorem keysDiffer_bindKey {key : Key} {item : Value} (hitem : item.KeysDiffer)
    (hd : Value.KeysDiffer (.object d.table)) (hbind : d.bindKey key item = .ok after) :
    Value.KeysDiffer (.object after.table) := by
  unfold bindKey at hbind
  dsimp only at hbind
  split at hbind
  · cases hbind
  · split at hbind
    · cases hbind
    · obtain ⟨bound, hchange, hbind⟩ := bind_eq_ok_iff.1 hbind
      have hbound := keysDiffer_change (keepsKeys_bind hitem _) hchange hd
      split at hbind
      · cases hbind
        exact hbound
      · cases hbind
        exact hbound

end Draft

theorem keysDiffer_statement {bound : Nat} {d : Draft} {s : List Char} {result : Draft × List Char}
    (hd : Value.KeysDiffer (.object d.table)) (hread : statement bound d s = .ok result) :
    Value.KeysDiffer (.object result.1.table) := by
  unfold statement at hread
  split at hread
  · obtain ⟨⟨key, rest⟩, _, hread⟩ := bind_eq_ok_iff.1 hread
    obtain ⟨opened, hopen, hread⟩ := bind_eq_ok_iff.1 hread
    split at hread
    · cases hread
      exact Draft.keysDiffer_openItem (d := d.settle) hd hopen
    · cases hread
  · obtain ⟨⟨key, rest⟩, _, hread⟩ := bind_eq_ok_iff.1 hread
    obtain ⟨opened, hopen, hread⟩ := bind_eq_ok_iff.1 hread
    split at hread
    · cases hread
      exact Draft.keysDiffer_openTable (d := d.settle) hd hopen
    · cases hread
  · cases hread
    exact hd
  · obtain ⟨⟨key, item, rest⟩, hitem, hread⟩ := bind_eq_ok_iff.1 hread
    obtain ⟨bound, hbind, hread⟩ := bind_eq_ok_iff.1 hread
    cases hread
    exact Draft.keysDiffer_bindKey ((readsKeysApart _ _).binding hitem) hd hbind

theorem keysDiffer_statements {bound fuel : Nat} {d after : Draft} {s : List Char}
    (hd : Value.KeysDiffer (.object d.table)) (hread : statements bound fuel d s = .ok after) :
    Value.KeysDiffer (.object after.table) := by
  induction fuel generalizing d s with
  | zero =>
    unfold statements at hread
    cases hread
    exact hd
  | succ fuel ih =>
    unfold statements at hread
    split at hread
    · cases hread
      exact hd
    · exact ih hd hread
    · obtain ⟨⟨next, rest⟩, hstatement, hread⟩ := bind_eq_ok_iff.1 hread
      have hnext := keysDiffer_statement hd hstatement
      obtain ⟨_, _, hread⟩ := bind_eq_ok_iff.1 hread
      split at hread
      · cases hread
        exact hnext
      · exact ih hnext hread
      · cases hread

/-- A document writes a table, and no table in it binds a name twice. -/
theorem keysDiffer_read {text : String} {value : Value} (hread : read text = .ok value) :
    ∃ table, value = .object table ∧ Value.KeysDiffer (.object table) := by
  unfold read at hread
  obtain ⟨d, hstatements, hread⟩ := bind_eq_ok_iff.1 hread
  cases hread
  exact ⟨d.table, rfl, keysDiffer_statements keysDiffer_empty hstatements⟩

end Document.Toml

end Tabsmith
