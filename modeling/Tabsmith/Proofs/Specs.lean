import Tabsmith.Proofs.Quoting.Zsh

/-!
Fields in the specifications of zsh's completion system. A field goes on to the first character of a class that
no backslash makes just itself. A text is written there with backslashes before some characters, but not before
its own backslashes: it is read back exactly if each of these stands before such a character.
-/

namespace Tabsmith.Zsh

/-- A text that is one word, without its quotes. -/
def unquoted? (s : String) : Option (List Char) :=
  match readWord s with
  | .whole text [] => some text
  | _ => none

theorem unquoted?_eq_some_iff {s : String} {text : List Char} :
    unquoted? s = some text ↔ readWord s = .whole text [] := by
  rw [unquoted?]
  split
  next other hread => rw [hread, Option.some.injEq, Word.whole.injEq, and_iff_left rfl]
  next hother =>
    constructor
    · nofun
    · exact fun hread => absurd hread (hother text)

theorem unquoted?_of_toList {s : String} {text : List Char} (hs : s.toList = quoted text) :
    unquoted? s = some text := by
  have hread := read_quoted text []
  rw [List.append_nil, read, Word.prepend, List.append_nil] at hread
  rw [unquoted?_eq_some_iff, readWord, hs, hread]

/-! ## Fields -/

/-- The text of a field, without the backslashes that make characters just themselves, and what follows from
the character on that ends the field. -/
def readField (ends : Char → Bool) : List Char → List Char × List Char
  | [] => ([], [])
  | ['\\'] => ([], [])
  | '\\' :: c :: rest => Prod.map (c :: ·) id (readField ends rest)
  | c :: rest => if ends c then ([], c :: rest) else Prod.map (c :: ·) id (readField ends rest)

/-- Each backslash of a text stands before a character of a class. -/
def BackslashesBefore (p : Char → Bool) : List Char → Prop
  | [] => True
  | c :: rest => (c = '\\' → rest.head?.any p = true) ∧ BackslashesBefore p rest

instance decidableBackslashesBefore (p : Char → Bool) :
    (text : List Char) → Decidable (BackslashesBefore p text)
  | [] => inferInstanceAs (Decidable True)
  | c :: rest =>
    have := decidableBackslashesBefore p rest
    inferInstanceAs (Decidable ((c = '\\' → rest.head?.any p = true) ∧ BackslashesBefore p rest))

section

variable {p ends : Char → Bool} {rest : List Char}

theorem guarded_of_pos {c : Char} (hc : p c = true) (text : List Char) :
    guarded p (c :: text) = '\\' :: c :: guarded p text := by
  rw [guarded, List.flatMap_cons, if_pos hc]
  rfl

theorem guarded_of_neg {c : Char} (hc : p c = false) (text : List Char) :
    guarded p (c :: text) = c :: guarded p text := by
  rw [guarded, List.flatMap_cons, if_neg (by simp [hc])]
  rfl

theorem readField_escaped (c : Char) (text : List Char) :
    readField ends ('\\' :: c :: text) = Prod.map (c :: ·) id (readField ends text) := by
  rw [readField]

theorem readField_of_pos {c : Char} (hc : ends c = true) (hbackslash : c ≠ '\\') (text : List Char) :
    readField ends (c :: text) = ([], c :: text) := by
  rw [readField, if_pos hc]
  · exact fun heq => absurd heq hbackslash
  · exact fun _ _ heq => absurd heq hbackslash

theorem readField_of_neg {c : Char} (hc : ends c = false) (hbackslash : c ≠ '\\') (text : List Char) :
    readField ends (c :: text) = Prod.map (c :: ·) id (readField ends text) := by
  rw [readField, if_neg (by simp [hc])]
  · exact fun heq => absurd heq hbackslash
  · exact fun _ _ heq => absurd heq hbackslash

theorem ne_backslash_of_pos {q : Char → Bool} (hbackslash : q '\\' = false) {c : Char} (hc : q c = true) :
    c ≠ '\\' := by
  rintro rfl
  rw [hbackslash] at hc
  cases hc

theorem readField_of_ends (hends : ends '\\' = false) (hrest : ∀ c ∈ rest.head?, ends c = true) :
    readField ends rest = ([], rest) := by
  cases rest with
  | nil => rfl
  | cons c rest =>
    have hc : ends c = true := hrest c rfl
    exact readField_of_pos hc (ne_backslash_of_pos hends hc) rest

/-- A character that does not end the field unless it is guarded is read, whether or not it is. -/
theorem readField_guarded_cons {c : Char} (hc : c ≠ '\\') (hguarded : ends c = true → p c = true)
    (text : List Char) :
    readField ends (guarded p (c :: text) ++ rest) =
      Prod.map (c :: ·) id (readField ends (guarded p text ++ rest)) := by
  cases hpc : p c with
  | true => rw [guarded_of_pos hpc, List.cons_append, List.cons_append, readField_escaped]
  | false =>
    have hendsc : ends c = false := by
      by_contra h
      rw [hguarded (by simpa using h)] at hpc
      cases hpc
    rw [guarded_of_neg hpc, List.cons_append, readField_of_neg hendsc hc]

/-- A text whose backslashes stand before guarded characters is read back: such a backslash makes the one after
it just itself, and leaves the character bare. -/
theorem readField_guarded (hp : p '\\' = false) (hends : ends '\\' = false)
    (hrest : ∀ c ∈ rest.head?, ends c = true) {text : List Char}
    (hguarded : ∀ c ∈ text, ends c = true → p c = true)
    (hbackslashes : BackslashesBefore (fun c => p c && !ends c) text) :
    readField ends (guarded p text ++ rest) = (text, rest) := by
  induction text with
  | nil => exact readField_of_ends hends hrest
  | cons c text ih =>
    obtain ⟨hc, hguarded⟩ := List.forall_mem_cons.1 hguarded
    obtain ⟨hbackslash, hbackslashes⟩ := hbackslashes
    have ih := ih hguarded hbackslashes
    by_cases heq : c = '\\'
    · cases text with
      | nil => cases hbackslash heq
      | cons d text =>
        have hd : p d = true ∧ ends d = false := by simpa using hbackslash heq
        have hdiffers := ne_backslash_of_pos hp hd.1
        rw [readField_guarded_cons hdiffers fun _ => hd.1] at ih
        rw [heq, guarded_of_neg hp, guarded_of_pos hd.1, List.cons_append, List.cons_append, List.cons_append,
          readField_escaped, readField_of_neg hd.2 hdiffers, ih]
        rfl
    · rw [readField_guarded_cons heq hc, ih]
      rfl

/-- Of a text without a backslash in front, the first character that is read is its own, so that it does not end
the field. -/
theorem eq_of_readField_cons {c d : Char} {text first : List Char} (hc : c ≠ '\\')
    (hread : (readField ends (guarded p (c :: text) ++ rest)).1 = d :: first) :
    d = c ∧ (ends c = true → p c = true) ∧ (readField ends (guarded p text ++ rest)).1 = first := by
  have hguarded : ends c = true → p c = true := by
    intro hends
    by_contra hp
    rw [guarded_of_neg (by simpa using hp), List.cons_append, readField_of_pos hends hc] at hread
    cases hread
  rw [readField_guarded_cons hc hguarded] at hread
  obtain ⟨hfirst, hrest⟩ := List.cons.inj hread
  exact ⟨hfirst.symm, hguarded, hrest⟩

theorem replicate_append_cons_self (count : Nat) (c : Char) (text : List Char) :
    List.replicate count c ++ c :: text = c :: (List.replicate count c ++ text) := by
  rw [← List.cons_append, ← List.replicate_succ, List.replicate_succ', List.append_assoc,
    List.singleton_append]

/-- If a text is read, possibly after backslashes that were not written, there are none of these, and the
backslashes of the text stand before guarded characters. Of two backslashes in a row one is read, so that behind
them one more is missing than before. -/
theorem backslashesBefore_of_readField (hp : p '\\' = false) (hends : ends '\\' = false)
    (hrest : ∀ c ∈ rest.head?, ends c = true) (text : List Char) (missing : Nat)
    (hread : (readField ends (guarded p text ++ rest)).1 = List.replicate missing '\\' ++ text) :
    missing = 0 ∧ (∀ c ∈ text, ends c = true → p c = true) ∧
      BackslashesBefore (fun c => p c && !ends c) text := by
  match text with
  | [] =>
    rw [guarded, List.flatMap_nil, List.nil_append, readField_of_ends hends hrest, List.append_nil] at hread
    have hnone : List.replicate missing '\\' = [] := hread.symm
    exact ⟨by simpa using hnone, List.forall_mem_nil _, trivial⟩
  | c :: text =>
    by_cases heq : c = '\\'
    · subst heq
      rw [guarded_of_neg hp, replicate_append_cons_self] at hread
      cases text with
      | nil =>
        -- The backslash escapes what should end the field.
        cases rest with
        | nil => cases hread
        | cons d rest =>
          have hd : ends d = true := hrest d rfl
          rw [guarded, List.flatMap_nil, List.singleton_append, readField_escaped] at hread
          exact absurd (List.cons.inj hread).1 (ne_backslash_of_pos hends hd)
      | cons d text =>
        by_cases hd : d = '\\'
        · subst hd
          rw [guarded_of_neg hp, List.cons_append, List.cons_append, readField_escaped,
            replicate_append_cons_self, ← List.cons_append, ← List.replicate_succ] at hread
          obtain ⟨hmissing, -⟩ :=
            backslashesBefore_of_readField hp hends hrest text (missing + 1) (List.cons.inj hread).2
          cases hmissing
        cases hpd : p d with
        | false =>
          rw [guarded_of_neg hpd, List.cons_append, List.cons_append, readField_escaped] at hread
          exact absurd (List.cons.inj hread).1 hd
        | true =>
          rw [guarded_of_pos hpd, List.cons_append, List.cons_append, List.cons_append,
            readField_escaped] at hread
          have hbare : (readField ends (d :: (guarded p text ++ rest))).1 =
              List.replicate missing '\\' ++ d :: text := (List.cons.inj hread).2
          cases hendsd : ends d with
          | true =>
            rw [readField_of_pos hendsd hd] at hbare
            simp at hbare
          | false =>
            rw [readField_of_neg hendsd hd, ← readField_guarded_cons hd fun _ => hpd] at hbare
            obtain ⟨hmissing, hguarded, hbackslashes⟩ :=
              backslashesBefore_of_readField hp hends hrest (d :: text) missing hbare
            refine ⟨hmissing, List.forall_mem_cons.2 ⟨?_, hguarded⟩, fun _ => ?_, hbackslashes⟩
            · simp [hends]
            · simp [hpd, hendsd]
    · cases missing with
      | succ missing => exact absurd (eq_of_readField_cons heq hread).1.symm heq
      | zero =>
        obtain ⟨-, hfirst, hlater⟩ := eq_of_readField_cons heq hread
        obtain ⟨-, hguarded, hbackslashes⟩ :=
          backslashesBefore_of_readField hp hends hrest text 0 hlater
        exact ⟨rfl, List.forall_mem_cons.2 ⟨hfirst, hguarded⟩, fun h => absurd h heq, hbackslashes⟩
termination_by text.length

end

/-! ## Parts between single characters -/

/-- The text before the first occurrence of a character, and what follows it. -/
def upTo? (stop : Char) : List Char → Option (List Char × List Char)
  | [] => none
  | c :: rest => if c = stop then some ([], rest) else (upTo? stop rest).map (Prod.map (c :: ·) id)

theorem upTo?_eq_some_iff {stop : Char} {s before after : List Char} :
    upTo? stop s = some (before, after) ↔ s = before ++ stop :: after ∧ stop ∉ before := by
  induction s generalizing before with
  | nil => simp [upTo?]
  | cons c rest ih =>
    rw [upTo?]
    by_cases hc : c = stop
    · rw [if_pos hc, Option.some.injEq, Prod.mk.injEq]
      constructor
      · rintro ⟨rfl, rfl⟩
        exact ⟨by rw [hc, List.nil_append], List.not_mem_nil⟩
      · rintro ⟨heq, hnone⟩
        cases before with
        | nil => exact ⟨rfl, (List.cons.inj heq).2⟩
        | cons d before =>
          obtain ⟨rfl, -⟩ := List.cons.inj heq
          exact absurd (hc ▸ List.mem_cons_self) hnone
    · rw [if_neg hc, Option.map_eq_some_iff]
      constructor
      · rintro ⟨⟨first, later⟩, hrest, heq⟩
        obtain ⟨rfl, rfl⟩ := Prod.mk.inj heq
        obtain ⟨rfl, hnone⟩ := ih.1 hrest
        exact ⟨rfl, List.not_mem_cons_of_ne_of_not_mem (Ne.symm hc) hnone⟩
      · rintro ⟨heq, hnone⟩
        cases before with
        | nil => exact absurd (List.cons.inj heq).1 hc
        | cons d before =>
          obtain ⟨rfl, rfl⟩ := List.cons.inj heq
          exact ⟨(before, after), ih.2 ⟨rfl, fun hmem => hnone (List.mem_cons_of_mem _ hmem)⟩, rfl⟩

/-- The text of a field that a character ends, and what follows that. -/
def fieldUpTo? (stop : Char) (s : List Char) : Option (List Char × List Char) :=
  match readField (· == stop) s with
  | (_, []) => none
  | (text, _ :: rest) => some (text, rest)

/-- A text is read back up to the character that ends its field exactly if that character is guarded in it, and
each of its backslashes stands before another guarded one. -/
theorem fieldUpTo?_guarded_eq_some_iff {p : Char → Bool} (hp : p '\\' = false) {stop : Char}
    (hstop : stop ≠ '\\') {text rest : List Char} :
    fieldUpTo? stop (guarded p text ++ stop :: rest) = some (text, rest) ↔
      (stop ∈ text → p stop = true) ∧ BackslashesBefore (fun c => p c && !(c == stop)) text := by
  have hends : ('\\' == stop) = false := by simpa using hstop.symm
  have hrest : ∀ c ∈ (stop :: rest).head?, (c == stop) = true := by simp
  have hguarded : (stop ∈ text → p stop = true) ↔ ∀ c ∈ text, (c == stop) = true → p c = true := by
    simp only [beq_iff_eq]
    exact ⟨fun h c hc heq => heq ▸ h (heq ▸ hc), fun h hmem => h stop hmem rfl⟩
  rw [hguarded, fieldUpTo?]
  constructor
  · intro hread
    apply (backslashesBefore_of_readField hp hends hrest text 0 _).2
    split at hread
    · cases hread
    next heq =>
      obtain ⟨rfl, rfl⟩ := Prod.mk.inj (Option.some.inj hread)
      rw [heq]
      rfl
  · rintro ⟨hguarded, hbackslashes⟩
    rw [readField_guarded hp hends hrest hguarded hbackslashes]

end Tabsmith.Zsh
