import Mathlib.Data.List.Basic
import Tabsmith.Text.Blank
import Tabsmith.Text.Replace

/-!
Texts that are cut into pieces, texts that are joined from them, and texts in which others
are replaced.
-/

namespace Tabsmith

theorem all_intercalate {p : Char → Bool} {separator : List Char} (hseparator : separator.all p)
    {parts : List (List Char)} (hparts : ∀ part ∈ parts, part.all p) :
    (separator.intercalate parts).all p = true := by
  induction parts with
  | nil => rfl
  | cons part rest ih =>
    cases rest with
    | nil => simpa using hparts part (by simp)
    | cons next rest =>
      rw [List.intercalate_cons_cons, List.all_append, List.all_append, hparts part (by simp),
        hseparator, ih fun other hother => hparts other (by simp [List.mem_cons.1 hother])]
      rfl

/-- What is joined has the characters of its parts, and besides them only those of the separator. -/
theorem mem_intercalate_iff {c : Char} {separator : List Char} (hc : c ∉ separator)
    {parts : List (List Char)} : c ∈ separator.intercalate parts ↔ ∃ part ∈ parts, c ∈ part := by
  induction parts with
  | nil => simp
  | cons part rest ih =>
    cases rest with
    | nil => simp
    | cons next rest =>
      rw [List.intercalate_cons_cons, List.mem_append, List.mem_append, ih]
      simp [hc]

/-- What is made of a joined text, character by character, is joined from what is made of its parts. -/
theorem flatMap_intercalate (f : Char → List Char) (separator : List Char) (parts : List (List Char)) :
    (separator.intercalate parts).flatMap f =
      (separator.flatMap f).intercalate (parts.map (List.flatMap f)) := by
  induction parts with
  | nil => rfl
  | cons part rest ih =>
    cases rest with
    | nil => simp
    | cons next rest =>
      rw [List.intercalate_cons_cons, List.flatMap_append, List.flatMap_append, ih]
      exact List.intercalate_cons_cons.symm

/-- With one more separator in front, a joined text has each of its parts behind one. -/
theorem append_intercalate (separator : List Char) {parts : List (List Char)} (hparts : parts ≠ []) :
    separator ++ separator.intercalate parts = parts.flatMap (separator ++ ·) := by
  induction parts with
  | nil => contradiction
  | cons part rest ih =>
    cases rest with
    | nil => simp
    | cons next rest =>
      rw [List.intercalate_cons_cons, List.append_assoc part, ih (List.cons_ne_nil _ _), ← List.append_assoc,
        ← List.flatMap_cons]

/-- With one more separator at the end, a joined text has each of its parts before one. -/
theorem intercalate_append (separator : String) {parts : List String} (hparts : parts ≠ []) :
    separator.intercalate parts ++ separator = String.join (parts.map (· ++ separator)) := by
  induction parts with
  | nil => contradiction
  | cons part rest ih =>
    cases rest with
    | nil => simp
    | cons next rest =>
      rw [String.intercalate_cons_cons, List.map_cons, String.join_cons, ← ih (List.cons_ne_nil _ _)]
      simp [String.append_assoc]

namespace Text

variable {p : Char → Bool} {s : List Char}

/-- The pieces between the characters of a class are those of the library's splitting. -/
theorem pieces_eq_splitOnP (p : Char → Bool) (s : List Char) : pieces p s = s.splitOnP p := by
  induction s with
  | nil => rfl
  | cons c rest ih =>
    rw [pieces, ih, List.splitOnP_cons_eq_if_modifyHead]
    by_cases hc : p c = true
    · simp [hc]
    · cases hpieces : rest.splitOnP p with
      | nil => exact absurd hpieces (List.splitOnP_ne_nil p rest)
      | cons piece others => simp [hc]

theorem pieces_ne_nil (p : Char → Bool) (s : List Char) : pieces p s ≠ [] := by
  rw [pieces_eq_splitOnP]
  exact List.splitOnP_ne_nil p s

/-- The pieces between the occurrences of a character. -/
theorem pieces_eq_splitOn (c : Char) (s : List Char) : pieces (· = c) s = s.splitOn c := by
  rw [pieces_eq_splitOnP, List.splitOn]
  congr

/-- A piece holds none of the characters that a text was cut at. -/
theorem eq_false_of_mem_pieces {piece : List Char} (hpiece : piece ∈ pieces p s) {c : Char}
    (hc : c ∈ piece) : p c = false := by
  induction s generalizing piece with
  | nil => simp_all [pieces]
  | cons d rest ih =>
    cases hpieces : pieces p rest with
    | nil => exact absurd hpieces (pieces_ne_nil p rest)
    | cons first others =>
      rw [hpieces] at ih
      rw [pieces, hpieces] at hpiece
      by_cases hd : p d = true
      · rw [if_pos hd] at hpiece
        rcases List.mem_cons.1 hpiece with rfl | hrest
        · cases hc
        · exact ih hrest hc
      · rw [if_neg hd] at hpiece
        rcases List.mem_cons.1 hpiece with rfl | hother
        · rcases List.mem_cons.1 hc with rfl | hfirst
          · simpa using hd
          · exact ih List.mem_cons_self hfirst
        · exact ih (List.mem_cons_of_mem first hother) hc

theorem not_mem_of_mem_splitOn {c : Char} {piece : List Char} (hpiece : piece ∈ s.splitOn c) :
    c ∉ piece := by
  rw [← pieces_eq_splitOn] at hpiece
  intro hc
  have hdiffers := eq_false_of_mem_pieces hpiece hc
  simp at hdiffers

/-- The pieces have all other characters of the text. -/
theorem exists_mem_pieces_iff {c : Char} (hc : p c = false) :
    (∃ piece ∈ pieces p s, c ∈ piece) ↔ c ∈ s := by
  induction s with
  | nil => simp [pieces]
  | cons d rest ih =>
    rw [pieces]
    cases hpieces : pieces p rest with
    | nil => exact absurd hpieces (pieces_ne_nil p rest)
    | cons first others =>
      rw [hpieces, List.exists_mem_cons_iff] at ih
      by_cases hd : p d = true
      · have hne : c ≠ d := fun heq => by simp [← heq, hc] at hd
        rw [if_pos hd, List.exists_mem_cons_iff, List.exists_mem_cons_iff, ih]
        simp [hne]
      · rw [if_neg hd, List.exists_mem_cons_iff, List.mem_cons, List.mem_cons, or_assoc, ih]

/-- Words that are joined by a character of the class are the pieces again. -/
theorem filter_pieces_intercalate {separator : Char} (hseparator : p separator = true) {words : List (List Char)}
    (hwords : ∀ word ∈ words, word ≠ [] ∧ ∀ c ∈ word, p c = false) :
    (pieces p ([separator].intercalate words)).filter (fun piece => !piece.isEmpty) = words := by
  have hself : ∀ {word : List Char}, word ≠ [] ∧ (∀ c ∈ word, p c = false) →
      (word.splitOnP p).filter (fun piece => !piece.isEmpty) = [word] := by
    rintro word ⟨hne, hlacks⟩
    rw [List.splitOnP_eq_singleton hlacks]
    simp [hne]
  rw [pieces_eq_splitOnP]
  induction words with
  | nil => rfl
  | cons word rest ih =>
    obtain ⟨hword, hrest⟩ := List.forall_mem_cons.1 hwords
    cases rest with
    | nil => simpa using hself hword
    | cons next rest =>
      rw [List.intercalate_cons_cons, List.append_assoc, List.singleton_append,
        List.splitOnP_append_cons _ _ hseparator, List.filter_append, hself hword, ih hrest]
      rfl

/-- Flattening drops and adds blanks only. -/
theorem mem_flatten_iff {c : Char} (hc : isBlank c = false) (text : String) :
    c ∈ (flatten text).toList ↔ c ∈ text.toList := by
  have hspace : c ∉ " ".toList := by
    rintro hmem
    obtain rfl : c = ' ' := by simpa using hmem
    cases hc
  rw [flatten, String.toList_intercalate, mem_intercalate_iff hspace, ← exists_mem_pieces_iff hc, words,
    wordsOf]
  constructor
  · rintro ⟨part, hpart, hmem⟩
    simp only [List.map_map, List.mem_map, List.mem_filter, Function.comp_apply, String.toList_ofList] at hpart
    obtain ⟨piece, ⟨hpiece, -⟩, rfl⟩ := hpart
    exact ⟨piece, hpiece, hmem⟩
  · rintro ⟨piece, hpiece, hmem⟩
    refine ⟨piece, ?_, hmem⟩
    simp only [List.map_map, List.mem_map, List.mem_filter, Function.comp_apply, String.toList_ofList]
    exact ⟨piece, ⟨hpiece, by simpa using List.ne_nil_of_mem hmem⟩, rfl⟩

/-- A flattened text has no blanks but spaces. -/
theorem flatten_lacks (hspace : p ' ' = false) (hblank : ∀ c, p c = true → isBlank c = true)
    (text : String) : ∀ c ∈ (flatten text).toList, p c = false := by
  have hall : (flatten text).toList.all (fun c => !p c) = true := by
    rw [flatten, String.toList_intercalate]
    refine all_intercalate (by simp [hspace]) fun part hpart => ?_
    rw [words, List.map_map] at hpart
    obtain ⟨word, hword, rfl⟩ := List.mem_map.1 hpart
    rw [Function.comp_apply, String.toList_ofList, List.all_eq_true]
    intro c hc
    have hlacks := eq_false_of_mem_pieces (List.mem_of_mem_filter hword) hc
    by_contra hp
    have hpc : p c = true := by simpa using hp
    rw [hblank c hpc] at hlacks
    cases hlacks
  intro c hc
  have hlacks := List.all_eq_true.1 hall c hc
  simpa using hlacks

theorem afterLead?_append (lead rest : List Char) : afterLead? lead (lead ++ rest) = some rest := by
  induction lead with
  | nil => rfl
  | cons c lead ih => rw [List.cons_append, afterLead?, if_pos rfl, ih]

theorem eq_append_of_afterLead? {lead s rest : List Char} (hlead : afterLead? lead s = some rest) :
    s = lead ++ rest := by
  induction lead generalizing s with
  | nil => exact Option.some.inj hlead
  | cons l lead ih =>
    cases s with
    | nil => cases hlead
    | cons c s =>
      rw [afterLead?] at hlead
      split at hlead
      next heq => rw [heq, ih hlead, List.cons_append]
      next => cases hlead

theorem isSome_afterLead?_iff {lead s : List Char} : (afterLead? lead s).isSome = true ↔ lead <+: s := by
  rw [Option.isSome_iff_exists]
  constructor
  · rintro ⟨rest, hrest⟩
    exact ⟨rest, (eq_append_of_afterLead? hrest).symm⟩
  · rintro ⟨rest, rfl⟩
    exact ⟨rest, afterLead?_append lead rest⟩

/-- A text with every occurrence of one character replaced. -/
theorem toList_replace {old : String} {c : Char} (hold : old.toList = [c]) (text new : String) :
    (replace text old new).toList =
      text.toList.flatMap fun d => if d = c then new.toList else [d] := by
  rw [replace, String.toList_ofList, hold]
  induction text.toList with
  | nil => rfl
  | cons d rest ih =>
    rw [List.flatMap_cons, ← ih, replaceFrom]
    by_cases hd : d = c
    · simp [afterLead?, hd]
    · simp [afterLead?, hd, Ne.symm hd]

section Replacing

variable {old new : List Char}

/-- A text that does not hold what is to be replaced stays as it is. -/
theorem replaceFrom_of_not_infix (hold : ¬ old <:+: s) : replaceFrom old new 0 s = s := by
  induction s with
  | nil => rfl
  | cons c rest ih =>
    have hlead : ¬ (afterLead? old (c :: rest)).isSome = true := by
      rw [isSome_afterLead?_iff]
      exact fun hprefix => hold hprefix.isInfix
    rw [replaceFrom, if_neg hlead, ih]
    exact fun hlater => hold (hlater.trans (List.suffix_cons c rest).isInfix)

theorem prefix_append_cons_iff {c : Char} (hc : c ∉ old) (t : List Char) :
    old <+: s ++ c :: t ↔ old <+: s := by
  constructor
  · intro hprefix
    by_cases hlength : old.length ≤ s.length
    · exact List.prefix_of_prefix_length_le hprefix (List.prefix_append s _) hlength
    · have hlonger : s ++ [c] <+: old := by
        apply List.prefix_of_prefix_length_le _ hprefix
        · rw [List.length_append, List.length_singleton]
          omega
        · rw [← List.singleton_append (l := t), ← List.append_assoc]
          exact List.prefix_append _ t
      exact absurd (hlonger.subset (by simp)) hc
  · exact fun hprefix => hprefix.trans (List.prefix_append s _)

/-- A character that is not in what is replaced parts a text in two that are dealt with apart. -/
theorem replaceFrom_append_cons {c : Char} (hc : c ∉ old) (hold : old ≠ []) {skip : Nat}
    (hskip : skip ≤ s.length) (t : List Char) :
    replaceFrom old new skip (s ++ c :: t) =
      replaceFrom old new skip s ++ c :: replaceFrom old new 0 t := by
  induction s generalizing skip with
  | nil =>
    obtain rfl : skip = 0 := Nat.le_zero.1 hskip
    have hlead : ¬ (afterLead? old (c :: t)).isSome = true := by
      rw [isSome_afterLead?_iff, ← List.nil_append (c :: t), prefix_append_cons_iff hc]
      exact fun hprefix => hold (List.prefix_nil.1 hprefix)
    have hstep : replaceFrom old new 0 (c :: t) = c :: replaceFrom old new 0 t := by
      rw [replaceFrom, if_neg hlead]
    exact hstep
  | cons d rest ih =>
    rw [List.cons_append]
    cases skip with
    | succ left =>
      rw [replaceFrom, replaceFrom]
      exact ih (Nat.le_of_succ_le_succ hskip)
    | zero =>
      have hsame := prefix_append_cons_iff (s := d :: rest) hc t
      rw [List.cons_append, ← isSome_afterLead?_iff, ← isSome_afterLead?_iff] at hsame
      rw [replaceFrom, replaceFrom]
      by_cases hlead : (afterLead? old (d :: rest)).isSome = true
      · have hlength : old.length - 1 ≤ rest.length := by
          have hle := (isSome_afterLead?_iff.1 hlead).length_le
          rw [List.length_cons] at hle
          omega
        rw [if_pos (hsame.2 hlead), if_pos hlead, ih hlength, List.append_assoc]
      · rw [if_neg (fun hlonger => hlead (hsame.1 hlonger)), if_neg hlead, ih (Nat.zero_le _),
          List.cons_append]

end Replacing

end Text

end Tabsmith
