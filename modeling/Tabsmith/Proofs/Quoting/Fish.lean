import Tabsmith.Proofs.Quoting
import Tabsmith.Text.Blank

/-!
The words of a command of fish, read by the rules of this shell. Words that stand one space apart, some of them
between apostrophes, are read back exactly if all others are plain words.
-/

namespace Tabsmith.Fish

/-! ## Reading a command -/

/-- What comes of reading a command: its words and what follows its line; or a character that is no part of a
word, outside of apostrophes; or no closing apostrophe. -/
inductive Words where
  | whole (words : List (List Char)) (rest : List Char)
  | special
  | unclosed
deriving DecidableEq, Repr, Inhabited

namespace Words

/-- Words that are all complete, with the one before them if it ends here. -/
def after (within : Bool) : Words → Words
  | whole words rest => whole (if within then [] :: words else words) rest
  | other => other

/-- Words of which the first one has more text at its start. -/
def prepend (lead : List Char) : Words → Words
  | whole (word :: words) rest => whole ((lead ++ word) :: words) rest
  | other => other

/-- The first word. -/
def first? : Words → Option (List Char)
  | whole words _ => words.head?
  | _ => none

end Words

/-- The characters between words. -/
def isSeparator (c : Char) : Bool :=
  c == ' ' || c == '\t'

/-- The characters that are no part of a word outside of apostrophes. -/
def isSpecial (c : Char) : Bool :=
  Text.isBlank c || [';', '&', '|', '<', '>', '#', '$', '(', ')', '\x7b', '\x7d', '[', ']', '*', '?', '~', '"',
    '\\'].contains c

/-- The characters that stand for themselves everywhere. -/
def isPlain (c : Char) : Bool :=
  !isSpecial c && c != '\''

/-- A character stands between apostrophes, or outside of them, within a word or not. -/
inductive Mode where
  | outside (within : Bool)
  | quoted
deriving DecidableEq, Repr, Inhabited

/-- Reading on in a command, which ends with its line. Between apostrophes a backslash escapes itself and an
apostrophe, and all other characters stand for themselves. -/
def read : Mode → List Char → Words
  | .outside within, [] => (Words.whole [] []).after within
  | .outside within, c :: rest =>
    if c = '\n' then (Words.whole [] rest).after within
    else if isSeparator c then (read (.outside false) rest).after within
    else if c = '\'' then read .quoted rest
    else if isSpecial c then .special
    else (read (.outside true) rest).prepend [c]
  | .quoted, [] => .unclosed
  | .quoted, '\'' :: rest => read (.outside true) rest
  | .quoted, '\\' :: '\\' :: rest => (read .quoted rest).prepend ['\\']
  | .quoted, '\\' :: '\'' :: rest => (read .quoted rest).prepend ['\'']
  | .quoted, c :: rest => (read .quoted rest).prepend [c]

/-- The command at the start of a text. -/
def readCommand (s : String) : Words :=
  read (.outside false) s.toList

/-- A word that needs no apostrophes. -/
def IsBare (word : String) : Prop :=
  word ≠ "" ∧ ∀ c ∈ word.toList, isPlain c = true

instance (word : String) : Decidable (IsBare word) :=
  have : Decidable (∀ c ∈ word.toList, isPlain c = true) := List.decidableBAll _ _
  inferInstanceAs (Decidable (_ ∧ _))

/-! ## Words -/

namespace Words

variable {lead text word rest : List Char} {words : List (List Char)} {w : Words}

theorem prepend_prepend (lead text : List Char) (w : Words) :
    (w.prepend text).prepend lead = w.prepend (lead ++ text) := by
  cases w with
  | whole words rest =>
    cases words with
    | nil => rfl
    | cons word words => simp [prepend]
  | special => rfl
  | unclosed => rfl

theorem prepend_nil (w : Words) : w.prepend [] = w := by
  cases w with
  | whole words rest => cases words <;> rfl
  | special => rfl
  | unclosed => rfl

theorem first?_prepend (lead : List Char) (w : Words) : (w.prepend lead).first? = w.first?.map (lead ++ ·) := by
  cases w with
  | whole words rest => cases words <;> rfl
  | special => rfl
  | unclosed => rfl

theorem exists_of_first?_prepend {c : Char} (hfirst : (w.prepend [c]).first? = some text) :
    ∃ word, w.first? = some word ∧ text = c :: word := by
  rw [first?_prepend] at hfirst
  obtain ⟨word, hword, rfl⟩ := Option.map_eq_some_iff.1 hfirst
  exact ⟨word, hword, rfl⟩

theorem after_false (w : Words) : w.after false = w := by
  cases w <;> rfl

theorem first?_after_true : (w.after true).first? = none ∨ (w.after true).first? = some [] := by
  cases w with
  | whole words rest => exact .inr rfl
  | special => exact .inl rfl
  | unclosed => exact .inl rfl

/-- A word that ends is the first of the words from it on. -/
theorem prepend_after_eq_whole_iff :
    (w.after true).prepend lead = whole (word :: words) rest ↔ lead = word ∧ w = whole words rest := by
  cases w with
  | whole others more => simp [after, prepend, and_assoc]
  | special => simp [after, prepend]
  | unclosed => simp [after, prepend]

end Words

theorem read_plain {c : Char} (hc : isPlain c = true) (within : Bool) (rest : List Char) :
    read (.outside within) (c :: rest) = (read (.outside true) rest).prepend [c] := by
  have hspecial : isSpecial c = false := by
    rw [isPlain, Bool.and_eq_true] at hc
    simpa using hc.1
  have hline : c ≠ '\n' := by
    rintro rfl
    cases hspecial
  have hseparator : ¬ isSeparator c = true := by
    intro hseparator
    obtain rfl | rfl : c = ' ' ∨ c = '\t' := by simpa [isSeparator] using hseparator
    all_goals cases hspecial
  have happostrophe : c ≠ '\'' := by
    rintro rfl
    cases hc
  rw [read, if_neg hline, if_neg hseparator, if_neg happostrophe, hspecial]
  rfl

/-- Between apostrophes a character closes them, or it is a backslash that escapes the next one, or it stands for
itself. -/
theorem read_quoted_cases (c : Char) (rest : List Char) :
    c = '\'' ∧ read .quoted (c :: rest) = read (.outside true) rest ∨
      (∃ d more, (d = '\\' ∨ d = '\'') ∧ c = '\\' ∧ rest = d :: more ∧
        read .quoted (c :: rest) = (read .quoted more).prepend [d]) ∨
      read .quoted (c :: rest) = (read .quoted rest).prepend [c] := by
  by_cases hcloses : c = '\''
  · rw [hcloses]
    exact .inl ⟨rfl, rfl⟩
  · by_cases hescapes : c = '\\' ∧ ∃ d more, (d = '\\' ∨ d = '\'') ∧ rest = d :: more
    · obtain ⟨rfl, d, more, hd, rfl⟩ := hescapes
      refine .inr (.inl ⟨d, more, hd, rfl, rfl, ?_⟩)
      obtain rfl | rfl := hd <;> rfl
    · refine .inr (.inr ?_)
      rw [read]
      · exact hcloses
      · exact fun more hc hrest => hescapes ⟨hc, '\\', more, .inl rfl, hrest⟩
      · exact fun more hc hrest => hescapes ⟨hc, '\'', more, .inr rfl, hrest⟩

/-! ## Plain words -/

/-- What may follow a word that stands without apostrophes: the end of the line, or a plain character after a
space. -/
def Follows (tail : List Char) : Prop :=
  (∃ rest, tail = '\n' :: rest) ∨ ∃ c rest, isPlain c = true ∧ tail = ' ' :: c :: rest

/-- The characters that the reading of a word may be behind at. -/
def isMark (c : Char) : Bool :=
  isSeparator c || c == '\'' || c == '\\'

theorem isPlain_of_isMark {c : Char} (hc : isMark c = true) : isPlain c = false := by
  have hc : ((c = ' ' ∨ c = '\t') ∨ c = '\'') ∨ c = '\\' := by simpa [isMark, isSeparator] using hc
  obtain ((rfl | rfl) | rfl) | rfl := hc <;> rfl

theorem first?_after_true_ne {w : Words} {word : List Char} (hword : word ≠ []) :
    (w.after true).first? ≠ some word := by
  intro hfirst
  obtain hnone | hempty := w.first?_after_true
  · rw [hnone] at hfirst
    cases hfirst
  · rw [hempty] at hfirst
    exact hword (Option.some.inj hfirst).symm

/-- Outside of apostrophes a word that is not empty goes on with a plain character, or a mark was passed over. -/
theorem cases_of_first?_read {within : Bool} {c : Char} {rest word : List Char} (hword : word ≠ [])
    (hfirst : (read (.outside within) (c :: rest)).first? = some word) :
    (isMark c = true ∧ ∃ mode, (read mode rest).first? = some word) ∨
      isPlain c = true ∧ ∃ more, (read (.outside true) rest).first? = some more ∧ word = c :: more := by
  rw [read] at hfirst
  split at hfirst
  next =>
    cases within with
    | false => cases hfirst
    | true => cases first?_after_true_ne hword hfirst
  split at hfirst
  next hseparator =>
    cases within with
    | false =>
      rw [Words.after_false] at hfirst
      exact .inl ⟨by simp [isMark, hseparator], _, hfirst⟩
    | true => cases first?_after_true_ne hword hfirst
  split at hfirst
  next happostrophe => exact .inl ⟨by simp [isMark, happostrophe], _, hfirst⟩
  split at hfirst
  next => cases hfirst
  next happostrophe hspecial =>
    exact .inr ⟨by simp [isPlain, hspecial, happostrophe], Words.exists_of_first?_prepend hfirst⟩

section Behind

variable {tail pending : List Char}

theorem Follows.head_eq {c : Char} {rest : List Char} (htail : Follows (c :: rest)) : c = '\n' ∨ c = ' ' := by
  obtain ⟨_, heq⟩ | ⟨_, _, _, heq⟩ := htail
  · exact .inl (List.cons.inj heq).1
  · exact .inr (List.cons.inj heq).1

theorem first?_read_tail_ne (htail : Follows tail) (mode : Mode) (hpending : pending ≠ [])
    (hmarks : ∀ c ∈ pending, isMark c = true) : (read mode tail).first? ≠ some pending := by
  intro hfirst
  have hplain : ∀ c ∈ pending, isPlain c = false := fun c hc => isPlain_of_isMark (hmarks c hc)
  obtain ⟨rest, rfl⟩ | ⟨c, rest, hc, rfl⟩ := htail
  · cases mode with
    | outside within => obtain ⟨hline, _⟩ | ⟨hline, _⟩ := cases_of_first?_read hpending hfirst <;> cases hline
    | quoted =>
      obtain ⟨word, _, rfl⟩ := Words.exists_of_first?_prepend (c := '\n') hfirst
      cases hmarks '\n' List.mem_cons_self
  · cases mode with
    | outside within =>
      change ((read (.outside false) (c :: rest)).after within).first? = _ at hfirst
      cases within with
      | false =>
        rw [Words.after_false, read_plain hc] at hfirst
        obtain ⟨word, _, rfl⟩ := Words.exists_of_first?_prepend hfirst
        rw [hplain c List.mem_cons_self] at hc
        cases hc
      | true => exact first?_after_true_ne hpending hfirst
    | quoted =>
      obtain ⟨word, hword, rfl⟩ := Words.exists_of_first?_prepend (c := ' ') hfirst
      obtain ⟨rfl, _⟩ | ⟨_, _, _, rfl, _⟩ | hread := read_quoted_cases c rest
      · cases hc
      · cases hc
      · rw [hread] at hword
        obtain ⟨more, _, rfl⟩ := Words.exists_of_first?_prepend hword
        rw [hplain c (by simp)] at hc
        cases hc

/-- A reading that is behind by some marks never catches up with the text: each mark of the text adds one to
those that are missing from the word, or takes the place of one. -/
theorem first?_read_ne (htail : Follows tail) (mode : Mode) (hpending : pending ≠ [])
    (hmarks : ∀ c ∈ pending, isMark c = true) (text : List Char) :
    (read mode (text ++ tail)).first? ≠ some (pending ++ text) := by
  induction hlength : text.length using Nat.strongRecOn generalizing mode pending text with
  | _ length ih =>
  intro hfirst
  cases text with
  | nil =>
    rw [List.append_nil] at hfirst
    exact first?_read_tail_ne htail mode hpending hmarks hfirst
  | cons c text =>
    obtain ⟨mark, marks, rfl⟩ := List.exists_cons_of_ne_nil hpending
    obtain ⟨hmark, hmarks'⟩ := List.forall_mem_cons.1 hmarks
    -- A mark that adds nothing to the word is one more that is missing from it.
    have hskipped : isMark c = true → ∀ mode,
        (read mode (text ++ tail)).first? ≠ some (mark :: marks ++ c :: text) := by
      intro hc mode
      rw [List.append_cons]
      refine ih text.length (by simp [← hlength]) mode (List.cons_ne_nil _ _) ?_ text rfl
      exact List.forall_mem_append.2 ⟨hmarks, List.forall_mem_singleton.2 hc⟩
    rw [List.cons_append] at hfirst
    cases mode with
    | outside within =>
      obtain ⟨hc, mode, hfirst⟩ | ⟨hc, _, _, hword⟩ := cases_of_first?_read (List.cons_ne_nil _ _) hfirst
      · exact hskipped hc mode hfirst
      · obtain ⟨rfl, _⟩ := List.cons.inj hword
        rw [isPlain_of_isMark hmark] at hc
        cases hc
    | quoted =>
      obtain ⟨rfl, hread⟩ | ⟨d, more, hd, rfl, hnext, hread⟩ | hread := read_quoted_cases c (text ++ tail)
      · rw [hread] at hfirst
        exact hskipped rfl _ hfirst
      · rw [hread] at hfirst
        obtain ⟨word, hword, hfirst'⟩ := Words.exists_of_first?_prepend hfirst
        rw [List.cons_append, List.cons.injEq] at hfirst'
        obtain ⟨rfl, rfl⟩ := hfirst'
        cases text with
        | nil =>
          obtain rfl : tail = mark :: more := hnext
          obtain rfl | rfl := htail.head_eq <;> simp at hd
        | cons e text =>
          rw [List.cons_append, List.cons.injEq] at hnext
          obtain ⟨rfl, rfl⟩ := hnext
          rw [List.append_cons, List.append_cons] at hword
          have hshorter : text.length < length := by
            rw [← hlength, List.length_cons, List.length_cons]
            omega
          refine ih text.length hshorter .quoted (by simp) ?_ text rfl hword
          exact List.forall_mem_append.2 ⟨List.forall_mem_append.2 ⟨hmarks', List.forall_mem_singleton.2 rfl⟩,
            List.forall_mem_singleton.2 hmark⟩
      · rw [hread] at hfirst
        obtain ⟨word, hword, hfirst'⟩ := Words.exists_of_first?_prepend hfirst
        rw [List.cons_append, List.cons.injEq] at hfirst'
        obtain ⟨rfl, rfl⟩ := hfirst'
        rw [List.append_cons] at hword
        refine ih text.length (by simp [← hlength]) .quoted (by simp) ?_ text rfl hword
        exact List.forall_mem_append.2 ⟨hmarks', List.forall_mem_singleton.2 hmark⟩

/-- A word that stands without apostrophes and is read as it is, is plain. -/
theorem isPlain_of_first?_read (htail : Follows tail) {within : Bool} {text : List Char}
    (hfirst : (read (.outside within) (text ++ tail)).first? = some text) :
    ∀ c ∈ text, isPlain c = true := by
  induction text generalizing within with
  | nil => exact List.forall_mem_nil _
  | cons c text ih =>
    obtain ⟨hc, mode, hfirst⟩ | ⟨hc, _, hrest, hword⟩ := cases_of_first?_read (List.cons_ne_nil _ _) hfirst
    · exact absurd hfirst
        (first?_read_ne htail mode (List.cons_ne_nil c []) (List.forall_mem_singleton.2 hc) text)
    · obtain ⟨_, rfl⟩ := List.cons.inj hword
      exact List.forall_mem_cons.2 ⟨hc, ih hrest⟩

/-- No word is read where there is none. -/
theorem first?_read_tail_ne_nil (htail : Follows tail) : (read (.outside false) tail).first? ≠ some [] := by
  intro hfirst
  obtain ⟨rest, rfl⟩ | ⟨c, rest, hc, rfl⟩ := htail
  · cases hfirst
  · change ((read (.outside false) (c :: rest)).after false).first? = _ at hfirst
    rw [Words.after_false, read_plain hc] at hfirst
    obtain ⟨_, _, hword⟩ := Words.exists_of_first?_prepend hfirst
    cases hword

theorem isBare_of_first?_read (htail : Follows tail) {word : String}
    (hfirst : (read (.outside false) (word.toList ++ tail)).first? = some word.toList) : IsBare word := by
  refine ⟨?_, isPlain_of_first?_read htail hfirst⟩
  rintro rfl
  exact first?_read_tail_ne_nil htail hfirst

end Behind

theorem read_of_plain {text : List Char} (htext : ∀ c ∈ text, isPlain c = true) (rest : List Char) :
    read (.outside true) (text ++ rest) = (read (.outside true) rest).prepend text := by
  induction text with
  | nil => exact (Words.prepend_nil _).symm
  | cons c text ih =>
    obtain ⟨hc, htext⟩ := List.forall_mem_cons.1 htext
    rw [List.cons_append, read_plain hc, ih htext, Words.prepend_prepend, List.singleton_append]

/-- A word without apostrophes is just itself. -/
theorem read_bare {word : String} (hword : IsBare word) (rest : List Char) :
    read (.outside false) (word.toList ++ rest) = (read (.outside true) rest).prepend word.toList := by
  obtain ⟨hne, hplain⟩ := hword
  obtain ⟨c, more, hchars⟩ := List.exists_cons_of_ne_nil (mt String.toList_eq_nil_iff.1 hne)
  rw [hchars] at hplain ⊢
  obtain ⟨hc, hmore⟩ := List.forall_mem_cons.1 hplain
  rw [List.cons_append, read_plain hc, read_of_plain hmore, Words.prepend_prepend, List.singleton_append]

/-! ## Texts between apostrophes -/

theorem read_escapeChar (c : Char) (rest : List Char) :
    read .quoted (escapeChar c ++ rest) = (read .quoted rest).prepend [c] := by
  rw [escapeChar]
  split
  next hactive =>
    obtain rfl | rfl : c = '\\' ∨ c = '\'' := by simpa using hactive
    all_goals rfl
  next hactive =>
    obtain ⟨rfl, _⟩ | ⟨_, _, _, rfl, _⟩ | hread := read_quoted_cases c rest
    · cases hactive rfl
    · cases hactive rfl
    · exact hread

theorem read_escape (text rest : List Char) :
    read .quoted (text.flatMap escapeChar ++ rest) = (read .quoted rest).prepend text := by
  induction text with
  | nil => exact (Words.prepend_nil _).symm
  | cons c text ih =>
    rw [List.flatMap_cons, List.append_assoc, read_escapeChar, ih, Words.prepend_prepend, List.singleton_append]

/-- A text between apostrophes is just itself. -/
theorem read_quote (text : String) (rest : List Char) :
    read (.outside false) ((quote text).toList ++ rest) = (read (.outside true) rest).prepend text.toList := by
  have hopened : read (.outside false) ((quote text).toList ++ rest) =
      read .quoted (text.toList.flatMap escapeChar ++ '\'' :: rest) := by
    rw [toList_quote, List.append_assoc]
    rfl
  rw [hopened, read_escape]
  rfl

/-! ## The tokens of a line -/

/-- A word of a line: it stands there as it is, or between apostrophes. -/
inductive Token where
  | bare (word : String)
  | quoted (word : String)
deriving DecidableEq, Repr, Inhabited

/-- A token as it stands in a line. -/
def Token.text : Token → String
  | bare word => word
  | quoted word => quote word

/-- The word that a token is meant to be. -/
def Token.word : Token → String
  | bare word => word
  | quoted word => word

/-- A token that starts with a plain character. -/
def Token.StartsPlain (token : Token) : Prop :=
  ∃ c more, isPlain c = true ∧ token.text.toList = c :: more

/-- Each word that stands as it is, is a plain word, or the last one, or the next word starts with a plain
character. -/
def Spaced : List Token → Prop
  | [] => True
  | .quoted _ :: rest => Spaced rest
  | .bare word :: rest => (IsBare word ∨ ∀ next ∈ rest.head?, next.StartsPlain) ∧ Spaced rest

theorem IsBare.startsPlain {word : String} (hword : IsBare word) : (Token.bare word).StartsPlain := by
  obtain ⟨hne, hplain⟩ := hword
  obtain ⟨c, more, hchars⟩ := List.exists_cons_of_ne_nil (mt String.toList_eq_nil_iff.1 hne)
  exact ⟨c, more, hplain c (by simp [hchars]), hchars⟩

theorem spaced_of_forall {tokens : List Token} (htokens : ∀ word, .bare word ∈ tokens → IsBare word) :
    Spaced tokens := by
  induction tokens with
  | nil => trivial
  | cons token tokens ih =>
    have hrest := ih fun word hword => htokens word (List.mem_cons_of_mem token hword)
    cases token with
    | bare word => exact ⟨.inl (htokens word List.mem_cons_self), hrest⟩
    | quoted word => exact hrest

/-- Tokens behind a space each, up to the end of the line, and what follows the line. -/
def spread (tokens : List Token) (rest : List Char) : List Char :=
  tokens.flatMap (fun token => ' ' :: token.text.toList) ++ '\n' :: rest

theorem spread_cons (token : Token) (tokens : List Token) (rest : List Char) :
    spread (token :: tokens) rest = ' ' :: (token.text.toList ++ spread tokens rest) := by
  rw [spread, List.flatMap_cons, List.append_assoc]
  rfl

/-- A word ends where the next token comes. -/
theorem read_spread (tokens : List Token) (rest : List Char) :
    read (.outside true) (spread tokens rest) = (read (.outside false) (spread tokens rest)).after true := by
  cases tokens with
  | nil => rfl
  | cons token tokens =>
    rw [spread_cons]
    change (read (.outside false) _).after true = ((read (.outside false) _).after false).after true
    rw [Words.after_false]

theorem follows_spread {tokens : List Token} (hnext : ∀ next ∈ tokens.head?, next.StartsPlain)
    (rest : List Char) : Follows (spread tokens rest) := by
  cases tokens with
  | nil => exact .inl ⟨rest, rfl⟩
  | cons next tokens =>
    obtain ⟨c, more, hc, hchars⟩ := hnext next rfl
    refine .inr ⟨c, more ++ spread tokens rest, hc, ?_⟩
    rw [spread_cons, hchars, List.cons_append]

/-- Tokens are read as the words that they are meant to be exactly if those that stand as they are, are plain
words. -/
theorem read_spread_iff {tokens : List Token} (hspaced : Spaced tokens) (rest : List Char) :
    read (.outside false) (spread tokens rest) = .whole (tokens.map fun token => token.word.toList) rest ↔
      ∀ word, .bare word ∈ tokens → IsBare word := by
  induction tokens with
  | nil => simp [spread, read, Words.after]
  | cons token tokens ih =>
    rw [spread_cons]
    change (read (.outside false) _).after false = _ ↔ _
    rw [Words.after_false, List.map_cons]
    cases token with
    | quoted word =>
      have hread : read (.outside false) ((quote word).toList ++ spread tokens rest) =
          ((read (.outside false) (spread tokens rest)).after true).prepend word.toList := by
        rw [read_quote, read_spread]
      change read (.outside false) ((quote word).toList ++ _) = .whole (word.toList :: _) rest ↔ _
      rw [hread, Words.prepend_after_eq_whole_iff, ih hspaced]
      simp
    | bare word =>
      obtain ⟨hword, hspaced⟩ := hspaced
      change read (.outside false) (word.toList ++ _) = .whole (word.toList :: _) rest ↔ _
      by_cases hbare : IsBare word
      · rw [read_bare hbare, read_spread, Words.prepend_after_eq_whole_iff, ih hspaced]
        simp [hbare]
      · have hfollows := follows_spread (hword.resolve_left hbare) rest
        refine ⟨fun hread => absurd (isBare_of_first?_read hfollows ?_) hbare, fun hall => ?_⟩
        · rw [hread]
          rfl
        · exact absurd (hall word List.mem_cons_self) hbare

end Tabsmith.Fish
