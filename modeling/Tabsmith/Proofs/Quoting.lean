import Tabsmith.Bash.Script
import Tabsmith.Fish.Script
import Tabsmith.Proofs.Text

/-!
Texts between the double quotes of bash and between the apostrophes of fish, read back by the rules of these
shells.
-/

namespace Tabsmith

/-- What comes of reading a string of a shell: its text and what follows the closing quote, or an expansion
that starts inside, or no closing quote, or no opening one. -/
inductive QuotedText where
  | closed (text rest : List Char)
  | expands
  | unclosed
  | unopened
deriving DecidableEq, Repr, Inhabited

/-- A string that has one more character at its start. -/
def QuotedText.push (c : Char) : QuotedText → QuotedText
  | closed text rest => closed (c :: text) rest
  | other => other

/-! ## Bash -/

namespace Bash

/-- Reading on inside double quotes. A backslash escapes `$`, a backquote, `"` and itself, and it goes away
with a line feed after it; before any other character it stands for itself. A `$` or a backquote that is not
escaped starts an expansion. -/
def readInside : List Char → QuotedText
  | [] => .unclosed
  | '"' :: rest => .closed [] rest
  | '\\' :: c :: rest =>
    if c = '\n' then readInside rest
    else if c = '$' || c = '`' || c = '"' || c = '\\' then (readInside rest).push c
    else ((readInside rest).push c).push '\\'
  | c :: rest => if c = '$' || c = '`' then .expands else (readInside rest).push c

/-- Reading a string between double quotes. -/
def readString : List Char → QuotedText
  | '"' :: rest => readInside rest
  | _ => .unopened

theorem readInside_of_active {c : Char} (hactive : isActive c = true) (rest : List Char) :
    readInside ('\\' :: c :: rest) = (readInside rest).push c := by
  have hc : ((c = '\\' ∨ c = '"') ∨ c = '$') ∨ c = '`' := by simpa [isActive] using hactive
  obtain ((rfl | rfl) | rfl) | rfl := hc <;> rfl

theorem readInside_of_not_active {c : Char} (hactive : isActive c = false) (rest : List Char) :
    readInside (c :: rest) = (readInside rest).push c := by
  have hc : ((c ≠ '\\' ∧ c ≠ '"') ∧ c ≠ '$') ∧ c ≠ '`' := by simpa [isActive] using hactive
  obtain ⟨⟨⟨hbackslash, hquote⟩, hdollar⟩, hbackquote⟩ := hc
  rw [readInside]
  · simp [hdollar, hbackquote]
  · exact hquote
  · exact fun _ _ heq => absurd heq hbackslash

/-- The first quote that is not escaped is the one after the text. -/
theorem readInside_escape (text rest : List Char) :
    readInside (text.flatMap escapeChar ++ '"' :: rest) = .closed text rest := by
  induction text with
  | nil => rfl
  | cons c text ih =>
    rw [List.flatMap_cons, List.append_assoc, escapeChar]
    cases hactive : isActive c with
    | true =>
      rw [if_pos rfl, List.cons_append, List.cons_append, List.nil_append, readInside_of_active hactive, ih]
      rfl
    | false =>
      rw [if_neg Bool.false_ne_true, List.cons_append, List.nil_append, readInside_of_not_active hactive, ih]
      rfl

/-- Words on the right of an assignment are their text, one space apart, inside its double quotes. -/
theorem toList_wordList (words : List String) :
    (wordList words).toList = ([' '].intercalate (words.map String.toList)).flatMap escapeChar := by
  have hescape : (words.map escape).map String.toList =
      (words.map String.toList).map (List.flatMap escapeChar) := by
    rw [List.map_map, List.map_map]
    exact List.map_congr_left fun word _ => String.toList_ofList
  rw [wordList, String.toList_intercalate, hescape, flatMap_intercalate]
  rfl

end Bash

/-! ## Fish -/

namespace Fish

/-- Reading on between apostrophes. A backslash escapes itself and an apostrophe, and before any other
character it stands for itself. -/
def readInside : List Char → QuotedText
  | [] => .unclosed
  | '\'' :: rest => .closed [] rest
  | '\\' :: c :: rest =>
    if c = '\\' || c = '\'' then (readInside rest).push c
    else ((readInside rest).push c).push '\\'
  | c :: rest => (readInside rest).push c

/-- Reading a string between apostrophes. -/
def readString : List Char → QuotedText
  | '\'' :: rest => readInside rest
  | _ => .unopened

/-- A character of a text between apostrophes. -/
def escapeChar (c : Char) : List Char :=
  if c = '\\' || c = '\'' then ['\\', c] else [c]

/-- The backslashes that come in for the apostrophes are not taken for backslashes of the text. -/
theorem toList_quote (text : String) :
    (quote text).toList = '\'' :: text.toList.flatMap escapeChar ++ ['\''] := by
  have hchar : ∀ c : Char, (if c = '\\' then ['\\', '\\'] else [c]).flatMap
      (fun d => if d = '\'' then ['\\', '\''] else [d]) = escapeChar c := by
    intro c
    by_cases hbackslash : c = '\\'
    · rw [hbackslash]
      rfl
    · by_cases happostrophe : c = '\''
      · rw [happostrophe]
        rfl
      · simp [escapeChar, hbackslash, happostrophe]
  have hreplaced : (Text.replace (Text.replace text "\\" "\\\\") "'" "\\'").toList =
      text.toList.flatMap escapeChar := by
    rw [Text.toList_replace (c := '\'') rfl, Text.toList_replace (c := '\\') rfl, List.flatMap_assoc]
    exact List.flatMap_congr fun c _ => hchar c
  rw [quote, String.toList_append, String.toList_append, hreplaced]
  rfl

theorem readInside_of_active {c : Char} (hactive : c = '\\' ∨ c = '\'') (rest : List Char) :
    readInside ('\\' :: c :: rest) = (readInside rest).push c := by
  obtain rfl | rfl := hactive <;> rfl

/-- The first apostrophe that is not escaped is the one after the text. -/
theorem readInside_escape (text rest : List Char) :
    readInside (text.flatMap escapeChar ++ '\'' :: rest) = .closed text rest := by
  induction text with
  | nil => rfl
  | cons c text ih =>
    rw [List.flatMap_cons, List.append_assoc, escapeChar]
    by_cases hactive : c = '\\' ∨ c = '\''
    · rw [if_pos (by simpa using hactive), List.cons_append, List.cons_append, List.nil_append,
        readInside_of_active hactive, ih]
      rfl
    · rw [if_neg (by simpa using hactive), List.cons_append, List.nil_append, readInside, ih]
      · rfl
      · exact fun heq => hactive (.inr heq)
      · exact fun _ _ heq => absurd (Or.inl heq) hactive

end Fish

/-- Between quotes a text is just itself, whatever it holds and whatever follows. Bash reads the string up to
the quote that was put after the text, comes upon no expansion in it, and has the text; so does fish. -/
theorem quoted_texts_read_back (text rest : String) :
    Bash.readString ("\"" ++ Bash.escape text ++ "\"" ++ rest).toList = .closed text.toList rest.toList ∧
      Fish.readString (Fish.quote text ++ rest).toList = .closed text.toList rest.toList := by
  constructor
  · have hwritten : ("\"" ++ Bash.escape text ++ "\"" ++ rest).toList =
        '"' :: (text.toList.flatMap Bash.escapeChar ++ '"' :: rest.toList) := by
      simp [Bash.escape]
    rw [hwritten]
    exact Bash.readInside_escape text.toList rest.toList
  · have hwritten : (Fish.quote text ++ rest).toList =
        '\'' :: (text.toList.flatMap Fish.escapeChar ++ '\'' :: rest.toList) := by
      simp [Fish.toList_quote]
    rw [hwritten]
    exact Fish.readInside_escape text.toList rest.toList

example : Bash.readString "\"\\$HOME\\\\\"; ls".toList = .closed "$HOME\\".toList "; ls".toList := by decide

example : Bash.readString "\"$HOME\"".toList = .expands := by decide

example : Fish.readString "'it's'".toList = .closed "it".toList "s'".toList := by decide

end Tabsmith
