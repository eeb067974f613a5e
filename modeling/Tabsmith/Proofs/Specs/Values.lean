import Tabsmith.Proofs.Acceptance.Small
import Tabsmith.Proofs.Reading.Parts
import Tabsmith.Proofs.Specs

/-!
The lists of values in specifications, read by the rules of the shell: blanks stand between the values, and a
backslash makes the next character just itself.
-/

namespace Tabsmith.Zsh

/-! ## Reading a list -/

/-- The pieces between the characters of a class that no backslash makes just themselves. -/
def escapedPieces (cuts : Char → Bool) : List Char → List (List Char)
  | [] => [[]]
  | ['\\'] => [[]]
  | '\\' :: c :: rest => (escapedPieces cuts rest).modifyHead (c :: ·)
  | c :: rest =>
    if cuts c then [] :: escapedPieces cuts rest else (escapedPieces cuts rest).modifyHead (c :: ·)

/-- What stands between the parentheses of a list. -/
def listText? : List Char → Option (List Char)
  | '(' :: s => if s.getLast? = some ')' then some s.dropLast else none
  | _ => none

/-- The pieces of a quoted list, with those that are empty. -/
def readPieces? (spec : String) : Option (List (List Char)) :=
  ((unquoted? spec).bind listText?).map (escapedPieces Text.isBlank)

/-- Those pieces that are not empty. -/
def filled (pieces : List (List Char)) : List (List Char) :=
  pieces.filter fun piece => !piece.isEmpty

/-- The values of a quoted list: as words always do, they have a character at least. -/
def readValues? (spec : String) : Option (List (List Char)) :=
  (readPieces? spec).map filled

/-- The values that a list is meant to have, on one line each. -/
def valueTexts (values : List String) : List (List Char) :=
  values.map fun v => oneLine v.toList

/-! ## Pieces and fields -/

/-- The pieces after the character that ends a field. -/
def laterPieces (cuts : Char → Bool) : List Char → List (List Char)
  | [] => []
  | _ :: rest => escapedPieces cuts rest

/-- The first piece is a field that goes up to the first cut. -/
theorem escapedPieces_eq (cuts : Char → Bool) (s : List Char) :
    escapedPieces cuts s = (readField cuts s).1 :: laterPieces cuts (readField cuts s).2 := by
  have hne : ∀ {c : Char} {rest : List Char}, (c = '\\' → rest = [] → False) →
      (∀ d more, c = '\\' → rest = d :: more → False) → c ≠ '\\' := by
    rintro c rest hlone hescape rfl
    cases rest with
    | nil => exact hlone rfl rfl
    | cons d more => exact hescape d more rfl rfl
  fun_induction escapedPieces cuts s with
  | case1 => rfl
  | case2 => rfl
  | case3 c rest ih =>
    rw [ih, readField_escaped]
    rfl
  | case4 c rest hlone hescape hc ih =>
    rw [readField_of_pos hc (hne hlone hescape)]
    rfl
  | case5 c rest hlone hescape hc ih =>
    rw [ih, readField_of_neg (by simpa using hc) (hne hlone hescape)]
    rfl

/-! ## Lists of guarded texts -/

/-- The values of a list, each of them behind a space. -/
def laterText (texts : List (List Char)) : List Char :=
  texts.flatMap fun text => ' ' :: guarded isGuarded text

theorem laterText_eq {texts : List (List Char)} (htexts : texts ≠ []) :
    laterText texts = ' ' :: [' '].intercalate (texts.map (guarded isGuarded)) := by
  rw [← List.singleton_append, append_intercalate [' '] (by simpa using htexts), List.flatMap_map, laterText]
  rfl

theorem isBlank_of_mem_head?_laterText {texts : List (List Char)} :
    ∀ c ∈ (laterText texts).head?, Text.isBlank c = true := by
  cases texts with
  | nil => simp [laterText]
  | cons text texts =>
    intro c hc
    obtain rfl : ' ' = c := by simpa [laterText] using hc
    decide

theorem laterPieces_laterText_cons (text : List Char) (texts : List (List Char)) :
    laterPieces Text.isBlank (laterText (text :: texts)) =
      escapedPieces Text.isBlank (guarded isGuarded text ++ laterText texts) := by
  rw [laterText, List.flatMap_cons]
  rfl

section

variable {text : List Char} {texts : List (List Char)}

theorem bracket_class : (fun c => isGuarded c && !Text.isBlank c) = isBracket := by
  funext c
  cases hc : isBracket c with
  | true => simp [isGuarded, hc, isBlank_of_isBracket hc]
  | false => simp [isGuarded, hc]

theorem readField_value (hbackslashes : BackslashesBefore isBracket text) :
    readField Text.isBlank (guarded isGuarded text ++ laterText texts) = (text, laterText texts) := by
  refine readField_guarded (by decide) (by decide) isBlank_of_mem_head?_laterText (fun c _ hc => ?_) ?_
  · simp [isGuarded, hc]
  · rwa [bracket_class]

theorem backslashesBefore_of_readField_value
    (hread : (readField Text.isBlank (guarded isGuarded text ++ laterText texts)).1 = text) :
    BackslashesBefore isBracket text := by
  have hbackslashes := (backslashesBefore_of_readField (by decide) (by decide) isBlank_of_mem_head?_laterText
    text 0 hread).2.2
  rwa [bracket_class] at hbackslashes

/-- The first piece of a list is its first value exactly if each backslash of this stands before a bracket, and
then the other values are the other pieces. -/
theorem pieces_laterText_eq_iff (texts : List (List Char)) :
    laterPieces Text.isBlank (laterText texts) = texts ↔ ∀ text ∈ texts, BackslashesBefore isBracket text := by
  induction texts with
  | nil => exact iff_of_true rfl (List.forall_mem_nil _)
  | cons text texts ih =>
    rw [laterPieces_laterText_cons, escapedPieces_eq, List.cons.injEq, List.forall_mem_cons]
    constructor
    · rintro ⟨hfirst, hlater⟩
      have hbackslashes := backslashesBefore_of_readField_value hfirst
      rw [readField_value hbackslashes] at hlater
      exact ⟨hbackslashes, ih.1 hlater⟩
    · rintro ⟨hbackslashes, hothers⟩
      rw [readField_value hbackslashes]
      exact ⟨rfl, ih.2 hothers⟩

/-- If the first piece of a list is empty, its first value is, or the list ends after this value's backslash. -/
theorem eq_nil_or_of_readField
    (hread : (readField Text.isBlank (guarded isGuarded text ++ laterText texts)).1 = []) :
    text = [] ∨ readField Text.isBlank (guarded isGuarded text ++ laterText texts) = ([], []) := by
  cases text with
  | nil => exact .inl rfl
  | cons c text =>
    right
    by_cases hc : c = '\\'
    · rw [hc, guarded_of_neg (by decide), List.cons_append] at hread ⊢
      cases hmore : guarded isGuarded text ++ laterText texts with
      | nil => rfl
      | cons d more =>
        rw [hmore, readField_escaped] at hread
        cases hread
    · rw [readField_guarded_cons hc fun hblank => by simp [isGuarded, hblank]] at hread
      cases hread

theorem ne_nil_of_filled_eq {pieces : List (List Char)} (hfilled : filled pieces = texts) (htext : text ∈ texts) :
    text ≠ [] := by
  rw [← hfilled, filled, List.mem_filter] at htext
  simpa using htext.2

theorem filled_laterText_eq_iff (texts : List (List Char)) :
    filled (laterPieces Text.isBlank (laterText texts)) = texts ↔
      ∀ text ∈ texts, text ≠ [] ∧ BackslashesBefore isBracket text := by
  constructor
  · intro hfilled
    induction texts with
    | nil => exact List.forall_mem_nil _
    | cons text texts ih =>
      have htext : text ≠ [] := ne_nil_of_filled_eq hfilled List.mem_cons_self
      rw [laterPieces_laterText_cons, escapedPieces_eq] at hfilled
      by_cases hfirst : (readField Text.isBlank (guarded isGuarded text ++ laterText texts)).1 = []
      · obtain rfl | hnone := eq_nil_or_of_readField hfirst
        · exact absurd rfl htext
        · rw [hnone] at hfilled
          cases hfilled
      · rw [filled, List.filter_cons_of_pos (by simpa using hfirst), List.cons.injEq] at hfilled
        obtain ⟨hfield, hlater⟩ := hfilled
        have hbackslashes := backslashesBefore_of_readField_value hfield
        rw [readField_value hbackslashes] at hlater
        exact List.forall_mem_cons.2 ⟨⟨htext, hbackslashes⟩, ih hlater⟩
  · intro hall
    rw [(pieces_laterText_eq_iff texts).2 fun text htext => (hall text htext).2, filled, List.filter_eq_self]
    exact fun text htext => by simpa using (hall text htext).1

theorem laterPieces_laterText (htexts : texts ≠ []) : laterPieces Text.isBlank (laterText texts) =
    escapedPieces Text.isBlank ([' '].intercalate (texts.map (guarded isGuarded))) := by
  rw [laterText_eq htexts, laterPieces]

theorem filled_pieces_eq_iff (texts : List (List Char)) :
    filled (escapedPieces Text.isBlank ([' '].intercalate (texts.map (guarded isGuarded)))) = texts ↔
      ∀ text ∈ texts, text ≠ [] ∧ BackslashesBefore isBracket text := by
  by_cases htexts : texts = []
  · subst htexts
    exact iff_of_true rfl (List.forall_mem_nil _)
  · rw [← laterPieces_laterText htexts, filled_laterText_eq_iff]

theorem pieces_eq_iff (texts : List (List Char)) :
    escapedPieces Text.isBlank ([' '].intercalate (texts.map (guarded isGuarded))) = texts ↔
      texts ≠ [] ∧ ∀ text ∈ texts, BackslashesBefore isBracket text := by
  by_cases htexts : texts = []
  · subst htexts
    exact iff_of_false (List.cons_ne_nil _ _) fun h => h.1 rfl
  · rw [← laterPieces_laterText htexts, pieces_laterText_eq_iff]
    exact (and_iff_right htexts).symm

end

/-! ## Which lists are read back -/

theorem listText?_of_valueList (values : List String) :
    (unquoted? (enclose (valueList values))).bind listText? =
      some ([' '].intercalate ((valueTexts values).map (guarded isGuarded))) := by
  have hquoted : (enclose (valueList values)).toList = quoted (valueListText values) := by
    rw [toList_enclose, toList_valueList, quoted]
  have htexts : (valueTexts values).map (guarded isGuarded) = values.map valueText := by
    rw [valueTexts, List.map_map]
    rfl
  rw [unquoted?_of_toList hquoted, Option.bind_some, valueListText, listText?, htexts]
  simp

/-- A list of values is read back as these values, on one line each, exactly if none of them is empty and each of
their backslashes stands before a bracket: a value gets backslashes before its brackets and its blanks, but not
before its own backslashes. Were empty pieces values too, only an empty list would be lost besides. -/
theorem value_list_reads_back_iff (values : List String) :
    (readValues? (enclose (valueList values)) = some (valueTexts values) ↔
        ∀ text ∈ valueTexts values, text ≠ [] ∧ BackslashesBefore isBracket text) ∧
      (readPieces? (enclose (valueList values)) = some (valueTexts values) ↔
        valueTexts values ≠ [] ∧ ∀ text ∈ valueTexts values, BackslashesBefore isBracket text) := by
  rw [readValues?, readPieces?, listText?_of_valueList, Option.map_some, Option.map_some, Option.some_inj,
    Option.some_inj]
  exact ⟨filled_pieces_eq_iff _, pieces_eq_iff _⟩

example : readValues? (enclose (valueList ["", "a b"])) = some ["a b".toList] := by decide

/-- The backslash in a value makes the letter after it just itself, and is gone. -/
theorem backslash_in_value_is_lost :
    let hint : Fields := [("type", .text "static"), ("values", .list [.text "a\\b"])]
    let path : Fields := [("name", .text "path"), ("completion", .object hint)]
    let run : Fields := [("name", .text "run"), ("arguments", .list [.object path])]
    let node : Fields := [("name", .text "tool"), ("commands", .list [.object run])]
    let a : Argument := { name := "path", completion := some { kind := .static, values := ["a\\b"] } }
    (checkDocument (.object node)).problems = [] ∧
      Program.ofDocument (.object node) =
        .ok { name := "tool", commands := [{ name := "run", arguments := [a] }] } ∧
      argumentSpec a (toString 1) = "'1:path:(a\\b)'" ∧ action a.completion = valueList ["a\\b"] ∧
      readValues? (enclose (valueList ["a\\b"])) = some ["ab".toList] ∧
      readValues? (enclose (valueList ["a\\b"])) ≠ some (valueTexts ["a\\b"]) := by
  intro hint path run node a
  have hhint : IsHint hint := isHint_of_values (List.cons_ne_nil "a\\b" [])
  have hpath : IsArgument path :=
    ⟨⟨"path", rfl, by decide⟩, .inl rfl, .inl rfl, .inl rfl, .inr ⟨hint, rfl, hhint⟩⟩
  have hrun : IsCommand run :=
    isCommand_of_arguments (by decide) (List.forall_mem_singleton.2 hpath)
  have hnode : IsProgram node :=
    isProgram_of_commands (by decide) (List.forall_mem_singleton.2 hrun) (by decide)
  have hreadRun : Command.ofDocument (.object run) = .ok { name := "run", arguments := [a] } := by
    rw [Command.ofDocument_object]
    rfl
  exact ⟨problems_checkDocument_eq_nil_iff.2 ⟨node, rfl, hnode⟩,
    Program.ofDocument_of_command "tool" (by decide) hreadRun, by decide, rfl, by decide, by decide⟩

end Tabsmith.Zsh
