import Tabsmith.Proofs.Text
import Tabsmith.Zsh.Spec

/-!
The words of zsh, read by the rules of this shell. Whatever the texts of a program hold, the entry of a
command and the specification of an argument are one word each, with nothing in it for the shell to expand.
-/

namespace Tabsmith.Zsh

/-! ## Reading a word -/

/-- What comes of reading a word: its text without quotes, and what follows it; or a character that the shell
expands; or no end, as a quote is still open or nothing follows a backslash. -/
inductive Word where
  | whole (text rest : List Char)
  | expands
  | unclosed
deriving DecidableEq, Repr, Inhabited

/-- A word with more text at its start. -/
def Word.prepend (lead : List Char) : Word → Word
  | whole text rest => whole (lead ++ text) rest
  | other => other

/-- A character of a word stands between apostrophes, or it is bare. -/
inductive Mode where
  | bare | quoted
deriving DecidableEq, Repr, Inhabited

/-- The bare characters that end a word. -/
def endsWord (c : Char) : Bool :=
  [' ', '\t', '\n', ';', '&', '|', '<', '>', '(', ')'].contains c

/-- The bare characters that stand for something else than themselves. -/
def isActive (c : Char) : Bool :=
  ['$', '`', '"', '*', '?', '[', ']', '{', '}', '~', '=', '#', '^', '!'].contains c

/-- Reading on in a word. Between apostrophes every other character is just itself. Outside of them a backslash
makes a character just itself, and goes away with a line feed. -/
def read : Mode → List Char → Word
  | .bare, [] => .whole [] []
  | .bare, ['\\'] => .unclosed
  | .bare, '\\' :: c :: rest =>
    if c = '\n' then read .bare rest else (read .bare rest).prepend [c]
  | .bare, c :: rest =>
    if c = '\'' then read .quoted rest
    else if endsWord c then .whole [] (c :: rest)
    else if isActive c then .expands
    else (read .bare rest).prepend [c]
  | .quoted, [] => .unclosed
  | .quoted, c :: rest =>
    if c = '\'' then read .bare rest else (read .quoted rest).prepend [c]

/-- The word that a text starts with. -/
def readWord (s : String) : Word :=
  read .bare s.toList

theorem Word.prepend_prepend (lead text : List Char) (word : Word) :
    (word.prepend text).prepend lead = word.prepend (lead ++ text) := by
  cases word <;> simp [prepend]

theorem Word.prepend_nil (word : Word) : word.prepend [] = word := by
  cases word <;> rfl

theorem Word.prepend_eq_whole_iff {lead text rest : List Char} {word : Word} :
    word.prepend lead = .whole text rest ↔ ∃ more, word = .whole more rest ∧ text = lead ++ more := by
  cases word with
  | whole more after =>
    simp only [prepend, whole.injEq]
    constructor
    · rintro ⟨rfl, rfl⟩
      exact ⟨more, ⟨rfl, rfl⟩, rfl⟩
    · rintro ⟨_, ⟨rfl, rfl⟩, rfl⟩
      exact ⟨rfl, rfl⟩
  | expands => simp [prepend]
  | unclosed => simp [prepend]

/-! ## Texts between apostrophes -/

/-- A text between apostrophes, with its own ones escaped. -/
def quoted (text : List Char) : List Char :=
  '\'' :: (text.flatMap quotedChar ++ ['\''])

theorem read_quotedChar (c : Char) (rest : List Char) :
    read .quoted (quotedChar c ++ rest) = (read .quoted rest).prepend [c] := by
  rw [quotedChar]
  by_cases hc : c = '\''
  · rw [if_pos hc, hc]
    rfl
  · rw [if_neg hc, List.singleton_append, read, if_neg hc]

theorem read_flatMap_quotedChar (text rest : List Char) :
    read .quoted (text.flatMap quotedChar ++ rest) = (read .quoted rest).prepend text := by
  induction text with
  | nil => exact (Word.prepend_nil _).symm
  | cons c text ih =>
    rw [List.flatMap_cons, List.append_assoc, read_quotedChar, ih, Word.prepend_prepend, List.singleton_append]

/-- A quoted text is just itself, and the word goes on after it. -/
theorem read_quoted (text rest : List Char) :
    read .bare (quoted text ++ rest) = (read .bare rest).prepend text := by
  have hopened : read .bare (quoted text ++ rest) =
      read .quoted (text.flatMap quotedChar ++ '\'' :: rest) := by
    rw [quoted, List.cons_append, List.append_assoc]
    rfl
  rw [hopened, read_flatMap_quotedChar]
  rfl

theorem flatMap_quotedChar_of_lacks {text : List Char} (hlacks : '\'' ∉ text) :
    text.flatMap quotedChar = text := by
  have hchar : ∀ c ∈ text, quotedChar c = [c] := by
    intro c hc
    have hdiffers : c ≠ '\'' := fun heq => hlacks (heq ▸ hc)
    exact if_neg hdiffers
  rw [List.flatMap_congr hchar, List.flatMap_singleton']

/-! ## The texts that are quoted -/

/-- A text without its carriage returns, and with spaces for its line feeds. -/
def oneLine (text : List Char) : List Char :=
  (text.filter (· ≠ '\r')).map fun c => if c = '\n' then ' ' else c

/-- A text with a backslash before each character of a class. -/
def guarded (p : Char → Bool) (text : List Char) : List Char :=
  text.flatMap fun c => if p c then ['\\', c] else [c]

def isBracket (c : Char) : Bool :=
  c == '[' || c == ']'

/-- The characters that get a backslash in a value. -/
def isGuarded (c : Char) : Bool :=
  isBracket c || Text.isBlank c

/-- A text with backslashes before its brackets. -/
def descriptionText (s : String) : List Char :=
  guarded isBracket (oneLine s.toList)

/-- A name with backslashes before its brackets and colons. -/
def nameText (s : String) : List Char :=
  guarded (fun c => isBracket c || c == ':') (oneLine s.toList)

/-- A value with backslashes before its brackets and blanks. -/
def valueText (s : String) : List Char :=
  guarded isGuarded (oneLine s.toList)

/-- The values of a list, between parentheses. -/
def valueListText (values : List String) : List Char :=
  '(' :: ([' '].intercalate (values.map valueText) ++ [')'])

/-- The files that match a glob. -/
def matchingText (glob : List Char) : List Char :=
  "_files -g \"".toList ++ glob ++ ['"']

/-- The action for a hint. A command stands in it as it is. -/
def actionText : Option Hint → List Char
  | none => "_files".toList
  | some hint =>
    match hint.kind with
    | .static => valueListText hint.values
    | .directory => "_directories".toList
    | .command | .dynamic => "($(".toList ++ hint.command.toList ++ "))".toList
    | .file =>
      if hint.pattern ≠ "" then matchingText (descriptionText hint.pattern)
      else match hint.extensions with
        | [] => "_files".toList
        | [one] => matchingText ("*.".toList ++ descriptionText one)
        | several =>
          matchingText ("*.(".toList ++ ['|'].intercalate (several.map descriptionText) ++ [')'])

/-- The place of an argument: the number of its position, or a star. -/
def placeText (a : Argument) (position : Nat) : List Char :=
  if a.variadic then ['*'] else (toString position).toList

/-- The text that describes an argument: its description, or else its name. -/
def caption (a : Argument) : String :=
  if a.description = "" then a.name else a.description

/-- The specification of an argument. -/
def argumentText (a : Argument) (position : Nat) : List Char :=
  placeText a position ++ (if a.required then [':'] else [':', ':']) ++
    descriptionText (caption a) ++ ':' :: actionText a.completion

/-- The entry of a command. -/
def entryText (c : Command) : List Char :=
  nameText c.name ++ ':' :: descriptionText c.description

/-! ### What is written for them -/

theorem flatMap_descriptionChar (text : List Char) :
    text.flatMap descriptionChar = (guarded isBracket (oneLine text)).flatMap quotedChar := by
  induction text with
  | nil => rfl
  | cons c text ih =>
    rw [List.flatMap_cons, ih, descriptionChar]
    by_cases hreturn : c = '\r'
    · rw [if_pos hreturn, hreturn]
      rfl
    · by_cases hfeed : c = '\n'
      · rw [if_neg hreturn, if_pos hfeed, hfeed]
        rfl
      · have hline : oneLine (c :: text) = c :: oneLine text := by simp [oneLine, hreturn, hfeed]
        rw [if_neg hreturn, if_neg hfeed, hline, guarded, guarded, List.flatMap_cons, List.flatMap_append]
        congr 1
        by_cases hbracket : c = '[' ∨ c = ']'
        · obtain rfl | rfl := hbracket <;> rfl
        · have hno : isBracket c = false := by simpa [isBracket] using hbracket
          simp [hno, not_or.1 hbracket]

/-- Backslashes may come in before or after a text is quoted. -/
theorem guarded_flatMap_quotedChar {p : Char → Bool} (happostrophe : p '\'' = false)
    (hbackslash : p '\\' = false) (hbracket : ∀ c, isBracket c = true → p c = false) (text : List Char) :
    guarded p ((guarded isBracket text).flatMap quotedChar) =
      (guarded (fun c => isBracket c || p c) text).flatMap quotedChar := by
  rw [guarded, guarded, guarded, List.flatMap_assoc, List.flatMap_assoc, List.flatMap_assoc]
  apply List.flatMap_congr
  intro c _
  cases hc : isBracket c with
  | true =>
    have hp := hbracket c hc
    have hquote : c ≠ '\'' := by rintro rfl; cases hc
    simp [quotedChar, hp, hbackslash, hquote]
  | false =>
    by_cases hquote : c = '\''
    · subst hquote
      simp [quotedChar, apostrophe, happostrophe, hbackslash]
    · cases hp : p c <;> simp [quotedChar, hp, hquote]

theorem toList_escapeDescription (s : String) :
    (escapeDescription s).toList = (descriptionText s).flatMap quotedChar := by
  rw [escapeDescription, String.toList_ofList, flatMap_descriptionChar]
  rfl

theorem isBlank_of_isBracket {c : Char} (hc : isBracket c = true) : Text.isBlank c = false := by
  have hc : c = '[' ∨ c = ']' := by simpa [isBracket] using hc
  obtain rfl | rfl := hc <;> decide

theorem toList_escapeValue (s : String) : (escapeValue s).toList = (valueText s).flatMap quotedChar := by
  have hguard := guarded_flatMap_quotedChar (p := Text.isBlank) (by decide) (by decide)
    (fun _ => isBlank_of_isBracket) (oneLine s.toList)
  rw [escapeValue, String.toList_ofList, toList_escapeDescription]
  exact hguard

theorem toList_escapeName (s : String) : (escapeName s).toList = (nameText s).flatMap quotedChar := by
  have hcolon : ∀ c, isBracket c = true → (c == ':') = false := by
    intro c hc
    have hc : c = '[' ∨ c = ']' := by simpa [isBracket] using hc
    obtain rfl | rfl := hc <;> rfl
  have hguard := guarded_flatMap_quotedChar (p := (· == ':')) rfl rfl hcolon (oneLine s.toList)
  have hchar : guardColon = fun c => if (c == ':') = true then ['\\', c] else [c] := by
    funext c
    simp [guardColon]
  rw [escapeName, String.toList_ofList, toList_escapeDescription, nameText, ← hguard, hchar]
  rfl

theorem toList_enclose (s : String) : (enclose s).toList = '\'' :: (s.toList ++ ['\'']) := by
  rw [enclose, String.toList_append, String.toList_append]
  rfl

theorem toList_valueList (values : List String) :
    (valueList values).toList = (valueListText values).flatMap quotedChar := by
  have hvalues : (values.map escapeValue).map String.toList =
      (values.map valueText).map (List.flatMap quotedChar) := by
    rw [List.map_map, List.map_map]
    exact List.map_congr_left fun v _ => toList_escapeValue v
  rw [valueList, String.toList_append, String.toList_append, String.toList_intercalate, hvalues,
    valueListText, List.flatMap_cons, List.flatMap_append, flatMap_intercalate]
  rfl

theorem toList_filesMatching {glob : String} {text : List Char}
    (hglob : glob.toList = text.flatMap quotedChar) :
    (filesMatching glob).toList = (matchingText text).flatMap quotedChar := by
  have hstart : "_files -g \"".toList = "_files -g \"".toList.flatMap quotedChar :=
    (flatMap_quotedChar_of_lacks (by decide)).symm
  unfold filesMatching matchingText
  simp only [String.toList_append, List.flatMap_append]
  exact congrArg₂ (· ++ ·) (congrArg₂ (· ++ ·) hstart hglob) rfl

theorem toList_extensionGlob (extensions : List String) :
    (("*.(" ++ "|".intercalate (extensions.map escapeDescription) ++ ")").toList) =
      ("*.(".toList ++ ['|'].intercalate (extensions.map descriptionText) ++ [')']).flatMap quotedChar := by
  have hextensions : (extensions.map escapeDescription).map String.toList =
      (extensions.map descriptionText).map (List.flatMap quotedChar) := by
    rw [List.map_map, List.map_map]
    exact List.map_congr_left fun e _ => toList_escapeDescription e
  simp only [String.toList_append, String.toList_intercalate, hextensions, List.flatMap_append,
    flatMap_intercalate]
  rfl

theorem toList_inQuotes (s : String) : (inQuotes s).toList = s.toList.flatMap quotedChar := by
  rw [inQuotes, String.toList_ofList]

theorem toList_action (hint : Option Hint) :
    (action hint).toList = (actionText hint).flatMap quotedChar := by
  have hfiles : "_files".toList = "_files".toList.flatMap quotedChar :=
    (flatMap_quotedChar_of_lacks (by decide)).symm
  have hfolders : "_directories".toList = "_directories".toList.flatMap quotedChar :=
    (flatMap_quotedChar_of_lacks (by decide)).symm
  cases hint with
  | none => exact hfiles
  | some hint =>
    have hcommand : ("($(" ++ inQuotes hint.command ++ "))").toList =
        ("($(".toList ++ hint.command.toList ++ "))".toList).flatMap quotedChar := by
      simp only [String.toList_append, toList_inQuotes, List.flatMap_append]
      rfl
    unfold action actionText
    dsimp only
    cases hint.kind with
    | static => exact toList_valueList hint.values
    | directory => exact hfolders
    | command => exact hcommand
    | dynamic => exact hcommand
    | file =>
      by_cases hpattern : hint.pattern = ""
      · simp only [hpattern, ne_eq, not_true_eq_false, if_false]
        cases hextensions : hint.extensions with
        | nil => exact hfiles
        | cons one others =>
          cases others with
          | nil =>
            apply toList_filesMatching
            rw [String.toList_append, toList_escapeDescription, List.flatMap_append]
            rfl
          | cons next others =>
            exact toList_filesMatching (toList_extensionGlob (one :: next :: others))
      · simp only [hpattern, ne_eq, not_false_eq_true, if_true]
        exact toList_filesMatching (toList_escapeDescription hint.pattern)

theorem notMem_placeText {c : Char} (hstar : c ≠ '*') (hdigit : ¬ c.isDigit = true) {a : Argument}
    {position : Nat} : c ∉ placeText a position := by
  rw [placeText]
  split
  · simpa using hstar
  · intro hmem
    have hdigits : c ∈ Nat.toDigits 10 position := by simpa using hmem
    exact hdigit (Nat.isDigit_of_mem_toDigits (by decide) (by decide) hdigits)

theorem toList_argumentSpec (a : Argument) (position : Nat) :
    (argumentSpec a (toString position)).toList = quoted (argumentText a position) := by
  have hplace : (if a.variadic then "*" else toString position).toList =
      (placeText a position).flatMap quotedChar := by
    rw [flatMap_quotedChar_of_lacks (notMem_placeText (by decide) (by decide)), placeText]
    split <;> rfl
  have hcolons : (if a.required then ":" else "::").toList =
      (if a.required then [':'] else [':', ':']).flatMap quotedChar := by
    split <;> rfl
  rw [argumentSpec, toList_enclose, quoted, argumentText, List.flatMap_append, List.flatMap_append,
    List.flatMap_append, List.flatMap_cons, ← hplace, ← hcolons, ← toList_action, caption,
    ← toList_escapeDescription]
  simp [argumentMessage, quotedChar]

theorem toList_describeEntry (c : Command) :
    (describeEntry c).toList = quoted (nameText c.name) ++ ':' :: quoted (descriptionText c.description) := by
  rw [describeEntry, String.toList_append, String.toList_append, toList_enclose, toList_enclose,
    toList_escapeName, toList_escapeDescription, quoted, quoted]
  simp

/-- The specification of an argument and the entry of a command are one word each, whatever texts they hold:
no quote stays open in them, nothing ends the word early, and nothing is expanded. Without its quotes the word
has all texts on one line, with backslashes before their brackets, before the colons of a name, and before the
blanks of values; a command in it is kept as it is. -/
theorem specs_are_words (a : Argument) (position : Nat) (c : Command) :
    readWord (argumentSpec a (toString position)) = .whole (argumentText a position) [] ∧
      readWord (describeEntry c) = .whole (entryText c) [] := by
  constructor
  · have hread := read_quoted (argumentText a position) []
    rw [List.append_nil] at hread
    rw [readWord, toList_argumentSpec, hread, read, Word.prepend, List.append_nil]
  · have hdescription := read_quoted (descriptionText c.description) []
    rw [List.append_nil] at hdescription
    have hcolon : read .bare (':' :: quoted (descriptionText c.description)) =
        (read .bare (quoted (descriptionText c.description))).prepend [':'] := rfl
    rw [readWord, toList_describeEntry, read_quoted, hcolon, hdescription, read, Word.prepend_prepend,
      Word.prepend_prepend, Word.prepend, List.append_nil, entryText, List.append_assoc,
      List.singleton_append]

example : readWord "'it'\\''s '$HOME" = .expands := by decide

example : readWord "'a b'c\\ d; e" = .whole "a bc d".toList "; e".toList := by decide

end Tabsmith.Zsh
