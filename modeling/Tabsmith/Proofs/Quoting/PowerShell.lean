import Tabsmith.PowerShell.Script
import Tabsmith.Proofs.Text

/-!
The strings of the PowerShell scripts, read back by the rules of this shell. It takes typographic quotes for
apostrophes, which the quoting does not know: a text stays in its string exactly if it has none of them.
-/

namespace Tabsmith.PowerShell

/-- The typographic quotes that PowerShell takes for apostrophes. -/
def isCurly (c : Char) : Bool :=
  c == '\u2018' || c == '\u2019' || c == '\u201A' || c == '\u201B'

/-- The single quotes of PowerShell. -/
def isQuote (c : Char) : Bool :=
  c == '\'' || isCurly c

/-- A text without typographic quotes. -/
def IsStraight (text : List Char) : Prop :=
  ∀ c ∈ text, isCurly c = false

/-- Code with strings in it: each string comes after the code before it, and some code is the last. -/
inductive Tokens where
  | code (code : List Char)
  | string (code text : List Char) (rest : Tokens)
deriving DecidableEq, Repr, Inhabited

/-- The tokens with more code before. -/
def Tokens.prepend (lead : List Char) : Tokens → Tokens
  | code cs => code (lead ++ cs)
  | string cs text rest => string (lead ++ cs) text rest

mutual

/-- The tokens of a text that starts with code. A quote starts a string. -/
def readCode : List Char → Option Tokens
  | [] => some (.code [])
  | c :: rest =>
    if isQuote c then (readString rest).map fun (text, after) => .string [] text after
    else (readCode rest).map (.prepend [c])

/-- The text of a string from its inside on, and the tokens after it. Two quotes in a row stand for the second
one, and another quote ends the string. -/
def readString : List Char → Option (List Char × Tokens)
  | [] => none
  | [c] => if isQuote c then some ([], .code []) else none
  | c :: d :: rest =>
    if isQuote c then
      if isQuote d then (readString rest).map fun (text, after) => (d :: text, after)
      else (readCode (d :: rest)).map fun after => ([], after)
    else (readString (d :: rest)).map fun (text, after) => (c :: text, after)

end

/-! ## What is written for tokens -/

/-- A character of a text between apostrophes. -/
def escapeChar (c : Char) : List Char :=
  if c = '\'' then ['\'', '\''] else [c]

theorem toList_quote (text : String) :
    (quote text).toList = '\'' :: (text.toList.flatMap escapeChar ++ ['\'']) := by
  rw [quote, String.toList_append, String.toList_append, Text.toList_replace (c := '\'') rfl]
  rfl

namespace Tokens

/-- The texts of the strings. -/
def texts : Tokens → List (List Char)
  | code _ => []
  | string _ text rest => text :: rest.texts

/-- What is written for the tokens, the texts between apostrophes. -/
def chars : Tokens → List Char
  | code cs => cs
  | string cs text rest => cs ++ '\'' :: (text.flatMap escapeChar ++ '\'' :: rest.chars)

/-- The code has no quotes, and after a string comes code or the end. -/
def Apart : Tokens → Prop
  | code cs => ∀ c ∈ cs, isQuote c = false
  | string cs _ rest =>
    (∀ c ∈ cs, isQuote c = false) ∧ (∀ c ∈ rest.chars.head?, isQuote c = false) ∧ rest.Apart

/-- The characters that have to be read for the tokens: two for each quote in a text. -/
def width : Tokens → Nat
  | code cs => cs.length
  | string cs text rest => cs.length + (text.length + text.countP isQuote + 2) + rest.width

end Tokens

/-! ## Reading -/

theorem isQuote_apostrophe : isQuote '\'' = true :=
  rfl

theorem isQuote_of_straight {c : Char} (hcurly : isCurly c = false) (hc : c ≠ '\'') :
    isQuote c = false := by
  simpa [isQuote, hcurly] using hc

theorem readString_cons {c : Char} (hc : isQuote c = false) (rest : List Char) :
    readString (c :: rest) =
      (readString rest).map fun (text, after) => (c :: text, after) := by
  cases rest with
  | nil => simp [readString, hc]
  | cons d rest => simp [readString, hc]

/-- Before code or the end, a quote closes the string. -/
theorem readString_quote {c : Char} (hc : isQuote c = true) {rest : List Char}
    (hrest : ∀ d ∈ rest.head?, isQuote d = false) :
    readString (c :: rest) = (readCode rest).map fun after => ([], after) := by
  cases rest with
  | nil => simp [readString, readCode, hc]
  | cons d rest =>
    have hd : isQuote d = false := hrest d rfl
    simp [readString, hc, hd]

/-- A straight text is read back, and ends at the quote after it. -/
theorem readString_escape {text rest : List Char} (hstraight : IsStraight text)
    (hrest : ∀ c ∈ rest.head?, isQuote c = false) :
    readString (text.flatMap escapeChar ++ '\'' :: rest) =
      (readCode rest).map fun after => (text, after) := by
  induction text with
  | nil => exact readString_quote isQuote_apostrophe hrest
  | cons c text ih =>
    obtain ⟨hcurly, hstraight⟩ := List.forall_mem_cons.1 hstraight
    rw [List.flatMap_cons, List.append_assoc, escapeChar]
    by_cases hc : c = '\''
    · rw [if_pos hc, hc, List.cons_append, List.cons_append, List.nil_append, readString]
      simp [ih hstraight, isQuote, Function.comp_def]
    · rw [if_neg hc, List.cons_append, List.nil_append, readString_cons (isQuote_of_straight hcurly hc),
        ih hstraight]
      simp [Function.comp_def]

theorem Tokens.prepend_prepend (lead cs : List Char) (tokens : Tokens) :
    (tokens.prepend cs).prepend lead = tokens.prepend (lead ++ cs) := by
  cases tokens <;> simp [prepend]

theorem readCode_append {code : List Char} (hcode : ∀ c ∈ code, isQuote c = false) (rest : List Char) :
    readCode (code ++ rest) = (readCode rest).map (.prepend code) := by
  induction code with
  | nil =>
    have hself : Tokens.prepend [] = id := by
      funext tokens
      cases tokens <;> rfl
    rw [hself, Option.map_id, id, List.nil_append]
  | cons c code ih =>
    obtain ⟨hc, hcode⟩ := List.forall_mem_cons.1 hcode
    rw [List.cons_append, readCode, if_neg (by simp [hc]), ih hcode, Option.map_map]
    congr 1
    funext tokens
    exact Tokens.prepend_prepend ..

/-- Tokens with straight texts are read back. -/
theorem readCode_chars {tokens : Tokens} (hapart : tokens.Apart)
    (hstraight : ∀ text ∈ tokens.texts, IsStraight text) : readCode tokens.chars = some tokens := by
  induction tokens with
  | code cs =>
    have hread := readCode_append hapart []
    rwa [List.append_nil, readCode, Option.map_some, Tokens.prepend, List.append_nil] at hread
  | string cs text rest ih =>
    obtain ⟨hcode, hnext, hapart⟩ := hapart
    obtain ⟨htext, hrest⟩ := List.forall_mem_cons.1 hstraight
    rw [Tokens.chars, readCode_append hcode, readCode, if_pos isQuote_apostrophe,
      readString_escape htext hnext, ih hapart hrest]
    simp [Tokens.prepend]

/-! ## The characters that are read -/

theorem Tokens.width_prepend (lead : List Char) (tokens : Tokens) :
    (tokens.prepend lead).width = lead.length + tokens.width := by
  cases tokens with
  | code cs => exact List.length_append
  | string cs text rest =>
    rw [prepend, width, width, List.length_append]
    omega

mutual

/-- What was read for tokens is as long as they ask for. -/
theorem length_of_readCode {s : List Char} {tokens : Tokens} (hread : readCode s = some tokens) :
    s.length = tokens.width := by
  match s with
  | [] =>
    rw [readCode, Option.some.injEq] at hread
    rw [← hread]
    rfl
  | c :: rest =>
    rw [readCode] at hread
    split at hread
    · obtain ⟨⟨text, after⟩, hrest, rfl⟩ := Option.map_eq_some_iff.1 hread
      have := length_of_readString hrest
      simp only [Tokens.width, List.length_cons, List.length_nil]
      omega
    · obtain ⟨after, hrest, rfl⟩ := Option.map_eq_some_iff.1 hread
      have := length_of_readCode hrest
      rw [Tokens.width_prepend, ← this]
      simp
      omega

theorem length_of_readString {s text : List Char} {after : Tokens}
    (hread : readString s = some (text, after)) :
    s.length = text.length + text.countP isQuote + 1 + after.width := by
  match s with
  | [] => cases hread
  | [c] =>
    rw [readString] at hread
    split at hread
    · cases hread
      rfl
    · cases hread
  | c :: d :: rest =>
    rw [readString] at hread
    split at hread
    · split at hread
      next hd =>
        obtain ⟨⟨more, later⟩, hrest, heq⟩ := Option.map_eq_some_iff.1 hread
        cases heq
        have := length_of_readString hrest
        simp only [List.length_cons, List.countP_cons, hd, if_true]
        omega
      · obtain ⟨later, hrest, heq⟩ := Option.map_eq_some_iff.1 hread
        cases heq
        have := length_of_readCode hrest
        simp only [List.length_cons, List.length_nil, List.countP_nil] at this ⊢
        omega
    next hc =>
      obtain ⟨⟨more, later⟩, hrest, heq⟩ := Option.map_eq_some_iff.1 hread
      cases heq
      have := length_of_readString hrest
      simp only [List.length_cons, List.countP_cons, hc] at this ⊢
      simp
      omega

end

theorem length_escape (text : List Char) :
    (text.flatMap escapeChar).length + text.countP isCurly = text.length + text.countP isQuote := by
  induction text with
  | nil => rfl
  | cons c text ih =>
    have hchar : (escapeChar c).length + (if isCurly c then 1 else 0) = 1 + if isQuote c then 1 else 0 := by
      by_cases hc : c = '\''
      · rw [hc]
        rfl
      · simp [escapeChar, isQuote, hc]
    rw [List.flatMap_cons, List.length_append, List.countP_cons, List.countP_cons, List.length_cons]
    omega

/-- What is written for tokens lacks one character for each typographic quote in their texts. -/
theorem Tokens.width_eq (tokens : Tokens) :
    tokens.width = tokens.chars.length + tokens.texts.flatten.countP isCurly := by
  induction tokens with
  | code cs => rfl
  | string cs text rest ih =>
    have htext := length_escape text
    simp only [width, chars, texts, List.length_append, List.length_cons, List.flatten_cons, List.countP_append]
    omega

/-- What is written for tokens is read back exactly if the texts are straight. -/
theorem readCode_chars_iff {tokens : Tokens} (hapart : tokens.Apart) :
    readCode tokens.chars = some tokens ↔ ∀ text ∈ tokens.texts, IsStraight text := by
  refine ⟨fun hread text htext c hc => ?_, readCode_chars hapart⟩
  -- A typographic quote in a text has to be read as two characters, and only one was written for it.
  have hlength := length_of_readCode hread
  rw [Tokens.width_eq] at hlength
  have hcount : tokens.texts.flatten.countP isCurly = 0 := by omega
  have hcurly := List.countP_eq_zero.1 hcount c (List.mem_flatten_of_mem htext hc)
  simpa using hcurly

/-! ## The lines of a branch -/

/-- The tokens of lines without strings. -/
def plainTokens (lines : List String) : List Tokens :=
  lines.map fun line => .code line.toList

/-- The tokens that the lines of an entry are meant to have. -/
def Entry.tokens : Entry → List Tokens
  | .result text kind description =>
    [.string "            [CompletionResult]::new(".toList text.toList
      (.string ", ".toList text.toList
        (.string (", [CompletionResultType]::" ++ kind.name ++ ", ").toList
          (tooltip text description).toList (.code ")".toList)))]
  | .files => plainTokens (listingLines "File" "-File")
  | .folders => plainTokens (listingLines "Directory" "-Directory")

/-- The tokens that the lines of a branch are meant to have. -/
def Branch.tokens (branch : Branch) : List Tokens :=
  [.string "        ".toList (";".intercalate branch.path).toList (.code " \x7b".toList)] ++
    branch.entries.flatMap Entry.tokens ++ plainTokens ["            break", "        \x7d"]

theorem chars_plainTokens (lines : List String) :
    (plainTokens lines).map Tokens.chars = lines.map String.toList := by
  rw [plainTokens, List.map_map]
  rfl

theorem Entry.chars_tokens (entry : Entry) :
    entry.tokens.map Tokens.chars = entry.lines.map String.toList := by
  cases entry with
  | result text kind description => simp [tokens, lines, Tokens.chars, toList_quote]
  | files => exact chars_plainTokens _
  | folders => exact chars_plainTokens _

theorem Branch.chars_tokens (branch : Branch) :
    branch.tokens.map Tokens.chars = branch.lines.map String.toList := by
  rw [tokens, lines, List.map_append, List.map_append, List.map_append, List.map_append, chars_plainTokens,
    List.map_flatMap, List.map_flatMap]
  simp only [Entry.chars_tokens]
  simp [Tokens.chars, toList_quote]

theorem isQuote_eq_false_of_all {code : String} (hcode : (code.toList.all fun c => !isQuote c) = true) :
    ∀ c ∈ code.toList, isQuote c = false := by
  intro c hc
  simpa using List.all_eq_true.1 hcode c hc

theorem apart_plainTokens {lines : List String}
    (hlines : (lines.all fun line => line.toList.all fun c => !isQuote c) = true) :
    ∀ tokens ∈ plainTokens lines, tokens.Apart := by
  intro tokens htokens
  obtain ⟨line, hline, rfl⟩ := List.mem_map.1 htokens
  exact isQuote_eq_false_of_all (List.all_eq_true.1 hlines line hline)

theorem apart_listingLines {label selector : String} (hlabel : (label.toList.all fun c => !isQuote c) = true)
    (hselector : (selector.toList.all fun c => !isQuote c) = true) :
    ∀ tokens ∈ plainTokens (listingLines label selector), tokens.Apart := by
  apply apart_plainTokens
  simp only [listingLines, List.all_cons, List.all_nil, String.toList_append, List.all_append, hlabel,
    hselector, Bool.and_true]
  decide

theorem forall_head? {text : List Char} {c : Char} (hhead : text.head? = some c) (hc : isQuote c = false) :
    ∀ d ∈ text.head?, isQuote d = false := by
  rw [hhead]
  rintro d ⟨⟩
  exact hc

theorem Entry.apart_tokens (entry : Entry) : ∀ tokens ∈ entry.tokens, tokens.Apart := by
  cases entry with
  | result text kind description =>
    have hkind : ((", [CompletionResultType]::" ++ kind.name ++ ", ").toList.all fun c => !isQuote c) = true := by
      cases kind <;> decide
    have hhead : (", [CompletionResultType]::" ++ kind.name ++ ", ").toList.head? = some ',' := by
      cases kind <;> rfl
    have hnext : (Tokens.string (", [CompletionResultType]::" ++ kind.name ++ ", ").toList
        (tooltip text description).toList (.code ")".toList)).chars.head? = some ',' := by
      rw [Tokens.chars, List.head?_append, hhead]
      rfl
    refine List.forall_mem_singleton.2 ⟨isQuote_eq_false_of_all (by decide), ?_,
      isQuote_eq_false_of_all (by decide), ?_, isQuote_eq_false_of_all hkind, ?_,
      isQuote_eq_false_of_all (by decide)⟩
    · exact forall_head? (c := ',') rfl rfl
    · exact forall_head? hnext rfl
    · exact forall_head? (c := ')') rfl rfl
  | files => exact apart_listingLines (by decide) (by decide)
  | folders => exact apart_listingLines (by decide) (by decide)

theorem Branch.apart_tokens (branch : Branch) : ∀ tokens ∈ branch.tokens, tokens.Apart := by
  intro tokens htokens
  rw [Branch.tokens, List.mem_append, List.mem_append, List.mem_singleton, List.mem_flatMap] at htokens
  obtain (rfl | ⟨entry, -, hentry⟩) | hclosing := htokens
  · exact ⟨isQuote_eq_false_of_all (by decide), forall_head? (c := ' ') rfl rfl,
      isQuote_eq_false_of_all (by decide)⟩
  · exact entry.apart_tokens tokens hentry
  · exact apart_plainTokens (by decide) tokens hclosing

/-! ## The texts of a branch -/

theorem isStraight_iff {text : List Char} : IsStraight text ↔ ∀ c, isCurly c = true → c ∉ text := by
  refine forall_congr' fun c => ?_
  cases isCurly c <;> simp

theorem isStraight_congr {text other : List Char}
    (hsame : ∀ c, isCurly c = true → (c ∈ text ↔ c ∈ other)) : IsStraight text ↔ IsStraight other := by
  rw [isStraight_iff, isStraight_iff]
  exact forall₂_congr fun c hc => not_congr (hsame c hc)

theorem isBlank_of_isCurly {c : Char} (hc : isCurly c = true) : Text.isBlank c = false := by
  have hc : ((c = '\u2018' ∨ c = '\u2019') ∨ c = '\u201A') ∨ c = '\u201B' := by simpa [isCurly] using hc
  obtain ((rfl | rfl) | rfl) | rfl := hc <;> decide

theorem isStraight_flatten_iff (text : String) :
    IsStraight (Text.flatten text).toList ↔ IsStraight text.toList :=
  isStraight_congr fun _ hc => Text.mem_flatten_iff (isBlank_of_isCurly hc) text

/-- A tooltip adds nothing to the text and the description of a candidate. -/
theorem isStraight_tooltip_iff {text : String} (htext : IsStraight text.toList) (description : String) :
    IsStraight (tooltip text description).toList ↔ IsStraight description.toList := by
  rw [← isStraight_flatten_iff description, tooltip]
  by_cases hempty : Text.flatten description = ""
  · have hnothing : IsStraight "".toList := by
      rintro c ⟨⟩
    simp only [hempty, if_true, htext, hnothing]
  · simp only [hempty, if_false]

theorem isStraight_intercalate_iff (names : List String) :
    IsStraight (";".intercalate names).toList ↔ ∀ name ∈ names, IsStraight name.toList := by
  have hmem : ∀ c, isCurly c = true →
      (c ∈ (";".intercalate names).toList ↔ ∃ name ∈ names, c ∈ name.toList) := by
    intro c hc
    have hseparator : c ∉ ";".toList := by
      intro hmem
      obtain rfl : c = ';' := by simpa using hmem
      cases hc
    rw [String.toList_intercalate, mem_intercalate_iff hseparator]
    simp
  simp only [isStraight_iff]
  constructor
  · intro hstraight name hname c hc hin
    exact hstraight c hc ((hmem c hc).2 ⟨name, hname, hin⟩)
  · intro hstraight c hc hin
    obtain ⟨name, hname, hin⟩ := (hmem c hc).1 hin
    exact hstraight name hname c hc hin

theorem straight_plainTokens (lines : List String) :
    ∀ tokens ∈ plainTokens lines, ∀ text ∈ tokens.texts, IsStraight text := by
  intro tokens htokens text htext
  obtain ⟨line, -, rfl⟩ := List.mem_map.1 htokens
  cases htext

theorem Entry.straight_tokens_iff (entry : Entry) :
    (∀ tokens ∈ entry.tokens, ∀ text ∈ tokens.texts, IsStraight text) ↔
      ∀ text kind description, entry = .result text kind description →
        IsStraight text.toList ∧ IsStraight description.toList := by
  cases entry with
  | result text kind description =>
    have htexts : (∀ tokens ∈ (Entry.result text kind description).tokens,
          ∀ text ∈ tokens.texts, IsStraight text) ↔
        IsStraight text.toList ∧ IsStraight text.toList ∧
          IsStraight (tooltip text description).toList := by
      simp [tokens, Tokens.texts]
    rw [htexts]
    constructor
    · rintro ⟨htext, -, htooltip⟩ _ _ _ ⟨⟩
      exact ⟨htext, (isStraight_tooltip_iff htext description).1 htooltip⟩
    · intro hstraight
      obtain ⟨htext, hdescription⟩ := hstraight text kind description rfl
      exact ⟨htext, htext, (isStraight_tooltip_iff htext description).2 hdescription⟩
  | files => exact ⟨fun _ _ _ _ => nofun, fun _ => straight_plainTokens _⟩
  | folders => exact ⟨fun _ _ _ _ => nofun, fun _ => straight_plainTokens _⟩

theorem Branch.straight_tokens_iff (branch : Branch) :
    (∀ tokens ∈ branch.tokens, ∀ text ∈ tokens.texts, IsStraight text) ↔
      (∀ name ∈ branch.path, IsStraight name.toList) ∧
      ∀ text kind description, .result text kind description ∈ branch.entries →
        IsStraight text.toList ∧ IsStraight description.toList := by
  rw [tokens, List.forall_mem_append, List.forall_mem_append, List.forall_mem_singleton, Tokens.texts,
    Tokens.texts, List.forall_mem_singleton, isStraight_intercalate_iff]
  constructor
  · rintro ⟨⟨hpath, hentries⟩, -⟩
    refine ⟨hpath, fun text kind description hentry => ?_⟩
    refine (Entry.straight_tokens_iff (.result text kind description)).1 ?_ _ _ _ rfl
    exact fun tokens htokens => hentries tokens (List.mem_flatMap.2 ⟨_, hentry, htokens⟩)
  · rintro ⟨hpath, hresults⟩
    refine ⟨⟨hpath, fun tokens htokens => ?_⟩, straight_plainTokens _⟩
    obtain ⟨entry, hentry, htokens⟩ := List.mem_flatMap.1 htokens
    refine entry.straight_tokens_iff.2 (fun text kind description heq => ?_) tokens htokens
    exact hresults text kind description (heq ▸ hentry)

/-- A text between apostrophes is read back exactly if it has no typographic quotes. So names and descriptions
stay in their strings, in every candidate and every label of a branch, exactly if none of them has any. -/
theorem texts_stay_in_strings_iff (text : String) (branch : Branch) :
    (readCode (quote text).toList = some (.string [] text.toList (.code [])) ↔ IsStraight text.toList) ∧
      (branch.lines.map (fun line => readCode line.toList) = branch.tokens.map some ↔
        (∀ name ∈ branch.path, IsStraight name.toList) ∧
        ∀ text kind description, .result text kind description ∈ branch.entries →
          IsStraight text.toList ∧ IsStraight description.toList) := by
  constructor
  · have hapart : (Tokens.string [] text.toList (.code [])).Apart := ⟨nofun, nofun, nofun⟩
    rw [toList_quote]
    refine (readCode_chars_iff hapart).trans ?_
    simp [Tokens.texts]
  · have hlines : branch.lines.map (fun line => readCode line.toList) =
        branch.tokens.map fun tokens => readCode tokens.chars := by
      have hchars := congrArg (List.map readCode) branch.chars_tokens
      rw [List.map_map, List.map_map] at hchars
      exact hchars.symm
    rw [hlines, List.map_inj_left, ← branch.straight_tokens_iff]
    exact forall₂_congr fun tokens htokens => readCode_chars_iff (branch.apart_tokens tokens htokens)

/-- A typographic apostrophe ends the string, and the rest of the text is read as code: the closing quote then
opens a string without an end, or the text has one more to close it. -/
theorem curly_quote_ends_string :
    readCode (quote "it\u2019s").toList ≠ some (.string [] "it\u2019s".toList (.code [])) ∧
      readCode (quote "a\u2019; b; \u2019c").toList =
        some (.string [] "a".toList (.string "; b; ".toList "c".toList (.code []))) := by
  decide

end Tabsmith.PowerShell
