import Mathlib.Data.List.Flatten
import Tabsmith.Proofs.Acceptance.Small
import Tabsmith.Proofs.Reading.Parts
import Tabsmith.Proofs.Specs

/-!
The specifications of options, read by the rules of zsh's completion system. What they say of an option is read
back exactly if its flags have no character that acts in a specification, and its description has no backslash
but before opening brackets.
-/

namespace Tabsmith.Zsh

/-! ## Reading a specification -/

/-- The parts of an option's specification: the flags of the group that excludes them, if there is one, the
flag, its description, and what is said about its value. -/
structure OptionParts where
  exclusion : Option (List (List Char))
  flag : List Char
  description : List Char
  value : List Char
deriving DecidableEq, Repr

/-- The characters that separate the flags of a group. -/
def isSpace (c : Char) : Bool :=
  c == ' ' || c == '\t'

/-- The words between spaces. -/
def spacedWords (s : List Char) : List (List Char) :=
  (Text.pieces isSpace s).filter fun piece => !piece.isEmpty

namespace OptionParts

/-- The parts from the flag on, which goes up to an opening bracket. -/
def fromFlag? (exclusion : Option (List (List Char))) (s : List Char) : Option OptionParts := do
  let (flag, rest) ← upTo? '[' s
  let (description, value) ← fieldUpTo? ']' rest
  return { exclusion, flag, description, value }

/-- The parts of a specification without its quotes. -/
def ofText? : List Char → Option OptionParts
  | '(' :: s => do
    let (group, rest) ← upTo? ')' s
    fromFlag? (some (spacedWords group)) rest
  | s => fromFlag? none s

end OptionParts

/-- The parts of a quoted specification. -/
def readOption? (spec : String) : Option OptionParts :=
  (unquoted? spec).bind OptionParts.ofText?

/-! ## What is meant -/

/-- What is said about the value of an option, without quotes. -/
def valuePartText (o : Opt) : List Char :=
  if o.isBoolean then []
  else if !o.choices.isEmpty then ":value:".toList ++ valueListText o.choices
  else match o.completion with
    | some hint => ":value:".toList ++ actionText (some hint)
    | none => ':' :: (descriptionText o.type ++ [':'])

/-- The parts that the specification of an option for one of its flags is meant to have. -/
def optionParts (o : Opt) (flag : String) : OptionParts where
  exclusion := if o.short.isEmpty then none else some (o.flags.map String.toList)
  flag := flag.toList
  description := oneLine o.description.toList
  value := valuePartText o

/-- A flag that a specification of an option shows as it is: it leaves the quotes closed, goes up to the opening
bracket, and in a group up to a space or to the end of the group. -/
structure KeepsFlag (o : Opt) (flag : String) : Prop where
  lacksQuote : '\'' ∉ flag.toList
  lacksBracket : '[' ∉ flag.toList
  lacksEnd : o.short ≠ [] → ')' ∉ flag.toList
  lacksSpace : o.short ≠ [] → ∀ c ∈ flag.toList, isSpace c = false

theorem keepsFlag_iff {o : Opt} {flag : String} : KeepsFlag o flag ↔
    '\'' ∉ flag.toList ∧ '[' ∉ flag.toList ∧ (o.short ≠ [] → ')' ∉ flag.toList) ∧
      (o.short ≠ [] → ∀ c ∈ flag.toList, isSpace c = false) := by
  constructor
  · rintro ⟨hquote, hbracket, hends, hspace⟩
    exact ⟨hquote, hbracket, hends, hspace⟩
  · rintro ⟨hquote, hbracket, hends, hspace⟩
    exact ⟨hquote, hbracket, hends, hspace⟩

instance decidableKeepsFlag (o : Opt) (flag : String) : Decidable (KeepsFlag o flag) :=
  have : Decidable (∀ c ∈ flag.toList, isSpace c = false) := List.decidableBAll _ _
  decidable_of_iff' _ keepsFlag_iff

/-! ## Groups of flags -/

theorem length_flatMap_pieces (p : Char → Bool) (s : List Char) :
    ((Text.pieces p s).flatMap ([' '] ++ ·)).length = s.length + 1 := by
  induction s with
  | nil => rfl
  | cons c rest ih =>
    rw [Text.pieces]
    cases hpieces : Text.pieces p rest with
    | nil => exact absurd hpieces (Text.pieces_ne_nil p rest)
    | cons piece others =>
      rw [hpieces] at ih
      split
      all_goals
        simp only [List.flatMap_cons, List.length_append, List.length_cons, List.length_nil] at ih ⊢
        omega

/-- A text is at least as long as its words with one space between them. -/
theorem length_intercalate_spacedWords_le (s : List Char) :
    ([' '].intercalate (spacedWords s)).length ≤ s.length := by
  by_cases hnone : spacedWords s = []
  · simp [hnone]
  · have hwords : (spacedWords s).Sublist (Text.pieces isSpace s) := List.filter_sublist
    have hlength := (hwords.flatMap ([' '] ++ ·)).length_le
    rw [← append_intercalate _ hnone, List.length_append, List.length_singleton, length_flatMap_pieces] at hlength
    omega

theorem spacedWords_intercalate {words : List (List Char)}
    (hwords : ∀ word ∈ words, word ≠ [] ∧ ∀ c ∈ word, isSpace c = false) :
    spacedWords ([' '].intercalate words) = words :=
  Text.filter_pieces_intercalate rfl hwords

theorem lacks_of_mem_spacedWords {s word : List Char} (hword : word ∈ spacedWords s) {c : Char} (hc : c ∈ word) :
    isSpace c = false ∧ c ∈ s := by
  have hpiece := List.mem_of_mem_filter hword
  have hspace := Text.eq_false_of_mem_pieces hpiece hc
  exact ⟨hspace, (Text.exists_mem_pieces_iff hspace).1 ⟨word, hpiece, hc⟩⟩

theorem exists_mem_spacedWords {s : List Char} {c : Char} (hspace : isSpace c = false) (hc : c ∈ s) :
    ∃ word ∈ spacedWords s, c ∈ word := by
  obtain ⟨piece, hpiece, hmem⟩ := (Text.exists_mem_pieces_iff hspace).2 hc
  exact ⟨piece, List.mem_filter.2 ⟨hpiece, by simpa using List.ne_nil_of_mem hmem⟩, hmem⟩

/-! ## Parts of a text -/

namespace OptionParts

variable {s : List Char} {parts : OptionParts}

theorem fromFlag?_eq_some_iff {exclusion : Option (List (List Char))} :
    fromFlag? exclusion s = some parts ↔
      parts.exclusion = exclusion ∧ '[' ∉ parts.flag ∧ ∃ rest, s = parts.flag ++ '[' :: rest ∧
        fieldUpTo? ']' rest = some (parts.description, parts.value) := by
  rw [fromFlag?, Option.bind_eq_bind, Option.bind_eq_some_iff]
  constructor
  · rintro ⟨⟨flag, rest⟩, hflag, hparts⟩
    obtain ⟨rfl, hlacks⟩ := upTo?_eq_some_iff.1 hflag
    obtain ⟨⟨description, value⟩, hfield, hparts⟩ := Option.bind_eq_some_iff.1 hparts
    obtain rfl := Option.some.inj hparts
    exact ⟨rfl, hlacks, rest, rfl, hfield⟩
  · rintro ⟨rfl, hlacks, rest, rfl, hfield⟩
    refine ⟨(parts.flag, rest), upTo?_eq_some_iff.2 ⟨rfl, hlacks⟩, ?_⟩
    exact Option.bind_eq_some_iff.2 ⟨(parts.description, parts.value), hfield, rfl⟩

theorem ofText?_of_group {group : List Char} (hgroup : ')' ∉ group) (s : List Char) :
    ofText? ('(' :: (group ++ ')' :: s)) = fromFlag? (some (spacedWords group)) s := by
  have hupTo : upTo? ')' (group ++ ')' :: s) = some (group, s) := upTo?_eq_some_iff.2 ⟨rfl, hgroup⟩
  rw [ofText?, hupTo]
  rfl

/-- The exclusion is what stands before the flag: nothing, or a group in parentheses. -/
def Leads (exclusion : Option (List (List Char))) (lead : List Char) : Prop :=
  exclusion = none ∧ lead = [] ∨
    ∃ group, ')' ∉ group ∧ exclusion = some (spacedWords group) ∧ lead = '(' :: (group ++ [')'])

theorem exists_of_ofText? (hparts : ofText? s = some parts) :
    '[' ∉ parts.flag ∧ ∃ lead rest, Leads parts.exclusion lead ∧ s = lead ++ parts.flag ++ '[' :: rest ∧
      fieldUpTo? ']' rest = some (parts.description, parts.value) := by
  rw [ofText?.eq_def] at hparts
  split at hparts
  next s =>
    rw [Option.bind_eq_bind, Option.bind_eq_some_iff] at hparts
    obtain ⟨⟨group, later⟩, hgroup, hparts⟩ := hparts
    obtain ⟨rfl, hlacks⟩ := upTo?_eq_some_iff.1 hgroup
    obtain ⟨hexclusion, hflag, rest, rfl, hfield⟩ := fromFlag?_eq_some_iff.1 hparts
    refine ⟨hflag, '(' :: (group ++ [')']), rest, .inr ⟨group, hlacks, hexclusion, rfl⟩, ?_, hfield⟩
    simp
  next s _ =>
    obtain ⟨hexclusion, hflag, rest, rfl, hfield⟩ := fromFlag?_eq_some_iff.1 hparts
    exact ⟨hflag, [], rest, .inl ⟨hexclusion, rfl⟩, rfl, hfield⟩

end OptionParts

/-! ## What is written for an option -/

/-- The specification of an option for a flag. -/
def optionSpec (o : Opt) (flag : String) : String :=
  enclose (exclusion o ++ flag ++ "[" ++ escapeDescription o.description ++ "]" ++ valuePart o)

theorem optionSpecs_of_visible {o : Opt} (hvisible : o.hidden = false) :
    optionSpecs o = o.flags.map (optionSpec o) := by
  rw [optionSpecs, hvisible]
  rfl

theorem toList_valuePart (o : Opt) : (valuePart o).toList = (valuePartText o).flatMap quotedChar := by
  have hvalue : ":value:".toList = ":value:".toList.flatMap quotedChar :=
    (flatMap_quotedChar_of_lacks (by decide)).symm
  unfold valuePart valuePartText
  split
  · rfl
  · split
    · rw [String.toList_append, List.flatMap_append, ← hvalue, toList_valueList]
    · cases o.completion with
      | some hint =>
        dsimp only
        rw [String.toList_append, List.flatMap_append, ← hvalue, toList_action]
      | none =>
        dsimp only
        rw [String.toList_append, String.toList_append, toList_escapeDescription, List.flatMap_cons,
          List.flatMap_append]
        rfl

/-- The flags of an option are written as they are, all else is quoted. -/
theorem toList_optionSpec (o : Opt) (flag : String) :
    (optionSpec o flag).toList =
      '\'' :: ((exclusion o).toList ++ flag.toList ++
        '[' :: ((descriptionText o.description ++ ']' :: valuePartText o).flatMap quotedChar ++ ['\''])) := by
  rw [optionSpec, toList_enclose, List.flatMap_append, List.flatMap_cons, ← toList_valuePart,
    ← toList_escapeDescription]
  simp [quotedChar]

theorem exclusion_of_isEmpty {o : Opt} (hshort : o.short = []) : exclusion o = "" := by
  rw [exclusion, hshort]
  rfl

theorem toList_exclusion {o : Opt} (hshort : o.short ≠ []) :
    (exclusion o).toList = '(' :: ([' '].intercalate (o.flags.map String.toList) ++ [')']) := by
  have hisEmpty : ¬ o.short.isEmpty = true := by simpa using hshort
  rw [exclusion, if_neg hisEmpty, String.toList_append, String.toList_append, String.toList_intercalate]
  rfl

theorem read_quoted_cons {c : Char} (hc : c ≠ '\'') (rest : List Char) :
    read .quoted (c :: rest) = (read .quoted rest).prepend [c] := by
  rw [read, if_neg hc]

theorem read_bare_cons {c : Char} (hbackslash : c ≠ '\\') (rest : List Char) :
    read .bare (c :: rest) =
      if c = '\'' then read .quoted rest
      else if endsWord c then .whole [] (c :: rest)
      else if isActive c then .expands
      else (read .bare rest).prepend [c] := by
  rw [read]
  · exact fun heq => absurd heq hbackslash
  · exact fun _ _ heq => absurd heq hbackslash

/-- A word has an opening bracket with no more characters before it than a text has, and with fewer if a quote is
one of these. -/
def BracketWithin (text word : List Char) : Prop :=
  ∃ before after, word = before ++ '[' :: after ∧ before.length ≤ text.length ∧
    ('\'' ∈ text → before.length < text.length)

namespace BracketWithin

variable {text word : List Char}

theorem here (word : List Char) : BracketWithin [] ('[' :: word) :=
  ⟨[], word, rfl, Nat.le_refl _, by simp⟩

theorem skip (c : Char) (hwithin : BracketWithin text word) : BracketWithin (c :: text) word := by
  obtain ⟨before, after, rfl, hlength, -⟩ := hwithin
  exact ⟨before, after, rfl, Nat.le_succ_of_le hlength, fun _ => Nat.lt_succ_of_le hlength⟩

theorem keep {c : Char} (hc : c ≠ '\'') (hwithin : BracketWithin text word) :
    BracketWithin (c :: text) (c :: word) := by
  obtain ⟨before, after, rfl, hlength, hshorter⟩ := hwithin
  refine ⟨c :: before, after, rfl, Nat.succ_le_succ hlength, fun hmem => Nat.succ_lt_succ (hshorter ?_)⟩
  exact List.mem_of_ne_of_mem (Ne.symm hc) hmem

theorem escaped (c d : Char) (hwithin : BracketWithin text word) :
    BracketWithin (c :: d :: text) (d :: word) := by
  obtain ⟨before, after, rfl, hlength, -⟩ := hwithin
  have hshorter : (d :: before).length < (c :: d :: text).length := by
    simp only [List.length_cons]
    omega
  exact ⟨d :: before, after, rfl, Nat.le_of_lt hshorter, fun _ => hshorter⟩

end BracketWithin

/-- No more characters are read than are written, and a quote is not read: an opening bracket stands no later in
the word than in the text, and earlier behind a quote. -/
theorem bracketWithin_of_read {mode : Mode} {text more word : List Char}
    (hread : read mode (text ++ '[' :: more) = .whole word []) : BracketWithin text word := by
  match mode, text with
  | .quoted, [] =>
    rw [List.nil_append, read_quoted_cons (by decide), Word.prepend_eq_whole_iff] at hread
    obtain ⟨later, -, rfl⟩ := hread
    exact .here later
  | .quoted, c :: text =>
    rw [List.cons_append] at hread
    by_cases hc : c = '\''
    · rw [read, if_pos hc] at hread
      exact (bracketWithin_of_read hread).skip c
    · rw [read_quoted_cons hc, Word.prepend_eq_whole_iff] at hread
      obtain ⟨later, hlater, rfl⟩ := hread
      exact (bracketWithin_of_read hlater).keep hc
  | .bare, [] =>
    have hexpands : read .bare ('[' :: more) = .expands := rfl
    rw [List.nil_append, hexpands] at hread
    cases hread
  | .bare, c :: text =>
    rw [List.cons_append] at hread
    by_cases hbackslash : c = '\\'
    · subst hbackslash
      cases text with
      | nil =>
        rw [List.nil_append, read, if_neg (by decide), Word.prepend_eq_whole_iff] at hread
        obtain ⟨later, -, rfl⟩ := hread
        exact (BracketWithin.here later).skip '\\'
      | cons d text =>
        rw [List.cons_append, read] at hread
        split at hread
        · exact ((bracketWithin_of_read hread).skip d).skip '\\'
        · obtain ⟨later, hlater, rfl⟩ := Word.prepend_eq_whole_iff.1 hread
          exact (bracketWithin_of_read hlater).escaped '\\' d
    · rw [read_bare_cons hbackslash] at hread
      by_cases hc : c = '\''
      · rw [if_pos hc] at hread
        exact (bracketWithin_of_read hread).skip c
      · rw [if_neg hc] at hread
        split at hread
        · cases hread
        split at hread
        · cases hread
        obtain ⟨later, hlater, rfl⟩ := Word.prepend_eq_whole_iff.1 hread
        exact (bracketWithin_of_read hlater).keep hc
termination_by text.length

/-- Of two places of a character, the one with nothing but other characters before it is the first. -/
theorem length_le_of_notMem {c : Char} {s t before after : List Char}
    (heq : s ++ c :: t = before ++ c :: after) (hs : c ∉ s) : s.length ≤ before.length := by
  by_contra hlong
  have hc : s[before.length]? = some c := by
    rw [← List.getElem?_append_left (Nat.lt_of_not_le hlong), heq]
    simp
  exact hs (List.mem_of_getElem? hc)

/-! ## Which specifications are read back -/

/-- The text of a specification whose quotes are only those around it. -/
def optionText (o : Opt) (flag : String) : List Char :=
  (exclusion o).toList ++ flag.toList ++ '[' :: (descriptionText o.description ++ ']' :: valuePartText o)

section

variable {o : Opt} {flag : String}

theorem exists_of_readOption? {spec : String} {parts : OptionParts} (hparts : readOption? spec = some parts) :
    ∃ word, readWord spec = .whole word [] ∧ OptionParts.ofText? word = some parts := by
  obtain ⟨word, hword, hparts⟩ := Option.bind_eq_some_iff.1 hparts
  exact ⟨word, unquoted?_eq_some_iff.1 hword, hparts⟩

/-- A group that is read as the flags of an option is not shorter than the one that was written, and what is in
it is in the flags. -/
theorem leads_optionParts {lead : List Char} (hlead : OptionParts.Leads (optionParts o flag).exclusion lead) :
    (exclusion o).toList.length ≤ lead.length ∧ ('[' ∈ lead → ∃ other ∈ o.flags, '[' ∈ other.toList) ∧
      (o.short ≠ [] → ∀ other ∈ o.flags, ∀ c ∈ other.toList, isSpace c = false ∧ c ≠ ')') := by
  rcases hlead with ⟨hnone, rfl⟩ | ⟨group, hends, hgroup, rfl⟩
  · have hshort : o.short = [] := by simpa [optionParts] using hnone
    rw [exclusion_of_isEmpty hshort]
    exact ⟨Nat.le_refl _, by simp, fun hne => absurd hshort hne⟩
  · have hshort : o.short ≠ [] := by
      intro hshort
      rw [optionParts, hshort] at hgroup
      cases hgroup
    have hwords : spacedWords group = o.flags.map String.toList := by
      simpa [optionParts, hshort] using hgroup.symm
    refine ⟨?_, fun hbracket => ?_, fun _ other hother c hc => ?_⟩
    · have hlength := length_intercalate_spacedWords_le group
      rw [hwords] at hlength
      rw [toList_exclusion hshort]
      simpa using hlength
    · have hbracket : '[' ∈ group := by simpa using hbracket
      obtain ⟨word, hword, hmem⟩ := exists_mem_spacedWords rfl hbracket
      rw [hwords, List.mem_map] at hword
      obtain ⟨other, hother, rfl⟩ := hword
      exact ⟨other, hother, hmem⟩
    · have hword : other.toList ∈ spacedWords group := hwords ▸ List.mem_map_of_mem hother
      obtain ⟨hspace, hmem⟩ := lacks_of_mem_spacedWords hword hc
      exact ⟨hspace, fun heq => hends (heq ▸ hmem)⟩

/-- A quote in a flag moves the opening bracket of its specification to an earlier place in the word. -/
theorem quote_notMem_of_read {lead rest : List Char}
    (hword : readWord (optionSpec o flag) = .whole (lead ++ flag.toList ++ '[' :: rest) [])
    (hlacks : '[' ∉ lead ++ flag.toList) (hlength : (exclusion o).toList.length ≤ lead.length) :
    '\'' ∉ flag.toList := by
  intro hquote
  rw [readWord, toList_optionSpec, read_bare_cons (by decide), if_pos rfl] at hword
  obtain ⟨before, after, hread, -, hshorter⟩ := bracketWithin_of_read hword
  have hbefore : before.length < ((exclusion o).toList ++ flag.toList).length :=
    hshorter (List.mem_append_right _ hquote)
  have hfirst : (lead ++ flag.toList).length ≤ before.length := length_le_of_notMem hread hlacks
  rw [List.length_append] at hbefore hfirst
  omega

theorem keepsFlag_of_read
    (hread : ∀ flag ∈ o.flags, readOption? (optionSpec o flag) = some (optionParts o flag))
    (hflag : flag ∈ o.flags) : KeepsFlag o flag := by
  have hbrackets : ∀ other ∈ o.flags, '[' ∉ other.toList := by
    intro other hother
    obtain ⟨word, -, hparts⟩ := exists_of_readOption? (hread other hother)
    exact (OptionParts.exists_of_ofText? hparts).1
  obtain ⟨word, hword, hparts⟩ := exists_of_readOption? (hread flag hflag)
  obtain ⟨hbracket, lead, rest, hlead, rfl, -⟩ := OptionParts.exists_of_ofText? hparts
  obtain ⟨hlength, hleadBracket, hgroup⟩ := leads_optionParts hlead
  have hlacks : '[' ∉ lead ++ flag.toList := by
    intro hmem
    rcases List.mem_append.1 hmem with hmem | hmem
    · obtain ⟨other, hother, hmem⟩ := hleadBracket hmem
      exact hbrackets other hother hmem
    · exact hbracket hmem
  refine ⟨quote_notMem_of_read hword hlacks hlength, hbracket, fun hshort hmem => ?_, fun hshort c hc => ?_⟩
  · exact (hgroup hshort flag hflag ')' hmem).2 rfl
  · exact (hgroup hshort flag hflag c hc).1

/-- A flag starts with a dash. -/
theorem exists_toList_of_mem_flags (hflag : flag ∈ o.flags) : ∃ rest, flag.toList = '-' :: rest := by
  rw [Opt.flags, List.mem_append, List.mem_map, List.mem_singleton] at hflag
  rcases hflag with ⟨s, -, rfl⟩ | rfl
  · exact ⟨s.toList, by simp⟩
  · exact ⟨'-' :: o.name.toList, by simp⟩

theorem notMem_exclusion {c : Char} (hgroup : c ∉ ['(', ' ', ')'])
    (hflags : ∀ flag ∈ o.flags, c ∉ flag.toList) : c ∉ (exclusion o).toList := by
  simp only [List.mem_cons, List.not_mem_nil, or_false, not_or] at hgroup
  by_cases hshort : o.short = []
  · rw [exclusion_of_isEmpty hshort]
    exact List.not_mem_nil
  · rw [toList_exclusion hshort, List.mem_cons, List.mem_append, List.mem_singleton,
      mem_intercalate_iff (by simpa using hgroup.2.1)]
    simpa [hgroup.1, hgroup.2.2] using hflags

theorem readOption?_optionSpec (hflags : ∀ flag ∈ o.flags, '\'' ∉ flag.toList) (hflag : flag ∈ o.flags) :
    readOption? (optionSpec o flag) = OptionParts.ofText? (optionText o flag) := by
  have hexclusion := flatMap_quotedChar_of_lacks (notMem_exclusion (by decide) hflags)
  have hspec : (optionSpec o flag).toList = quoted (optionText o flag) := by
    have htext : (optionText o flag).flatMap quotedChar = (exclusion o).toList ++ flag.toList ++
        '[' :: (descriptionText o.description ++ ']' :: valuePartText o).flatMap quotedChar := by
      rw [optionText, List.flatMap_append, List.flatMap_append, hexclusion,
        flatMap_quotedChar_of_lacks (hflags flag hflag)]
      rfl
    rw [toList_optionSpec, quoted, htext]
    simp only [List.append_assoc, List.cons_append]
  rw [readOption?, unquoted?_of_toList hspec, Option.bind_some]

theorem ofText?_optionText (hkeeps : ∀ flag ∈ o.flags, KeepsFlag o flag) (hflag : flag ∈ o.flags) :
    OptionParts.ofText? (optionText o flag) = OptionParts.fromFlag? (optionParts o flag).exclusion
      (flag.toList ++ '[' :: (descriptionText o.description ++ ']' :: valuePartText o)) := by
  by_cases hshort : o.short = []
  · obtain ⟨rest, hrest⟩ := exists_toList_of_mem_flags hflag
    rw [optionText, exclusion_of_isEmpty hshort, optionParts, hshort, hrest]
    rfl
  · have hends : ')' ∉ [' '].intercalate (o.flags.map String.toList) := by
      rw [mem_intercalate_iff (by decide)]
      rintro ⟨word, hword, hmem⟩
      obtain ⟨other, hother, rfl⟩ := List.mem_map.1 hword
      exact (hkeeps other hother).lacksEnd hshort hmem
    have hwords : ∀ word ∈ o.flags.map String.toList, word ≠ [] ∧ ∀ c ∈ word, isSpace c = false := by
      rw [List.forall_mem_map]
      intro other hother
      obtain ⟨rest, hrest⟩ := exists_toList_of_mem_flags hother
      exact ⟨hrest ▸ List.cons_ne_nil _ _, (hkeeps other hother).lacksSpace hshort⟩
    have hexclusion : (optionParts o flag).exclusion =
        some (spacedWords ([' '].intercalate (o.flags.map String.toList))) := by
      rw [spacedWords_intercalate hwords, optionParts, if_neg (by simpa using hshort)]
    rw [hexclusion, ← OptionParts.ofText?_of_group hends, optionText, toList_exclusion hshort]
    simp

/-- Behind flags that are kept only backslashes can spoil a specification. -/
theorem readOption?_eq_some_iff (hkeeps : ∀ flag ∈ o.flags, KeepsFlag o flag) (hflag : flag ∈ o.flags) :
    readOption? (optionSpec o flag) = some (optionParts o flag) ↔
      BackslashesBefore (· == '[') (oneLine o.description.toList) := by
  have hclass : (fun c => isBracket c && !(c == ']')) = (· == '[') := by
    funext c
    cases hc : c == '[' with
    | true =>
      rw [eq_of_beq hc]
      rfl
    | false => simp [isBracket, hc]
  have hfield : fieldUpTo? ']' (descriptionText o.description ++ ']' :: valuePartText o) =
      some (oneLine o.description.toList, valuePartText o) ↔
        BackslashesBefore (· == '[') (oneLine o.description.toList) := by
    rw [descriptionText, fieldUpTo?_guarded_eq_some_iff rfl (by decide), hclass]
    exact and_iff_right fun _ => rfl
  rw [readOption?_optionSpec (fun flag hflag => (hkeeps flag hflag).lacksQuote) hflag,
    ofText?_optionText hkeeps hflag, OptionParts.fromFlag?_eq_some_iff, ← hfield]
  constructor
  · rintro ⟨-, -, rest, heq, hfield⟩
    obtain rfl := (List.cons.inj (List.append_cancel_left heq)).2
    exact hfield
  · exact fun hfield => ⟨rfl, (hkeeps flag hflag).lacksBracket, _, rfl, hfield⟩

end

/-- A visible option has one specification for each flag. They are read back as what they are meant to say, the
flags that exclude each other, the flag, the description on one line and the part about the value, exactly if
its flags have no character that acts in a specification, and each backslash of its description stands before
an opening bracket: a description gets backslashes before its brackets, but not before its own backslashes. -/
theorem option_specs_read_back_iff (o : Opt) (hvisible : o.hidden = false) :
    (optionSpecs o).length = o.flags.length ∧
      ((optionSpecs o).map readOption? = o.flags.map (fun flag => some (optionParts o flag)) ↔
        (∀ flag ∈ o.flags, KeepsFlag o flag) ∧
          BackslashesBefore (· == '[') (oneLine o.description.toList)) := by
  rw [optionSpecs_of_visible hvisible, List.length_map, List.map_map, List.map_inj_left]
  refine ⟨rfl, fun hread => ?_, ?_⟩
  · have hkeeps : ∀ flag ∈ o.flags, KeepsFlag o flag := fun flag => keepsFlag_of_read hread
    have hname : "--" ++ o.name ∈ o.flags := List.mem_append_right _ (List.mem_singleton_self _)
    exact ⟨hkeeps, (readOption?_eq_some_iff hkeeps hname).1 (hread _ hname)⟩
  · rintro ⟨hkeeps, hdescription⟩ flag hflag
    exact (readOption?_eq_some_iff hkeeps hflag).2 hdescription

theorem option_specs_read_back_of_config :
    let o : Opt := { name := "config", short := ["c"], type := "string", description := "Config [file]" }
    o.hidden = false ∧ optionSpecs o =
        ["'(-c --config)-c[Config \\[file\\]]:string:'", "'(-c --config)--config[Config \\[file\\]]:string:'"] ∧
      (optionSpecs o).map readOption? = o.flags.map (fun flag => some (optionParts o flag)) := by
  intro o
  have hkeeps : ∀ flag ∈ o.flags, KeepsFlag o flag := by decide
  have hdescription : BackslashesBefore (· == '[') (oneLine o.description.toList) := by decide
  exact ⟨rfl, by decide, (option_specs_read_back_iff o rfl).2.2 ⟨hkeeps, hdescription⟩⟩

example :
    let o : Opt := { name := "x[y" }
    (optionSpecs o).map readOption? = [some ⟨none, "--x".toList, "y[".toList, []⟩] := by decide

/-- The backslash that ends a description makes the bracket after it a part of the description, which then has
no end. -/
theorem description_ending_in_backslash_runs_on :
    let part : Fields := [("name", .text "dir"), ("description", .text "C:\\")]
    let node : Fields := [("name", .text "tool"), ("globalOptions", .list [.object part])]
    let o : Opt := { name := "dir", description := "C:\\" }
    (checkDocument (.object node)).problems = [] ∧
      Program.ofDocument (.object node) = .ok { name := "tool", globalOptions := [o] } ∧
      o.hidden = false ∧ optionSpecs o = ["'--dir[C:\\]'"] ∧
      (optionSpecs o).map readOption? ≠ o.flags.map (fun flag => some (optionParts o flag)) := by
  intro part node o
  have hpart : IsOption part := isOption_of_description (by decide) "C:\\"
  have hnode : IsProgram node :=
    isProgram_of_options (by decide) (List.forall_mem_singleton.2 hpart) (by decide)
  have hread : Program.ofDocument (.object node) = .ok { name := "tool", globalOptions := [o] } := by
    rw [Program.ofDocument_object]
    rfl
  exact ⟨problems_checkDocument_eq_nil_iff.2 ⟨node, rfl, hnode⟩, hread, rfl, by decide, by decide⟩

end Tabsmith.Zsh
