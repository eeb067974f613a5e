import Tabsmith.Bash.Completion
import Tabsmith.Proofs.Acceptance.Small
import Tabsmith.Proofs.Quoting
import Tabsmith.Proofs.Reading.Parts

/-!
The patterns of `case` branches in bash, read by the rules of this shell. The patterns of a branch match the
names that they were written for and nothing else, unless the first name is the word that ends a `case`.
-/

namespace Tabsmith.Bash

/-! ## Patterns -/

/-- A part of a pattern: a character that matches just itself, or a wildcard for any one character or for any
text. -/
inductive PatternPart where
  | just (c : Char)
  | anyOne
  | anyText
deriving DecidableEq, Repr, Inhabited

/-- A pattern matches a text. -/
def Matches : List PatternPart → List Char → Prop
  | [], text => text = []
  | .just c :: parts, text => ∃ rest, text = c :: rest ∧ Matches parts rest
  | .anyOne :: parts, text => ∃ c rest, text = c :: rest ∧ Matches parts rest
  | .anyText :: parts, text => ∃ lead rest, text = lead ++ rest ∧ Matches parts rest

/-- The pattern that has no wildcards. -/
def literalPattern (text : List Char) : List PatternPart :=
  text.map .just

/-- Without wildcards a pattern matches its own text only. -/
theorem matches_literalPattern_iff {text other : List Char} :
    Matches (literalPattern text) other ↔ other = text := by
  induction text generalizing other with
  | nil => rfl
  | cons c text ih =>
    constructor
    · rintro ⟨rest, rfl, hrest⟩
      rw [ih.1 hrest]
    · rintro rfl
      exact ⟨text, rfl, ih.2 rfl⟩

/-! ## Reading the patterns of a branch -/

/-- What comes of reading the start of a branch: its patterns and what follows the parenthesis after them, or the
end of the `case`, or no patterns. -/
inductive BranchStart where
  | patterns (patterns : List (List PatternPart)) (rest : List Char)
  | endsCase
  | broken
deriving DecidableEq, Repr, Inhabited

/-- The patterns with more parts at the start of the first one. -/
def BranchStart.prepend (parts : List PatternPart) : BranchStart → BranchStart
  | patterns ps rest => patterns (ps.modifyHead (parts ++ ·)) rest
  | other => other

/-- The patterns with an empty one before them. -/
def BranchStart.next : BranchStart → BranchStart
  | patterns ps rest => patterns ([] :: ps) rest
  | other => other

/-- A character of a pattern is bare, be it the first one or not, or it stands between double quotes. -/
inductive PatternMode where
  | bare (started : Bool)
  | quoted
deriving DecidableEq, Repr, Inhabited

/-- The characters that end a word. -/
def wordEnds : List Char :=
  [' ', '\t', '\n', ';', '&', '|', '<', '>', '(', ')']

def endsWord (c : Char) : Bool :=
  wordEnds.contains c

/-- The other bare characters that stand for something else than themselves: quotes, what starts an expansion or
a comment, and the brackets of character classes. -/
def bareMarks : List Char :=
  ['\\', '\'', '"', '$', '`', '~', '#', '[', ']']

/-- The characters that are bare in a pattern and match just themselves. -/
def isLiteral (c : Char) : Bool :=
  !(wordEnds ++ bareMarks ++ ['*', '?']).contains c

/-- Reading on in the patterns of a branch, up to the parenthesis after them. A bar stands between two patterns,
and a pattern has a character or a quote at least. Double quotes are read as everywhere. -/
def readPatterns : PatternMode → List Char → BranchStart
  | _, [] => .broken
  | .bare started, c :: rest =>
    if c = ')' then if started then .patterns [[]] rest else .broken
    else if c = '|' then if started then (readPatterns (.bare false) rest).next else .broken
    else if c = '"' then readPatterns .quoted rest
    else if c = '*' then (readPatterns (.bare true) rest).prepend [.anyText]
    else if c = '?' then (readPatterns (.bare true) rest).prepend [.anyOne]
    else if isLiteral c then (readPatterns (.bare true) rest).prepend [.just c]
    else .broken
  | .quoted, '"' :: rest => readPatterns (.bare true) rest
  | .quoted, '\\' :: c :: rest =>
    if c = '\n' then readPatterns .quoted rest
    else if isActive c then (readPatterns .quoted rest).prepend [.just c]
    else (readPatterns .quoted rest).prepend [.just '\\', .just c]
  | .quoted, c :: rest =>
    if c = '$' || c = '`' then .broken else (readPatterns .quoted rest).prepend [.just c]

/-- Reading the start of a branch. If its first word is `esac` and has no quotes, it is no pattern. -/
def readBranch (line : String) : BranchStart :=
  let branch := line.toList.dropWhile (· = ' ')
  if branch.takeWhile (fun c => !endsWord c) = "esac".toList then .endsCase
  else readPatterns (.bare false) branch

theorem BranchStart.prepend_prepend (lead parts : List PatternPart) (start : BranchStart) :
    (start.prepend parts).prepend lead = start.prepend (lead ++ parts) := by
  cases start <;> simp [prepend, Function.comp_def]

theorem BranchStart.prepend_nil (start : BranchStart) : start.prepend [] = start := by
  cases start with
  | patterns ps rest => exact congrArg (patterns · rest) (congrFun List.modifyHead_id ps)
  | endsCase => rfl
  | broken => rfl

/-- What becomes of patterns that go on after a string has been read: its characters match just themselves. -/
def readAfter : QuotedText → BranchStart
  | .closed text rest => (readPatterns (.bare true) rest).prepend (literalPattern text)
  | _ => .broken

theorem readAfter_push (c : Char) (string : QuotedText) :
    readAfter (string.push c) = (readAfter string).prepend [.just c] := by
  cases string with
  | closed text rest => exact (BranchStart.prepend_prepend [.just c] _ _).symm
  | _ => rfl

/-- Between double quotes, a pattern is read like all strings. -/
theorem readPatterns_quoted (s : List Char) : readPatterns .quoted s = readAfter (readInside s) := by
  fun_induction readInside s with
  | case1 => rfl
  | case2 rest => exact (BranchStart.prepend_nil _).symm
  | case3 rest ih => rw [readPatterns, if_pos rfl, ih]
  | case4 c rest hfeed hactive ih =>
    have hactive : isActive c = true := by simpa [isActive, or_comm, or_assoc, or_left_comm] using hactive
    rw [readPatterns, if_neg hfeed, if_pos hactive, ih, readAfter_push]
  | case5 c rest hfeed hactive ih =>
    have hactive : ¬ isActive c = true := by simpa [isActive, and_comm, and_assoc, and_left_comm] using hactive
    rw [readPatterns, if_neg hfeed, if_neg hactive, ih, readAfter_push, readAfter_push,
      BranchStart.prepend_prepend, List.singleton_append]
  | case6 c rest hquote hescape hexpands =>
    rw [readPatterns, if_pos (by simpa using hexpands)]
    · rfl
    · exact hquote
    · exact hescape
  | case7 c rest hquote hescape hexpands ih =>
    rw [readPatterns, if_neg (by simpa using hexpands), ih, readAfter_push]
    · exact hquote
    · exact hescape

/-! ## The patterns that are written -/

theorem isLiteral_of_isPatternChar {c : Char} (hc : isPatternChar c = true) : isLiteral c = true := by
  have hnone : ((wordEnds ++ bareMarks ++ ['*', '?']).all fun d => !isPatternChar d) = true := by
    decide +kernel
  by_contra hliteral
  have hmem : c ∈ wordEnds ++ bareMarks ++ ['*', '?'] := by
    simpa only [isLiteral, Bool.not_eq_true', Bool.not_eq_false, List.contains_iff_mem] using hliteral
  have hnot := List.all_eq_true.1 hnone c hmem
  rw [hc] at hnot
  cases hnot

/-- A name is bare in a pattern, and has literal characters only; or it stands between double quotes. -/
theorem pattern_cases (name : String) :
    (pattern name = name ∧ name ≠ "" ∧ ∀ c ∈ name.toList, isLiteral c = true) ∨
      pattern name = "\"" ++ escape name ++ "\"" := by
  rw [pattern]
  split
  next hbare =>
    obtain ⟨hname, hall⟩ : name ≠ "" ∧ name.toList.all isPatternChar = true := by simpa using hbare
    exact .inl ⟨rfl, hname, fun c hc => isLiteral_of_isPatternChar (List.all_eq_true.1 hall c hc)⟩
  next => exact .inr rfl

theorem toList_quoted (name : String) :
    ("\"" ++ escape name ++ "\"").toList = '"' :: (name.toList.flatMap escapeChar ++ ['"']) := by
  simp [escape]

/-- A literal character is read as one that matches just itself. -/
theorem readPatterns_of_isLiteral {c : Char} (hc : isLiteral c = true) (started : Bool) (rest : List Char) :
    readPatterns (.bare started) (c :: rest) = (readPatterns (.bare true) rest).prepend [.just c] := by
  have hdiffers : ∀ d, isLiteral d = false → c ≠ d := by
    rintro d hd rfl
    rw [hc] at hd
    cases hd
  rw [readPatterns, if_neg (hdiffers ')' rfl), if_neg (hdiffers '|' rfl), if_neg (hdiffers '"' rfl),
    if_neg (hdiffers '*' rfl), if_neg (hdiffers '?' rfl), if_pos hc]

theorem readPatterns_literal {text : List Char} (htext : ∀ c ∈ text, isLiteral c = true) (rest : List Char) :
    readPatterns (.bare true) (text ++ rest) =
      (readPatterns (.bare true) rest).prepend (literalPattern text) := by
  induction text with
  | nil => exact (BranchStart.prepend_nil _).symm
  | cons c text ih =>
    obtain ⟨hc, htext⟩ := List.forall_mem_cons.1 htext
    rw [List.cons_append, readPatterns_of_isLiteral hc, ih htext, BranchStart.prepend_prepend]
    rfl

/-- The pattern of a name is read as its literal pattern, and the patterns go on after it. -/
theorem readPatterns_pattern (name : String) (rest : List Char) :
    readPatterns (.bare false) ((pattern name).toList ++ rest) =
      (readPatterns (.bare true) rest).prepend (literalPattern name.toList) := by
  obtain ⟨hbare, hname, hliteral⟩ | hquoted := pattern_cases name
  · rw [hbare, ← readPatterns_literal hliteral]
    obtain ⟨c, text, hchars⟩ := List.exists_cons_of_ne_nil (mt String.toList_eq_nil_iff.1 hname)
    have hc : isLiteral c = true := hliteral c (by rw [hchars]; exact List.mem_cons_self)
    rw [hchars, List.cons_append, readPatterns_of_isLiteral hc, readPatterns_of_isLiteral hc]
  · rw [hquoted, toList_quoted, List.cons_append, List.append_assoc, List.singleton_append]
    change readPatterns .quoted _ = _
    rw [readPatterns_quoted, readInside_escape]
    rfl

/-- The patterns of a branch, and what follows the parenthesis after them. -/
def branchText (names : List String) (rest : List Char) : List Char :=
  ['|'].intercalate ((names.map pattern).map String.toList) ++ ')' :: rest

theorem branchText_singleton (name : String) (rest : List Char) :
    branchText [name] rest = (pattern name).toList ++ ')' :: rest := by
  simp [branchText]

theorem branchText_cons_cons (name next : String) (others : List String) (rest : List Char) :
    branchText (name :: next :: others) rest =
      (pattern name).toList ++ '|' :: branchText (next :: others) rest := by
  simp [branchText, List.intercalate_cons_cons]

theorem toList_patternLine (names : List String) (rest : String) :
    (patternLine names ++ rest).toList = "    ".toList ++ branchText names rest.toList := by
  simp [patternLine, branchText, String.toList_intercalate]

/-- The patterns of a branch are read one after the other. -/
theorem readPatterns_branchText (name : String) (others : List String) (rest : List Char) :
    readPatterns (.bare false) (branchText (name :: others) rest) =
      .patterns ((name :: others).map fun n => literalPattern n.toList) rest := by
  induction others generalizing name with
  | nil =>
    rw [branchText_singleton, readPatterns_pattern]
    simp [readPatterns, BranchStart.prepend]
  | cons next others ih =>
    have hbar (s : List Char) : readPatterns (.bare true) ('|' :: s) = (readPatterns (.bare false) s).next :=
      rfl
    rw [branchText_cons_cons, readPatterns_pattern, hbar, ih next]
    simp [BranchStart.next, BranchStart.prepend]

/-! ## Which branches match their names -/

theorem isLiteral_space : isLiteral ' ' = false :=
  rfl

theorem endsWord_eq_false_of_isLiteral {c : Char} (hc : isLiteral c = true) : endsWord c = false := by
  simp only [isLiteral, List.contains_append, Bool.not_or, Bool.and_eq_true] at hc
  exact (Bool.not_eq_true' _).mp hc.1.1

/-- The first word of a branch is `esac` only if the name is: a string starts with its quote. -/
theorem firstWord_eq_iff (name : String) {d : Char} (hd : endsWord d = true) (rest : List Char) :
    ((pattern name).toList ++ d :: rest).takeWhile (fun c => !endsWord c) = "esac".toList ↔ name = "esac" := by
  obtain ⟨hbare, _, hliteral⟩ | hquoted := pattern_cases name
  · have hword : ∀ c ∈ name.toList, (!endsWord c) = true := by
      intro c hc
      rw [endsWord_eq_false_of_isLiteral (hliteral c hc), Bool.not_false]
    rw [hbare, List.takeWhile_append_of_pos hword, List.takeWhile_cons_of_neg (by simp [hd]), List.append_nil,
      String.toList_inj]
  · constructor
    · intro hword
      rw [hquoted, toList_quoted] at hword
      cases hword
    · rintro rfl
      exact absurd hquoted (by decide)

theorem head?_pattern (name : String) : ∃ c text, (pattern name).toList = c :: text ∧ c ≠ ' ' := by
  obtain ⟨hbare, hname, hliteral⟩ | hquoted := pattern_cases name
  · obtain ⟨c, text, hchars⟩ := List.exists_cons_of_ne_nil (mt String.toList_eq_nil_iff.1 hname)
    refine ⟨c, text, by rw [hbare, hchars], ?_⟩
    rintro rfl
    have hspace := hliteral ' ' (by rw [hchars]; exact List.mem_cons_self)
    rw [isLiteral_space] at hspace
    cases hspace
  · exact ⟨'"', _, by rw [hquoted, toList_quoted], by decide⟩

/-- The first pattern of a branch stands before a character that ends words. -/
theorem exists_branchText_eq (name : String) (others : List String) (rest : List Char) :
    ∃ d more, endsWord d = true ∧ branchText (name :: others) rest = (pattern name).toList ++ d :: more := by
  cases others with
  | nil => exact ⟨')', rest, rfl, branchText_singleton name rest⟩
  | cons next others => exact ⟨'|', _, rfl, branchText_cons_cons name next others rest⟩

/-- A branch for names is read as one pattern for each of them, which matches this name and nothing else, exactly
if the first name is not `esac`: this word is written bare like other words, and ends the `case`. The name of a
pattern that is written bare has only characters that match just themselves, and any other pattern is a string
that reads as its name. -/
theorem branch_matches_names_iff (name : String) (others : List String) (rest : String) :
    (∀ n ∈ name :: others, (pattern n = n ∧ ∀ c ∈ n.toList, isLiteral c = true) ∨
        readString (pattern n).toList = .closed n.toList []) ∧
      ((∃ patterns, readBranch (patternLine (name :: others) ++ rest) = .patterns patterns rest.toList ∧
          List.Forall₂ (fun pattern n => ∀ text, Matches pattern text ↔ text = n.toList) patterns
            (name :: others)) ↔ name ≠ "esac") := by
  constructor
  · intro n _
    obtain ⟨hbare, _, hliteral⟩ | hquoted := pattern_cases n
    · exact .inl ⟨hbare, hliteral⟩
    · rw [hquoted, toList_quoted]
      exact .inr (readInside_escape n.toList [])
  · obtain ⟨d, more, hd, hfirst⟩ := exists_branchText_eq name others rest.toList
    have hbranch : (patternLine (name :: others) ++ rest).toList.dropWhile (· = ' ') =
        branchText (name :: others) rest.toList := by
      obtain ⟨c, text, hchars, hspace⟩ := head?_pattern name
      rw [toList_patternLine, List.dropWhile_append_of_pos (by simp), hfirst, hchars, List.cons_append,
        List.dropWhile_cons_of_neg (by simpa using hspace)]
    have hword : (branchText (name :: others) rest.toList).takeWhile (fun c => !endsWord c) = "esac".toList ↔
        name = "esac" := by
      rw [hfirst]
      exact firstWord_eq_iff name hd more
    rw [readBranch, hbranch]
    constructor
    · rintro ⟨patterns, hread, _⟩ hname
      rw [if_pos (hword.2 hname)] at hread
      cases hread
    · intro hname
      refine ⟨(name :: others).map fun n => literalPattern n.toList, ?_, ?_⟩
      · rw [if_neg (mt hword.1 hname), readPatterns_branchText]
      · rw [List.forall₂_map_left_iff, List.forall₂_same]
        exact fun _ _ _ => matches_literalPattern_iff

example : readBranch "    -a|\"x\\$y\") ls" =
    .patterns [literalPattern "-a".toList, literalPattern "x$y".toList] " ls".toList := by decide

example : readBranch "    a*) ls" = .patterns [[.just 'a', .anyText]] " ls".toList := by decide

/-- The branch for a command of this name ends the `case` before it. -/
theorem esac_ends_case :
    let force : Fields := [("name", .text "force")]
    let esac : Fields := [("name", .text "esac"), ("options", .list [.object force])]
    let node : Fields := [("name", .text "tool"), ("commands", .list [.object esac])]
    let p : Program :=
      { name := "tool", commands := [{ name := "esac", options := [{ name := "force" }] }] }
    (checkDocument (.object node)).problems = [] ∧ Program.ofDocument (.object node) = .ok p ∧
      .dispatch 1 [⟨"esac", functionName ["tool", "esac"]⟩] .none ∈ (script p).entry.body ∧
      readBranch (patternLine ["esac"]) = .endsCase ∧
      ¬ ∃ parts, readBranch (patternLine ["esac"]) = .patterns [parts] [] := by
  intro force esac node p
  have hforce : IsOption force := isOption_of_name (by decide)
  have hesac : IsCommand esac :=
    isCommand_of_options (by decide) (List.forall_mem_singleton.2 hforce) (by decide)
  have hnode : IsProgram node :=
    isProgram_of_commands (by decide) (List.forall_mem_singleton.2 hesac) (by decide)
  have hread : Command.ofDocument (.object esac) =
      .ok { name := "esac", options := [{ name := "force" }] } := by
    rw [Command.ofDocument_object]
    rfl
  have hends : readBranch (patternLine ["esac"]) = .endsCase := by decide
  refine ⟨problems_checkDocument_eq_nil_iff.2 ⟨node, rfl, hnode⟩,
    Program.ofDocument_of_command "tool" (by decide) hread, ?_, hends, ?_⟩
  · exact List.mem_of_getLast? rfl
  · rw [hends]
    nofun

end Tabsmith.Bash
