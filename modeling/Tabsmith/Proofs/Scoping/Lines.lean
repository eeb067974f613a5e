import Tabsmith.Proofs.Patterns
import Tabsmith.Proofs.Scoping

/-!
The expansions of variables on the lines of bash functions. Names and values of the program are escaped on
them, so that the lines expand only the variables that the statements use, besides those of the words typed.
-/

namespace Tabsmith.Bash

/-! ## Expansions -/

/-- The names that some code expands: what follows the dollars that no backslash makes just themselves, with or
without a brace. The name is empty where something else is expanded. -/
def expandedNames : List Char → List (List Char)
  | [] => []
  | '\\' :: _ :: rest => expandedNames rest
  | '$' :: '\x7b' :: rest => rest.takeWhile isIdentifierChar :: expandedNames rest
  | '$' :: rest => rest.takeWhile isIdentifierChar :: expandedNames rest
  | _ :: rest => expandedNames rest

/-- Code in which nothing is expanded, and which leaves the code after it as it is. -/
def IsInert (code : List Char) : Prop :=
  ∀ rest, expandedNames (code ++ rest) = expandedNames rest

/-- A line expands a variable. -/
def Variable.IsExpandedIn (v : Variable) (line : String) : Prop :=
  v.name.toList ∈ expandedNames line.toList

/-- A line declares a variable of the function that it stands in. -/
def Variable.IsDeclaredIn (v : Variable) (line : String) : Prop :=
  ("  local " ++ v.name ++ "=").toList <+: line.toList

instance (v : Variable) (line : String) : Decidable (v.IsExpandedIn line) :=
  inferInstanceAs (Decidable (v.name.toList ∈ expandedNames line.toList))

theorem isInert_nil : IsInert [] :=
  fun _ => rfl

theorem IsInert.eq {code : List Char} (hcode : IsInert code) (rest : List Char) :
    expandedNames (code ++ rest) = expandedNames rest :=
  hcode rest

theorem IsInert.append {code more : List Char} (hcode : IsInert code) (hmore : IsInert more) :
    IsInert (code ++ more) := by
  intro rest
  rw [List.append_assoc, hcode, hmore]

theorem IsInert.expandedNames_eq {code : List Char} (hcode : IsInert code) : expandedNames code = [] := by
  have h := hcode []
  rwa [List.append_nil] at h

theorem isInert_singleton {c : Char} (hbackslash : c ≠ '\\') (hdollar : c ≠ '$') : IsInert [c] := by
  intro rest
  rw [List.singleton_append, expandedNames]
  · exact fun _ _ heq => absurd heq hbackslash
  · exact fun _ heq => absurd heq hdollar
  · exact fun heq => absurd heq hdollar

theorem isInert_of_forall {code : List Char} (hcode : ∀ c ∈ code, c ≠ '\\' ∧ c ≠ '$') : IsInert code := by
  induction code with
  | nil => exact isInert_nil
  | cons c code ih =>
    obtain ⟨hc, hcode⟩ := List.forall_mem_cons.1 hcode
    exact (isInert_singleton hc.1 hc.2).append (ih hcode)

theorem isInert_of_all {code : String} (hcode : (code.toList.all fun c => c ≠ '\\' && c ≠ '$') = true) :
    IsInert code.toList :=
  isInert_of_forall fun c hc => by simpa using List.all_eq_true.1 hcode c hc

theorem isInert_escapeChar (c : Char) : IsInert (escapeChar c) := by
  rw [escapeChar]
  split
  · intro rest
    rfl
  next hc =>
    refine isInert_singleton ?_ ?_
    · rintro rfl
      exact hc rfl
    · rintro rfl
      exact hc rfl

/-- An escaped text is inert. -/
theorem isInert_escape (text : List Char) : IsInert (text.flatMap escapeChar) := by
  induction text with
  | nil => exact isInert_nil
  | cons c text ih =>
    rw [List.flatMap_cons]
    exact (isInert_escapeChar c).append ih

theorem isInert_intercalate {separator : List Char} (hseparator : IsInert separator)
    {parts : List (List Char)} (hparts : ∀ part ∈ parts, IsInert part) : IsInert (separator.intercalate parts) := by
  induction parts with
  | nil => exact isInert_nil
  | cons part rest ih =>
    obtain ⟨hpart, hrest⟩ := List.forall_mem_cons.1 hparts
    cases rest with
    | nil => rwa [List.intercalate_singleton]
    | cons next rest =>
      rw [List.intercalate_cons_cons]
      exact (hpart.append hseparator).append (ih hrest)

theorem isInert_wordList (words : List String) : IsInert (wordList words).toList := by
  rw [toList_wordList]
  exact isInert_escape _

theorem isInert_pattern (name : String) : IsInert (pattern name).toList := by
  obtain ⟨hbare, _, hliteral⟩ | hquoted := pattern_cases name
  · rw [hbare]
    refine isInert_of_forall fun c hc => ⟨?_, ?_⟩
    all_goals
      rintro rfl
      cases hliteral _ hc
  · have hquote : IsInert ['"'] := isInert_singleton (by decide) (by decide)
    rw [hquoted, toList_quoted]
    exact hquote.append ((isInert_escape name.toList).append hquote)

theorem isInert_patternLine (words : List String) : IsInert (patternLine words).toList := by
  have hpatterns : IsInert (['|'].intercalate ((words.map pattern).map String.toList)) := by
    refine isInert_intercalate (isInert_singleton (by decide) (by decide)) fun part hpart => ?_
    rw [List.map_map] at hpart
    obtain ⟨word, _, rfl⟩ := List.mem_map.1 hpart
    exact isInert_pattern word
  rw [patternLine, String.toList_append, String.toList_append, String.toList_intercalate]
  exact ((isInert_of_all (by decide)).append hpatterns).append (isInert_of_all (by decide))

theorem isInert_functionName (segments : List String) : IsInert (functionName segments).toList := by
  refine isInert_of_forall fun c hc => ⟨?_, ?_⟩
  all_goals
    rintro rfl
    cases List.all_eq_true.1 (all_isIdentifierChar_functionName segments) _ hc

theorem isInert_toString (n : Nat) : IsInert (toString n).toList := by
  refine isInert_of_forall fun c hc => ⟨?_, ?_⟩
  all_goals
    rintro rfl
    have hdigits := by simpa using hc
    cases Nat.isDigit_of_mem_toDigits (by decide) (by decide) hdigits

/-! ## The lines of statements -/

/-- A line expands no variables but some. -/
def ExpandsOnly (used : List Variable) (line : String) : Prop :=
  ∀ v : Variable, v.IsExpandedIn line → v ∈ used

theorem IsInert.expandsOnly {line : String} (hline : IsInert line.toList) (used : List Variable) :
    ExpandsOnly used line := by
  intro v hv
  rw [Variable.IsExpandedIn, hline.expandedNames_eq] at hv
  cases hv

/-- The names that lines expand besides those of variables: those of the words typed, and the empty name where a
command runs. -/
def otherNames : List (List Char) :=
  ["", "cur", "prev", "words", "cword", "COMP_WORDS", "COMP_CWORD"].map String.toList

theorem Variable.name_notMem_otherNames (v : Variable) : v.name.toList ∉ otherNames := by
  cases v <;> decide

theorem expandsOnly_of_subset {line : String} (hline : expandedNames line.toList ⊆ otherNames)
    (used : List Variable) : ExpandsOnly used line :=
  fun v hv => absurd (hline hv) v.name_notMem_otherNames

theorem expandsOnly_indented {indent code : String} (hindent : IsInert indent.toList)
    (hcode : expandedNames code.toList ⊆ otherNames) (used : List Variable) :
    ExpandsOnly used (indent ++ code) := by
  refine expandsOnly_of_subset ?_ used
  rwa [String.toList_append, hindent.eq]

theorem Variable.name_inj {v w : Variable} (hname : v.name.toList = w.name.toList) : v = w := by
  cases v <;> cases w <;> first | rfl | cases hname

/-- A reply without the command of a hint. -/
def Reply.withoutCommand : Reply → Reply
  | output _ => output ""
  | other => other

/-- A statement without the commands of hints. -/
def Statement.withoutCommands : Statement → Statement
  | atWord index r => atWord index r.withoutCommand
  | atFlag r => atFlag r.withoutCommand
  | afterFlag branches => afterFlag (branches.map fun branch => ⟨branch.flags, branch.reply.withoutCommand⟩)
  | dispatch index branches otherwise => dispatch index branches otherwise.withoutCommand
  | reply r => reply r.withoutCommand
  | other => other

/-- A function without the commands of hints. -/
def Function.withoutCommands (f : Function) : Function :=
  { f with body := f.body.map Statement.withoutCommands }

theorem expandedNames_variable (v : Variable) {c : Char} (hc : c = ' ' ∨ c = '"') (rest : List Char) :
    expandedNames (("$" ++ v.name).toList ++ c :: rest) = v.name.toList :: expandedNames (c :: rest) := by
  obtain rfl | rfl := hc <;> cases v <;> rfl

/-- A list of variables expands these. -/
theorem expandedNames_held (names : List Variable) (rest : List Char) :
    expandedNames ((" ".intercalate (names.map fun v => "$" ++ v.name)).toList ++ '"' :: rest) =
      names.map (fun v => v.name.toList) ++ expandedNames ('"' :: rest) := by
  induction names with
  | nil => rfl
  | cons v others ih =>
    cases others with
    | nil => exact expandedNames_variable v (.inr rfl) rest
    | cons w others =>
      let later := " ".intercalate ((w :: others).map fun v => "$" ++ v.name)
      have hlist : (" ".intercalate ((v :: w :: others).map fun v => "$" ++ v.name)).toList ++ '"' :: rest =
          ("$" ++ v.name).toList ++ ' ' :: (later.toList ++ '"' :: rest) := by
        have hjoin : " ".intercalate ((v :: w :: others).map fun v => "$" ++ v.name) =
            "$" ++ v.name ++ " " ++ later := String.intercalate_cons_cons
        rw [hjoin]
        simp
      have hspace : IsInert [' '] := isInert_singleton (by decide) (by decide)
      have hrest := hspace.eq (later.toList ++ '"' :: rest)
      rw [List.singleton_append, ih] at hrest
      rw [hlist, expandedNames_variable v (.inl rfl), hrest]
      rfl

theorem toList_fromWords (words : String) : (fromWords words).toList =
    "COMPREPLY=(".toList ++ '$' :: ("(compgen -W \"".toList ++
      (words.toList ++ "\" -- \"$cur\"))".toList)) := by
  unfold fromWords
  simp

theorem expandedNames_fromWords {indent : String} (hindent : IsInert indent.toList) (words : String) :
    expandedNames (indent ++ fromWords words).toList =
      [] :: expandedNames (words.toList ++ "\" -- \"$cur\"))".toList) := by
  have hopening : IsInert "COMPREPLY=(".toList := isInert_of_all (by decide)
  have hcommand : IsInert "(compgen -W \"".toList := isInert_of_all (by decide)
  rw [String.toList_append, hindent.eq, toList_fromWords, hopening.eq]
  change [] :: expandedNames ("(compgen -W \"".toList ++ _) = _
  rw [hcommand.eq]

/-- Without the command of a hint, a reply expands the variables that it uses. -/
theorem expandsOnly_reply {indent : String} (hindent : IsInert indent.toList) (r : Reply) :
    ExpandsOnly r.used (indent ++ r.withoutCommand.text) := by
  cases r with
  | none => exact expandsOnly_indented hindent (by decide) _
  | files => exact expandsOnly_indented hindent (by decide) _
  | folders => exact expandsOnly_indented hindent (by decide) _
  | output command =>
    change ExpandsOnly _ (indent ++ (Reply.output "").text)
    exact expandsOnly_indented hindent (by decide) _
  | words ws =>
    refine expandsOnly_of_subset ?_ _
    change expandedNames (indent ++ fromWords (wordList ws)).toList ⊆ otherNames
    rw [expandedNames_fromWords hindent, (isInert_wordList ws).eq]
    decide
  | held names =>
    intro v hv
    have hlist := expandedNames_held names " -- \"$cur\"))".toList
    change v.name.toList ∈ expandedNames
      (indent ++ fromWords (" ".intercalate (names.map fun v => "$" ++ v.name))).toList at hv
    rw [expandedNames_fromWords hindent] at hv
    change v.name.toList ∈ [] :: expandedNames (_ ++ '"' :: " -- \"$cur\"))".toList) at hv
    rw [hlist, List.mem_cons, List.mem_append] at hv
    obtain hempty | hheld | htyped := hv
    · exact absurd (hempty ▸ by decide : v.name.toList ∈ otherNames) v.name_notMem_otherNames
    · obtain ⟨w, hw, hname⟩ := List.mem_map.1 hheld
      rwa [← Variable.name_inj hname]
    · have hother : expandedNames ('"' :: " -- \"$cur\"))".toList) ⊆ otherNames := by decide
      exact absurd (hother htyped) v.name_notMem_otherNames

theorem ExpandsOnly.mono {used more : List Variable} {line : String} (hline : ExpandsOnly used line)
    (hsubset : used ⊆ more) : ExpandsOnly more line :=
  fun v hv => hsubset (hline v hv)

theorem forall_expandsOnly_of_subset {lines : List String}
    (hlines : (lines.all fun line => decide (expandedNames line.toList ⊆ otherNames)) = true)
    (used : List Variable) : ∀ line ∈ lines, ExpandsOnly used line := by
  intro line hline
  exact expandsOnly_of_subset (of_decide_eq_true (List.all_eq_true.1 hlines line hline)) used

theorem expandsOnly_valueLines (branch : ValueBranch) : ∀ line ∈
    Statement.valueLines ⟨branch.flags, branch.reply.withoutCommand⟩, ExpandsOnly branch.reply.used line := by
  refine List.forall_mem_cons.2 ⟨(isInert_patternLine branch.flags).expandsOnly _, ?_⟩
  refine List.forall_mem_cons.2 ⟨expandsOnly_reply (isInert_of_all (by decide)) branch.reply, ?_⟩
  exact forall_expandsOnly_of_subset (by decide) _

theorem expandsOnly_branchLines {branch : Branch} (htarget : ∃ segments, branch.target = functionName segments)
    (used : List Variable) : ∀ line ∈ Statement.branchLines branch, ExpandsOnly used line := by
  obtain ⟨segments, htarget⟩ := htarget
  refine List.forall_mem_cons.2 ⟨(isInert_patternLine [branch.word]).expandsOnly _, ?_⟩
  refine List.forall_mem_cons.2 ⟨IsInert.expandsOnly ?_ _, forall_expandsOnly_of_subset (by decide) _⟩
  rw [htarget, String.toList_append]
  exact (isInert_of_all (by decide)).append (isInert_functionName segments)

theorem expandsOnly_guardedLines {condition : String}
    (hcondition : expandedNames ("  if [[ " ++ condition ++ " ]]; then").toList ⊆ otherNames) (r : Reply) :
    ∀ line ∈ Statement.guardedLines condition r.withoutCommand, ExpandsOnly r.used line := by
  refine List.forall_mem_cons.2 ⟨expandsOnly_of_subset hcondition _, ?_⟩
  refine List.forall_mem_cons.2 ⟨expandsOnly_reply (isInert_of_all (by decide)) r, ?_⟩
  exact forall_expandsOnly_of_subset (by decide) _

theorem expandedNames_wordGuard (index : Nat) :
    expandedNames ("  if [[ " ++ s!"$cword -eq {index}" ++ " ]]; then").toList ⊆ otherNames := by
  have hline : ("  if [[ " ++ s!"$cword -eq {index}" ++ " ]]; then").toList =
      "  if [[ ".toList ++ '$' :: ("cword -eq ".toList ++ ((toString index).toList ++ " ]]; then".toList)) := by
    change ("  if [[ " ++ ("$cword -eq " ++ toString index) ++ " ]]; then").toList = _
    simp
  have hopening : IsInert "  if [[ ".toList := isInert_of_all (by decide)
  have hoperator : IsInert "cword -eq ".toList := isInert_of_all (by decide)
  have hclosing : IsInert " ]]; then".toList := isInert_of_all (by decide)
  rw [hline, hopening.eq]
  change "cword".toList :: expandedNames ("cword -eq ".toList ++ _) ⊆ _
  rw [hoperator.eq, (isInert_toString index).eq, hclosing.expandedNames_eq]
  decide

theorem expandedNames_wordCase (index : Nat) :
    expandedNames (s!"  case \"$\x7bwords[{index}]\x7d\" in").toList ⊆ otherNames := by
  have hline : (s!"  case \"$\x7bwords[{index}]\x7d\" in").toList =
      "  case \"".toList ++ '$' :: '\x7b' :: ("words[".toList ++
        ((toString index).toList ++ "]\x7d\" in".toList)) := by
    change ("  case \"$\x7bwords[" ++ toString index ++ "]\x7d\" in").toList = _
    simp
  have hopening : IsInert "  case \"".toList := isInert_of_all (by decide)
  have hsubscript : IsInert "words[".toList := isInert_of_all (by decide)
  have hclosing : IsInert "]\x7d\" in".toList := isInert_of_all (by decide)
  rw [hline, hopening.eq]
  change "words".toList :: expandedNames ("words[".toList ++ _) ⊆ _
  rw [hsubscript.eq, (isInert_toString index).eq, hclosing.expandedNames_eq]
  decide

/-- Without the commands of hints, the lines of a statement expand no variables but those that it uses. -/
theorem Statement.expandsOnly_lines {s : Statement}
    (hcalls : ∀ name ∈ s.calls, ∃ segments, name = functionName segments) :
    ∀ line ∈ s.withoutCommands.lines, ExpandsOnly s.used line := by
  cases s with
  | blank => exact forall_expandsOnly_of_subset (by decide) _
  | prepare => exact forall_expandsOnly_of_subset (by decide) _
  | declare target words =>
    refine List.forall_mem_singleton.2 (IsInert.expandsOnly ?_ _)
    have hopening : IsInert ("  local " ++ target.name ++ "=\"").toList := by
      cases target <;> exact isInert_of_all (by decide)
    rw [String.toList_append, String.toList_append]
    exact (hopening.append (isInert_wordList words)).append (isInert_of_all (by decide))
  | atWord index r => exact expandsOnly_guardedLines (expandedNames_wordGuard index) r
  | atFlag r => exact expandsOnly_guardedLines (by decide) r
  | afterFlag branches =>
    change ∀ line ∈ ["  case \"$prev\" in"] ++ (branches.map _).flatMap valueLines ++ ["  esac"], _
    rw [List.flatMap_map, List.forall_mem_append, List.forall_mem_append]
    refine ⟨⟨forall_expandsOnly_of_subset (by decide) _, fun line hline => ?_⟩,
      forall_expandsOnly_of_subset (by decide) _⟩
    obtain ⟨branch, hbranch, hline⟩ := List.mem_flatMap.1 hline
    refine (expandsOnly_valueLines branch line hline).mono fun v hv => ?_
    exact List.mem_flatMap.2 ⟨branch, hbranch, hv⟩
  | dispatch index branches otherwise =>
    change ∀ line ∈ [s!"  case \"$\x7bwords[{index}]\x7d\" in"] ++ branches.flatMap branchLines ++
      ["    *)", "      " ++ otherwise.withoutCommand.text, "      ;;", "  esac"], _
    rw [List.forall_mem_append, List.forall_mem_append]
    refine ⟨⟨List.forall_mem_singleton.2 (expandsOnly_of_subset (expandedNames_wordCase index) _),
      fun line hline => ?_⟩, ?_⟩
    · obtain ⟨branch, hbranch, hline⟩ := List.mem_flatMap.1 hline
      exact expandsOnly_branchLines (hcalls branch.target (List.mem_map_of_mem hbranch)) _ line hline
    · refine List.forall_mem_cons.2 ⟨(isInert_of_all (by decide)).expandsOnly _, ?_⟩
      refine List.forall_mem_cons.2 ⟨expandsOnly_reply (isInert_of_all (by decide)) otherwise, ?_⟩
      exact forall_expandsOnly_of_subset (by decide) _
  | reply r => exact List.forall_mem_singleton.2 (expandsOnly_reply (isInert_of_all (by decide)) r)

/-! ## Declarations come first -/

/-- Of the lines of a function, those that expand a variable stand after one that declares it. -/
def DeclaresFirst (lines : List String) : Prop :=
  ∀ before line after, lines = before ++ line :: after →
    ∀ v : Variable, v.IsExpandedIn line → ∃ declaration ∈ before, v.IsDeclaredIn declaration

theorem DeclaresFirst.append {lines more : List String} (hlines : DeclaresFirst lines)
    (hmore : ∀ line ∈ more, ∀ v : Variable, v.IsExpandedIn line →
      ∃ declaration ∈ lines, v.IsDeclaredIn declaration) : DeclaresFirst (lines ++ more) := by
  intro before line after hsplit v hv
  obtain ⟨between, hbefore, hafter⟩ | ⟨between, hbefore, hafter⟩ := List.append_eq_append_iff.1 hsplit
  · obtain ⟨declaration, hdeclaration, hv⟩ := hmore line (by simp [hafter]) v hv
    exact ⟨declaration, hbefore ▸ List.mem_append_left _ hdeclaration, hv⟩
  · cases between with
    | nil =>
      rw [List.append_nil] at hbefore
      rw [List.nil_append] at hafter
      exact hbefore ▸ hmore line (hafter ▸ List.mem_cons_self) v hv
    | cons first between =>
      obtain ⟨rfl, _⟩ := List.cons.inj hafter
      exact hlines before line between hbefore v hv

theorem Variable.isDeclaredIn_declare {s : Statement} {v : Variable} (hv : v ∈ s.target?) :
    ∃ declaration ∈ s.withoutCommands.lines, v.IsDeclaredIn declaration := by
  cases s with
  | declare target words =>
    obtain rfl : target = v := Option.mem_some_iff.1 hv
    refine ⟨_, List.mem_singleton_self _, '"' :: ((wordList words).toList ++ ['"']), ?_⟩
    simp
  | _ => cases hv

theorem Function.exists_isDeclaredIn {f : Function} {s : Statement} {v : Variable} (hs : s ∈ f.body)
    (hv : v ∈ s.target?) : ∃ declaration ∈ f.withoutCommands.lines, v.IsDeclaredIn declaration := by
  obtain ⟨declaration, hdeclaration, hv⟩ := Variable.isDeclaredIn_declare hv
  have hbody : declaration ∈ f.withoutCommands.body.flatMap Statement.lines :=
    List.mem_flatMap.2 ⟨s.withoutCommands, List.mem_map_of_mem hs, hdeclaration⟩
  exact ⟨declaration, List.mem_append_left _ (List.mem_append_right _ hbody), hv⟩

/-- The lines of statements that use declared variables only, after lines that declare these. -/
theorem DeclaresFirst.append_statements {lines : List String} {declared : List Variable} {body : List Statement}
    (hlines : DeclaresFirst lines)
    (hdeclared : ∀ v ∈ declared, ∃ declaration ∈ lines, v.IsDeclaredIn declaration)
    (hscoped : Scoped declared body)
    (hcalls : ∀ name ∈ body.flatMap Statement.calls, ∃ segments, name = functionName segments) :
    DeclaresFirst (lines ++ (body.map Statement.withoutCommands).flatMap Statement.lines) := by
  induction body generalizing lines declared with
  | nil => rwa [List.map_nil, List.flatMap_nil, List.append_nil]
  | cons s rest ih =>
    obtain ⟨hs, hrest⟩ := hscoped
    rw [List.flatMap_cons, List.forall_mem_append] at hcalls
    rw [List.map_cons, List.flatMap_cons, ← List.append_assoc]
    refine ih (hlines.append fun line hline v hv => ?_) (fun v hv => ?_) hrest hcalls.2
    · exact hdeclared v (hs (Statement.expandsOnly_lines hcalls.1 line hline v hv))
    · obtain hv | hv := List.mem_append.1 hv
      · obtain ⟨declaration, hdeclaration, hv⟩ := Variable.isDeclaredIn_declare (Option.mem_toList.1 hv)
        exact ⟨declaration, List.mem_append_right _ hdeclaration, hv⟩
      · obtain ⟨declaration, hdeclaration, hv⟩ := hdeclared v hv
        exact ⟨declaration, List.mem_append_left _ hdeclaration, hv⟩

theorem declaresFirst_of_expandsOnly {lines : List String}
    (hlines : ∀ line ∈ lines, ExpandsOnly [] line) : DeclaresFirst lines := by
  rintro before line after rfl v hv
  cases hlines line (by simp) v hv

/-- The lines of a function whose statements use the variables only that they declare before. -/
theorem Function.declaresFirst {f : Function} (hnamed : f.IsNamed) (hscoped : Scoped [] f.body) :
    DeclaresFirst f.withoutCommands.lines := by
  have hopening : ∀ line ∈ [f.name ++ "() \x7b"], ExpandsOnly [] line := by
    obtain ⟨segments, hname⟩ := hnamed.named
    refine List.forall_mem_singleton.2 (IsInert.expandsOnly ?_ _)
    rw [hname, String.toList_append]
    exact (isInert_functionName segments).append (isInert_of_all (by decide))
  have hbody := (declaresFirst_of_expandsOnly hopening).append_statements (List.forall_mem_nil _) hscoped
    hnamed.calls
  have hclosing : ∀ line ∈ ["\x7d", ""], ExpandsOnly [] line := forall_expandsOnly_of_subset (by decide) _
  exact hbody.append fun line hline v hv => nomatch hclosing line hline v hv

/-- In each function of a program, the lines that expand a variable outside the commands of hints stand after
one that declares the variable in the same function; the entry function declares those of the commands and of the
options. What a function offers is hence the same whatever values the variables of its caller have. -/
theorem functions_use_own_variables (p : Program) :
    (∀ f ∈ (script p).definitions, DeclaresFirst f.withoutCommands.lines) ∧
      (∀ v ∈ [Variable.commands, .options],
        ∃ declaration ∈ (script p).entry.withoutCommands.lines, v.IsDeclaredIn declaration) ∧
      ∀ typed calls name values others,
        (script p).offered typed calls name values = (script p).offered typed calls name others := by
  refine ⟨fun f hf => f.declaresFirst (isNamed_of_mem_definitions hf) (scoped_of_mem_definitions hf), ?_,
    offered_congr p⟩
  refine List.forall_mem_cons.2 ⟨?_, List.forall_mem_singleton.2 ?_⟩
  · exact Function.exists_isDeclaredIn (s := .declare .commands (commandWords p.commands))
      (by simp [script, entryFunction]) rfl
  · exact Function.exists_isDeclaredIn (s := .declare .options (flagWords p.globalOptions))
      (by simp [script, entryFunction]) rfl

/-- An instance: the function of a command whose only option is hidden offers its subcommands alone, whatever
flags its caller holds. -/
theorem functions_use_own_variables_of_hidden_option :
    let add : Command := { name := "add-url", options := [{ name := "force" }] }
    let remote : Command :=
      { name := "remote", options := [{ name := "all", hidden := true }], subcommands := [add] }
    let p : Program := { name := "tool", commands := [remote], globalOptions := [{ name := "verbose" }] }
    let f : Function := siteFunction "tool" ⟨["remote"], remote⟩
    (∃ line ∈ f.withoutCommands.lines, Variable.subcommands.IsExpandedIn line) ∧
      f ∈ (script p).definitions ∧ DeclaresFirst f.withoutCommands.lines ∧
      ∀ values, (script p).offered ⟨["tool", "remote", ""], 2⟩ 2 "_tool" values = .wordsOf "add-url" := by
  intro add remote p f
  have hf : f ∈ (script p).definitions := List.mem_cons_of_mem _ List.mem_cons_self
  obtain ⟨hlines, _, hoffered⟩ := functions_use_own_variables p
  refine ⟨⟨"    COMPREPLY=($(compgen -W \"$subcommands\" -- \"$cur\"))", by decide, by decide⟩, hf, hlines f hf,
    fun values => (hoffered _ 2 "_tool" values fun _ => "").trans ?_⟩
  decide

end Tabsmith.Bash
