import Tabsmith.Proofs.FileTree.Folders
import Tabsmith.Proofs.Inspection
import Tabsmith.Proofs.Path
import Tabsmith.Proofs.Reading

/-!
When loading a source breaks down in place of giving a program or the reason why there is none. The
causes are told by the source, by what stands at its path, and by the parsers that references lead to;
a document whose text can be read has one cause only, a number that cannot be shown.
-/

namespace Tabsmith

/-- Looking up a path fails only if one of its names is too long. -/
theorem Setting.find?_eq_error_iff {s : Setting} {p : Path} {fault : Fault} :
    s.find? p = .error fault ↔ p.IsAskable ∧ s.files.find s.workFolder p = .error .longName ∧
      fault = .breakdown (.file ⟨.longName, p.text⟩) := by
  unfold find? FileTree.find?
  by_cases haskable : p.IsAskable
  · have hasked : (FileTree.hasNull p || (Text.pathRun? p.text).isSome) = false := by
      simp [haskable.1, haskable.2]
    rw [hasked, and_iff_right haskable]
    rcases s.files.find s.workFolder p with cause | entry
    · cases cause <;> simp [pure_eq_ok, throw_eq_error, eq_comm]
    · simp [pure_eq_ok]
  · have hasked : (FileTree.hasNull p || (Text.pathRun? p.text).isSome) = true := by
      by_contra hnot
      simp only [Bool.or_eq_true, not_or, Bool.not_eq_true, Option.isSome_eq_false_iff,
        Option.isNone_iff_eq_none] at hnot
      exact haskable ⟨hnot.2, hnot.1⟩
    rw [hasked]
    simp [haskable, pure_eq_ok]

namespace Source

variable {s : Setting} {source : String}

/-- The source is a reference to a parser: nothing stands at the path that it writes, and it has a
colon. -/
def IsReference (s : Setting) (source : String) : Prop :=
  ∃ path, s.userPath (s.environment.expand source) = .ok path ∧ s.find? path = .ok none ∧
    source.contains ':' = true

/-- The source is the path of a file, and has this content once the note on its opening is taken. -/
def Opens (s : Setting) (source : String) (path : Path) (content : ByteArray) : Prop :=
  ∃ found, s.userPath (s.environment.expand source) = .ok path ∧
    s.find? path = .ok (some (.file found)) ∧
    content = match (s.after [openingNote path]).find? path with
      | .ok (some (.file content)) => content
      | _ => found

/-- What loading a source breaks down for. -/
inductive BreaksDown (s : Setting) (source : String) : Breakdown → Prop
  | noHome (hlacks : Path.LacksHome s.homes (s.environment.expand source)) :
      BreaksDown s source .noHome
  | longName {path : Path} (hpath : s.userPath (s.environment.expand source) = .ok path)
      (haskable : path.IsAskable) (hfind : s.files.find s.workFolder path = .error .longName) :
      BreaksDown s source (.file ⟨.longName, path.text⟩)
  | emptyModule (hreference : IsReference s source) (hhead : source.toList.head? = some ':') :
      BreaksDown s source .emptyModule
  | innerModule (hreference : IsReference s source) (hhead : source.toList.head? = some '.') :
      BreaksDown s source .wrongKind
  | uncallable (hreference : IsReference s source)
      (hleads : resolve s.modules source = .ok (.ok .uncallable)) : BreaksDown s source .wrongKind
  | noText {member : Member} {parser : Parser} {before after : List Finding}
      (hreference : IsReference s source) (hleads : resolve s.modules source = .ok (.ok member))
      (hparser : Member.parser? member = .ok (some parser))
      (hfindings : parser.findings {} = before ++ .noText :: after)
      (hbefore : ∀ finding ∈ before, finding.fault? = none) : BreaksDown s source .noMember
  | longNumber {path : Path} {content : ByteArray} {digits : Nat}
      (hopens : Opens s source path content)
      (hparse : parse path content = .error (.longNumber digits)) :
      BreaksDown s source (.longNumber digits)
  | tooDeep {path : Path} {content : ByteArray} {stage : String}
      (hopens : Opens s source path content)
      (hparse : parse path content = .error (.tooDeep stage)) : BreaksDown s source (.tooDeep stage)
  | unwritableProblem {path : Path} {content : ByteArray} {document : Value} {problem : Problem}
      (hopens : Opens s source path content) (hparse : parse path content = .ok document)
      (hproblem : problem ∈ (checkDocument document).problems)
      (hcause : problem.cause.isUnwritable = true) : BreaksDown s source .unwritable
  | unwritableField {path : Path} {content : ByteArray} {document : Value}
      (hopens : Opens s source path content) (hparse : parse path content = .ok document)
      (haccepted : (checkDocument document).problems = [])
      (hread : Program.ofDocument document = .error (.breakdown .unwritable)) :
      BreaksDown s source .unwritable

/-! ## Documents -/

/-- A document that was read breaks loading down only by a number that cannot be shown: in a message
about a problem, or, without problems, in a text of the program. -/
theorem readDocument_breaks_iff (path : Path) (document : Value) (cause : Breakdown) :
    (readDocument path document).outcome = .error (.breakdown cause) ↔ cause = .unwritable ∧
      ((∃ problem ∈ (checkDocument document).problems, problem.cause.isUnwritable = true) ∨
        (checkDocument document).problems = [] ∧
          Program.ofDocument document = .error (.breakdown .unwritable)) := by
  have hhalts := Report.halt?_eq_some_iff (not_halts_checkDocument document)
  rw [readDocument_eq]
  dsimp only
  cases hhalt : (checkDocument document).halt? with
  | some halt =>
    obtain ⟨rfl, hproblem⟩ := (hhalts halt).1 hhalt
    constructor
    · rintro ⟨⟩
      exact ⟨rfl, .inl hproblem⟩
    · rintro ⟨rfl, _⟩
      rfl
  | none =>
    have hshown : ¬ ∃ problem ∈ (checkDocument document).problems,
        problem.cause.isUnwritable = true := fun hproblem => by
      rw [(hhalts .unwritable).2 ⟨rfl, hproblem⟩] at hhalt
      cases hhalt
    dsimp only
    rw [or_iff_right hshown]
    by_cases haccepted : (checkDocument document).problems = []
    · obtain ⟨node, rfl, hnode⟩ := problems_checkDocument_eq_nil_iff.1 haccepted
      rw [if_pos (List.isEmpty_iff.2 haccepted)]
      rcases gives_program hnode with ⟨p, hread, _⟩ | ⟨hread, _⟩
      · simp [hread]
      · simp [hread, haccepted, eq_comm]
    · rw [if_neg (by simpa using haccepted)]
      constructor
      · rintro ⟨⟩
      · rintro ⟨_, hempty, _⟩
        exact absurd hempty haccepted

theorem loadContent_breaks_iff (path : Path) (content : ByteArray) (cause : Breakdown) :
    (loadContent path content).outcome = .error (.breakdown cause) ↔
      (∃ digits, parse path content = .error (.longNumber digits) ∧ cause = .longNumber digits) ∨
      (∃ stage, parse path content = .error (.tooDeep stage) ∧ cause = .tooDeep stage) ∨
      ∃ document, parse path content = .ok document ∧
        (readDocument path document).outcome = .error (.breakdown cause) := by
  unfold loadContent
  cases parse path content with
  | ok document => simp
  | error fault =>
    cases fault with
    | malformed detail => simp [throw_eq_error]
    | longNumber digits => simp [throw_eq_error, eq_comm]
    | tooDeep stage => simp [throw_eq_error, eq_comm]

/-! ## References -/

theorem describe_breaks_iff (p : Parser) (cause : Breakdown) :
    p.describe {} = .error (.breakdown cause) ↔ cause = .noMember ∧
      ∃ before after, p.findings {} = before ++ .noText :: after ∧
        ∀ finding ∈ before, finding.fault? = none := by
  unfold Parser.describe
  cases hfirst : (p.findings {}).findSome? Finding.fault? with
  | none =>
    have hnone := List.findSome?_eq_none_iff.1 hfirst
    constructor
    · rintro ⟨⟩
    · rintro ⟨_, before, after, hfindings, _⟩
      have hstops := hnone .noText (by simp [hfindings])
      cases hstops
  | some fault =>
    obtain ⟨before, finding, after, hfindings, hfault, hbefore⟩ :=
      List.findSome?_eq_some_iff.1 hfirst
    constructor
    · rintro ⟨⟩
      cases finding with
      | noLongFlag flags => cases hfault
      | noText =>
        cases hfault
        exact ⟨rfl, before, after, hfindings, hbefore⟩
      | unnamed part => cases hfault
    · rintro ⟨rfl, others, rest, hothers, hpassed⟩
      have hsome : (p.findings {}).findSome? Finding.fault? = some (.breakdown .noMember) :=
        List.findSome?_eq_some_iff.2 ⟨others, .noText, rest, hothers, rfl, hpassed⟩
      rw [hfirst] at hsome
      rw [Option.some.inj hsome]
      rfl

/-- A reference cannot be followed if it starts with its colon or with a dot. -/
theorem resolve_eq_error_iff {modules : List (String × Module)} {reference : String} {fault : Fault}
    (hcolon : reference.contains ':' = true) : resolve modules reference = .error fault ↔
      (reference.toList.head? = some ':' ∧ fault = .breakdown .emptyModule) ∨
        (reference.toList.head? = some '.' ∧ fault = .breakdown .wrongKind) := by
  have hmem : ':' ∈ reference.toList := by simpa using hcolon
  unfold resolve splitReference
  cases hchars : reference.toList with
  | nil => simp [hchars] at hmem
  | cons c rest =>
    dsimp only
    by_cases hcolonFirst : c = ':'
    · subst hcolonFirst
      rw [if_pos (by simp)]
      constructor
      · rintro ⟨⟩
        exact .inl ⟨rfl, rfl⟩
      · rintro (⟨_, rfl⟩ | ⟨⟨⟩, _⟩)
        rfl
    · have hname : String.ofList ((c :: rest).takeWhile (· ≠ ':')) ≠ "" := by
        simp [← String.toList_inj, hcolonFirst, -String.ofList_cons]
      rw [if_neg hname]
      by_cases hdotFirst : c = '.'
      · subst hdotFirst
        rw [if_pos (by simp)]
        constructor
        · rintro ⟨⟩
          exact .inr ⟨rfl, rfl⟩
        · rintro (⟨⟨⟩, _⟩ | ⟨_, rfl⟩)
          rfl
      · rw [if_neg (by simpa [hcolonFirst] using hdotFirst)]
        constructor
        · intro hfails
          split at hfails
          · cases hfails
          · split at hfails
            · cases hfails
            · cases hfails
        · rintro (⟨hhead, _⟩ | ⟨hhead, _⟩)
          · exact absurd (Option.some.inj hhead) hcolonFirst
          · exact absurd (Option.some.inj hhead) hdotFirst

theorem loadParser_breaks_iff (s : Setting) (reference : String) (cause : Breakdown) :
    (loadParser s reference).outcome = .error (.breakdown cause) ↔
      resolve s.modules reference = .error (.breakdown cause) ∨
      (resolve s.modules reference = .ok (.ok .uncallable) ∧ cause = .wrongKind) ∨
      ∃ member parser, resolve s.modules reference = .ok (.ok member) ∧
        Member.parser? member = .ok (some parser) ∧
        parser.describe {} = .error (.breakdown cause) := by
  unfold loadParser
  rcases resolve s.modules reference with fault | cause | member
  · simp [throw_eq_error]
  · simp [throw_eq_error]
  · cases member with
    | parser p => simp [Member.parser?, pure_eq_ok]
    | maker result =>
      cases result <;> simp [Member.parser?, pure_eq_ok, throw_eq_error]
    | uncallable =>
      simp [Member.parser?, throw_eq_error, eq_comm]
    | other => simp [Member.parser?, pure_eq_ok, throw_eq_error]

theorem IsReference.contains_colon (hreference : IsReference s source) :
    source.contains ':' = true := by
  obtain ⟨_, _, _, hcolon⟩ := hreference
  exact hcolon

theorem IsReference.load_eq (hreference : IsReference s source) :
    load s source = loadParser s source := by
  obtain ⟨path, hpath, hfree, hcolon⟩ := hreference
  unfold load
  rw [hpath]
  dsimp only
  rw [hfree]
  exact if_pos hcolon

theorem Opens.load_eq {path : Path} {content : ByteArray} (hopens : Opens s source path content) :
    (load s source).outcome = (loadContent path content).outcome := by
  obtain ⟨found, hpath, hfound, rfl⟩ := hopens
  unfold load
  rw [hpath]
  dsimp only
  rw [hfound]
  rfl

theorem breaksDown_of_reference {cause : Breakdown} (hreference : IsReference s source)
    (hbreaks : (loadParser s source).outcome = .error (.breakdown cause)) :
    BreaksDown s source cause := by
  rcases (loadParser_breaks_iff s source cause).1 hbreaks with hrefused | ⟨hleads, rfl⟩ |
    ⟨member, parser, hleads, hparser, hdescribe⟩
  · rcases (resolve_eq_error_iff hreference.contains_colon).1 hrefused with ⟨hhead, ⟨⟩⟩ | ⟨hhead, ⟨⟩⟩
    · exact .emptyModule hreference hhead
    · exact .innerModule hreference hhead
  · exact .uncallable hreference hleads
  · obtain ⟨rfl, before, after, hfindings, hbefore⟩ := (describe_breaks_iff parser cause).1 hdescribe
    exact .noText hreference hleads hparser hfindings hbefore

theorem breaksDown_of_opens {path : Path} {content : ByteArray} {cause : Breakdown}
    (hopens : Opens s source path content)
    (hbreaks : (loadContent path content).outcome = .error (.breakdown cause)) :
    BreaksDown s source cause := by
  rcases (loadContent_breaks_iff path content cause).1 hbreaks with ⟨digits, hparse, rfl⟩ |
    ⟨stage, hparse, rfl⟩ | ⟨document, hparse, hread⟩
  · exact .longNumber hopens hparse
  · exact .tooDeep hopens hparse
  · obtain ⟨rfl, ⟨problem, hproblem, hcause⟩ | ⟨haccepted, hread⟩⟩ :=
      (readDocument_breaks_iff path document cause).1 hread
    · exact .unwritableProblem hopens hparse hproblem hcause
    · exact .unwritableField hopens hparse haccepted hread

/-- Each of the causes breaks loading down. -/
theorem BreaksDown.load_eq {cause : Breakdown} (hcause : BreaksDown s source cause) :
    (load s source).outcome = .error (.breakdown cause) := by
  cases hcause with
  | noHome hlacks =>
    unfold load
    rw [Setting.userPath_eq_error_iff.2 ⟨hlacks, rfl⟩]
    rfl
  | longName hpath haskable hfind =>
    unfold load
    rw [hpath]
    dsimp only
    rw [Setting.find?_eq_error_iff.2 ⟨haskable, hfind, rfl⟩]
    rfl
  | emptyModule hreference hhead =>
    rw [hreference.load_eq, loadParser_breaks_iff]
    exact .inl ((resolve_eq_error_iff hreference.contains_colon).2 (.inl ⟨hhead, rfl⟩))
  | innerModule hreference hhead =>
    rw [hreference.load_eq, loadParser_breaks_iff]
    exact .inl ((resolve_eq_error_iff hreference.contains_colon).2 (.inr ⟨hhead, rfl⟩))
  | uncallable hreference hleads =>
    rw [hreference.load_eq, loadParser_breaks_iff]
    exact .inr (.inl ⟨hleads, rfl⟩)
  | noText hreference hleads hparser hfindings hbefore =>
    rw [hreference.load_eq, loadParser_breaks_iff]
    exact .inr (.inr ⟨_, _, hleads, hparser,
      (describe_breaks_iff _ _).2 ⟨rfl, _, _, hfindings, hbefore⟩⟩)
  | longNumber hopens hparse =>
    rw [hopens.load_eq, loadContent_breaks_iff]
    exact .inl ⟨_, hparse, rfl⟩
  | tooDeep hopens hparse =>
    rw [hopens.load_eq, loadContent_breaks_iff]
    exact .inr (.inl ⟨_, hparse, rfl⟩)
  | unwritableProblem hopens hparse hproblem hcause =>
    rw [hopens.load_eq, loadContent_breaks_iff]
    exact .inr (.inr ⟨_, hparse,
      (readDocument_breaks_iff _ _ _).2 ⟨rfl, .inl ⟨_, hproblem, hcause⟩⟩⟩)
  | unwritableField hopens hparse haccepted hread =>
    rw [hopens.load_eq, loadContent_breaks_iff]
    exact .inr (.inr ⟨_, hparse, (readDocument_breaks_iff _ _ _).2 ⟨rfl, .inr ⟨haccepted, hread⟩⟩⟩)

end Source

end Tabsmith
