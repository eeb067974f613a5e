import Tabsmith.Proofs.Outcome
import Tabsmith.Proofs.Text
import Tabsmith.Setting

/-!
Paths and their texts. A path whose parts are names, as those of every path that was read from a
text, is the path that its own text writes.
-/

namespace Tabsmith

namespace Path

/-- A part of a path: it is not empty, no single dot, and holds no slash. -/
def IsPart (part : String) : Prop :=
  part ≠ "" ∧ part ≠ "." ∧ '/' ∉ part.toList

instance : DecidablePred IsPart := fun part =>
  inferInstanceAs (Decidable (part ≠ "" ∧ part ≠ "." ∧ '/' ∉ part.toList))

/-- All parts of a path are such. -/
def IsClean (p : Path) : Prop :=
  ∀ part ∈ p.parts, IsPart part

theorem isClean_ofText (text : String) : (ofText text).IsClean := by
  intro part hpart
  simp only [ofText, partsOf, Text.pieces_eq_splitOn, List.mem_filter, List.mem_map,
    Bool.and_eq_true, decide_eq_true_eq] at hpart
  obtain ⟨⟨piece, hpiece, rfl⟩, hempty, hdot⟩ := hpart
  refine ⟨hempty, hdot, ?_⟩
  rw [String.toList_ofList]
  exact Text.not_mem_of_mem_splitOn hpiece

theorem IsClean.join {p below : Path} (hp : p.IsClean) (hbelow : below.IsClean) :
    (p.join below).IsClean := by
  unfold Path.join
  split
  · exact hbelow
  · intro part hpart
    rcases List.mem_append.1 hpart with habove | hbelow'
    · exact hp part habove
    · exact hbelow part hbelow'

theorem IsClean.expandHome {homes : Homes} {p q : Path} (hp : p.IsClean)
    (hq : p.expandHome? homes = some q) : q.IsClean := by
  unfold expandHome? at hq
  split at hq
  next first rest hanchor hparts =>
    split at hq
    · split at hq
      · cases hq
      · split at hq
        · cases hq
        · cases hq
          refine (isClean_ofText _).join fun part hpart => hp part ?_
          rw [hparts]
          exact List.mem_cons_of_mem _ hpart
    · cases hq
      exact hp
  · cases hq
    exact hp

/-- The parts of a text that consists of parts. -/
theorem partsOf_intercalate {parts : List String} (hparts : ∀ part ∈ parts, IsPart part) :
    partsOf ("/".intercalate parts).toList = parts := by
  cases parts with
  | nil => rfl
  | cons part rest =>
    have hslash : ∀ chars ∈ (part :: rest).map String.toList, '/' ∉ chars := by
      intro chars hchars
      obtain ⟨other, hother, rfl⟩ := List.mem_map.1 hchars
      exact (hparts other hother).2.2
    have hsplit : ("/".intercalate (part :: rest)).toList.splitOn '/' =
        (part :: rest).map String.toList := by
      rw [String.toList_intercalate]
      exact List.splitOn_intercalate '/' hslash (by simp)
    have hnames : ∀ other ∈ part :: rest, (decide (other ≠ "") && decide (other ≠ ".")) = true :=
      fun other hother => by simp [(hparts other hother).1, (hparts other hother).2.1]
    rw [partsOf, Text.pieces_eq_splitOn, hsplit, List.map_map]
    simp only [Function.comp_def, String.ofList_toList, List.map_id']
    exact List.filter_eq_self.2 hnames

theorem partsOf_of_isPart {part : String} (hpart : IsPart part) : partsOf part.toList = [part] := by
  have hall : ∀ other ∈ [part], IsPart other := List.forall_mem_singleton.2 hpart
  have hparts := partsOf_intercalate hall
  rwa [String.intercalate_singleton] at hparts

/-- Two texts with a slash between them write the parts of the one and then those of the other. -/
theorem partsOf_append_slash (s t : List Char) : partsOf (s ++ '/' :: t) = partsOf s ++ partsOf t := by
  simp only [partsOf, Text.pieces_eq_splitOnP]
  rw [List.splitOnP_append_cons s t (decide_eq_true rfl), List.map_append, List.filter_append]

/-- A text of parts does not begin with a slash. -/
theorem head?_intercalate {parts : List String} (hparts : ∀ part ∈ parts, IsPart part) :
    ("/".intercalate parts).toList.head? ≠ some '/' := by
  cases parts with
  | nil => simp
  | cons part rest =>
    obtain ⟨hne, _, hslash⟩ := hparts part List.mem_cons_self
    cases hchars : part.toList with
    | nil => exact absurd (String.toList_inj.1 hchars) hne
    | cons c chars =>
      rw [hchars] at hslash
      intro hhead
      apply hslash
      cases rest with
      | nil => simp_all
      | cons next rest => simp_all [String.toList_intercalate]

theorem partsOf_slash (s : List Char) : partsOf ('/' :: s) = partsOf s := by
  simp [partsOf, Text.pieces]

theorem partsOf_anchor (anchor : Anchor) (s : List Char) :
    partsOf (anchor.text.toList ++ s) = partsOf s := by
  cases anchor with
  | workFolder => rfl
  | root => exact partsOf_slash s
  | doubleRoot => exact (partsOf_slash _).trans (partsOf_slash s)

theorem ofText_anchor (anchor : Anchor) {s : List Char} (hhead : s.head? ≠ some '/') :
    Anchor.ofText (anchor.text.toList ++ s) = anchor := by
  cases s with
  | nil => cases anchor <;> rfl
  | cons c rest =>
    have hc : c ≠ '/' := by simpa using hhead
    cases anchor <;> simp [Anchor.text, Anchor.ofText, hc]

/-- The text of a path writes that path. -/
theorem ofText_text {p : Path} (hclean : p.IsClean) : ofText p.text = p := by
  obtain ⟨anchor, parts⟩ := p
  by_cases hdot : anchor = .workFolder ∧ parts = []
  · obtain ⟨rfl, rfl⟩ := hdot
    decide
  · have htext : text ⟨anchor, parts⟩ = anchor.text ++ "/".intercalate parts := by
      unfold text
      split
      · exact absurd ⟨‹_›, ‹_›⟩ hdot
      · rfl
    rw [ofText, htext, String.toList_append, ofText_anchor anchor (head?_intercalate hclean),
      partsOf_anchor, partsOf_intercalate hclean]

theorem isAbsolute_ofText {text : String} :
    (ofText text).isAbsolute = true ↔ text.toList.head? = some '/' := by
  have hanchor : ∀ s : List Char, Anchor.ofText s ≠ .workFolder ↔ s.head? = some '/' := by
    intro s
    unfold Anchor.ofText
    split
    · simp
    · simp
    · simp
    next hother =>
      cases s with
      | nil => simp
      | cons c rest =>
        have hc : c ≠ '/' := fun heq => hother rest (heq ▸ rfl)
        simp [hc]
  rw [isAbsolute, decide_eq_true_eq]
  exact hanchor text.toList

/-! ## Home folders -/

section Homes

variable {homes : Homes} {p : Path} {first text : String}

/-- The path starts in the working folder, and its first part has a tilde in front. -/
structure HasTilde (p : Path) (first : String) : Prop where
  relative : p.isAbsolute = false
  head : p.parts.head? = some first
  tilde : first.toList.head? = some '~'

/-- The text refers to a home folder that is not known. A folder with a tilde in front counts as
unknown. -/
def LacksHome (homes : Homes) (text : String) : Prop :=
  ∃ first, (ofText text).HasTilde first ∧
    ∀ folder, homes.of? first = some folder → folder.toList.head? = some '~'

/-- The text writes a path from the root, or one from a home folder that is given by such a path. -/
def LeadsFromRoot (homes : Homes) (text : String) : Prop :=
  text.toList.head? = some '/' ∨
    ∃ first folder, (ofText text).HasTilde first ∧ homes.of? first = some folder ∧
      folder.toList.head? = some '/'

theorem HasTilde.eq {other : String} (hfirst : p.HasTilde first) (hother : p.HasTilde other) :
    first = other :=
  Option.some.inj (hfirst.head.symm.trans hother.head)

theorem exists_hasTilde (htext : text.toList.head? = some '~') :
    ∃ first, (ofText text).HasTilde first := by
  obtain ⟨rest, hchars⟩ := List.head?_eq_some_iff.1 htext
  have hrelative : (ofText text).isAbsolute = false := by
    rw [← Bool.not_eq_true, isAbsolute_ofText, htext]
    simp
  cases hpieces : Text.pieces (· = '/') rest with
  | nil => exact absurd hpieces (Text.pieces_ne_nil _ rest)
  | cons piece others =>
    let first := String.ofList ('~' :: piece)
    have hwhole : Text.pieces (· = '/') text.toList = ('~' :: piece) :: others := by
      simp [hchars, Text.pieces, hpieces]
    have hname : (first ≠ "" && first ≠ ".") = true := by
      simp [first, ← String.toList_inj, -String.ofList_cons]
    have hparts : (ofText text).parts = first :: (others.map String.ofList).filter fun part =>
        part ≠ "" && part ≠ "." := by
      rw [ofText, partsOf, hwhole]
      exact List.filter_cons_of_pos (p := fun part => part ≠ "" && part ≠ ".") hname
    exact ⟨first, hrelative, hparts ▸ rfl, by simp [first]⟩

theorem HasTilde.expandHome? (hfirst : p.HasTilde first) :
    p.expandHome? homes = (homes.of? first).bind fun folder =>
      if folder.toList.head? = some '~' then none
      else some ((ofText folder).join ⟨.workFolder, p.parts.tail⟩) := by
  obtain ⟨anchor, parts⟩ := p
  have hanchor : anchor = .workFolder := by simpa [isAbsolute] using hfirst.relative
  obtain ⟨rest, hparts⟩ := List.head?_eq_some_iff.1 hfirst.head
  obtain rfl : parts = first :: rest := hparts
  subst hanchor
  rw [Path.expandHome?]
  dsimp only
  rw [if_pos hfirst.tilde]
  cases homes.of? first <;> rfl

theorem expandHome?_of_no_tilde (hnone : ∀ first, ¬ p.HasTilde first) :
    p.expandHome? homes = some p := by
  unfold Path.expandHome?
  split
  next part rest hanchor hparts =>
    have hhead : part.toList.head? ≠ some '~' := fun htilde =>
      hnone part ⟨by simp [isAbsolute, hanchor], by simp [hparts], htilde⟩
    rw [if_neg hhead]
  · rfl

/-- A text of a user's writes a path unless its home folder is not known. -/
theorem ofUser?_eq_none_iff : ofUser? homes text = none ↔ LacksHome homes text := by
  unfold ofUser?
  by_cases htilde : ∃ first, (ofText text).HasTilde first
  · obtain ⟨first, hfirst⟩ := htilde
    rw [hfirst.expandHome?, Option.bind_eq_none_iff]
    constructor
    · intro hnone
      refine ⟨first, hfirst, fun folder hfolder => ?_⟩
      by_contra hhead
      simpa [hhead] using hnone folder hfolder
    · rintro ⟨other, hother, hunknown⟩ folder hfolder
      rw [← hfirst.eq hother] at hunknown
      exact if_pos (hunknown folder hfolder)
  · have hnone : ∀ first, ¬ (ofText text).HasTilde first := not_exists.1 htilde
    rw [expandHome?_of_no_tilde hnone]
    constructor
    · rintro ⟨⟩
    · rintro ⟨first, hfirst, _⟩
      exact absurd hfirst (hnone first)

/-- A path that a text of a user's writes starts at the root exactly if the text leads from there. -/
theorem isAbsolute_of_ofUser? (hp : ofUser? homes text = some p) :
    p.isAbsolute = true ↔ LeadsFromRoot homes text := by
  unfold ofUser? at hp
  by_cases htilde : ∃ first, (ofText text).HasTilde first
  · obtain ⟨first, hfirst⟩ := htilde
    rw [hfirst.expandHome?, Option.bind_eq_some_iff] at hp
    obtain ⟨folder, hfolder, hp⟩ := hp
    have hrelative : ¬ text.toList.head? = some '/' := by
      rw [← isAbsolute_ofText, hfirst.relative]
      exact Bool.false_ne_true
    by_cases hhead : folder.toList.head? = some '~'
    · simp [hhead] at hp
    · rw [if_neg hhead] at hp
      obtain rfl := Option.some.inj hp
      have hjoin : ((ofText folder).join ⟨.workFolder, (ofText text).parts.tail⟩).isAbsolute =
          (ofText folder).isAbsolute := rfl
      rw [hjoin, isAbsolute_ofText, LeadsFromRoot, or_iff_right hrelative]
      constructor
      · exact fun hroot => ⟨first, folder, hfirst, hfolder, hroot⟩
      · rintro ⟨other, home, hother, hhome, hroot⟩
        rw [← hfirst.eq hother, hfolder] at hhome
        rw [Option.some.inj hhome]
        exact hroot
  · have hnone : ∀ first, ¬ (ofText text).HasTilde first := not_exists.1 htilde
    rw [expandHome?_of_no_tilde hnone] at hp
    obtain rfl := Option.some.inj hp
    rw [isAbsolute_ofText, LeadsFromRoot]
    constructor
    · exact .inl
    · rintro (hroot | ⟨first, _, hfirst, _⟩)
      · exact hroot
      · exact absurd hfirst (hnone first)

end Homes

end Path

namespace Setting

variable {s : Setting} {text : String} {p : Path}

theorem userPath_eq_ok_iff : s.userPath text = .ok p ↔ Path.ofUser? s.homes text = some p := by
  unfold userPath
  split
  next path hfound => simp [hfound, pure_eq_ok]
  next hnone => simp [hnone, throw_eq_error]

theorem userPath_eq_error_iff {fault : Fault} : s.userPath text = .error fault ↔
    Path.LacksHome s.homes text ∧ fault = .breakdown .noHome := by
  rw [← Path.ofUser?_eq_none_iff]
  unfold userPath
  split
  next path hfound => simp [hfound, pure_eq_ok]
  next hnone => simp [hnone, throw_eq_error, eq_comm]

/-- A text that writes an absolute path refers to no home folder. -/
theorem userPath_of_isAbsolute (habsolute : (Path.ofText text).isAbsolute = true) :
    s.userPath text = .ok (Path.ofText text) := by
  refine userPath_eq_ok_iff.2 (Path.expandHome?_of_no_tilde fun first hfirst => ?_)
  rw [hfirst.relative] at habsolute
  cases habsolute

end Setting

/-- A path that a text of the user's writes is the path that its own text writes. -/
theorem Setting.ofText_text_of_userPath {s : Setting} {text : String} {p : Path}
    (hpath : s.userPath text = .ok p) : Path.ofText p.text = p := by
  have hfound : (Path.ofText text).expandHome? s.homes = some p := userPath_eq_ok_iff.1 hpath
  exact Path.ofText_text ((Path.isClean_ofText text).expandHome hfound)

end Tabsmith
