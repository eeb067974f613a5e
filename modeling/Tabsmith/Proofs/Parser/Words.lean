import Mathlib.Data.List.Induction
import Mathlib.Data.List.Nodup
import Tabsmith.Parser.Words

/-!
Going through the words of the commands of a parser. When no word leads to two parsers, each parser is
met first at its own name, and so it is met once, in the order in which the parsers were added.
-/

namespace Tabsmith

namespace WordTable

variable {table own : WordTable} {word first : Caption} {words : List Caption} {parser : Nat}

theorem set_append (hword : word ∉ table.map Prod.fst) :
    set (table ++ own) word parser = table ++ set own word parser := by
  induction table with
  | nil => rfl
  | cons entry rest ih =>
    obtain ⟨w, p⟩ := entry
    rw [List.map_cons, List.mem_cons, not_or] at hword
    rw [List.cons_append, set, if_neg (Ne.symm hword.1), ih hword.2, List.cons_append]

theorem add_append (hwords : ∀ word ∈ words, word ∉ table.map Prod.fst) :
    add (table ++ own) words parser = table ++ add own words parser := by
  induction words generalizing own with
  | nil => rfl
  | cons word rest ih =>
    rw [List.forall_mem_cons] at hwords
    unfold add at ih ⊢
    rw [List.foldl_cons, List.foldl_cons, set_append hwords.1]
    exact ih hwords.2

theorem mem_set {entry : Caption × Nat} (hentry : entry ∈ set table word parser) :
    entry ∈ table ∨ entry = (word, parser) := by
  induction table with
  | nil => exact .inr (List.mem_singleton.1 hentry)
  | cons head rest ih =>
    obtain ⟨w, p⟩ := head
    rw [set] at hentry
    split at hentry
    next heq =>
      rcases List.mem_cons.1 hentry with rfl | hrest
      · exact .inr (by rw [heq])
      · exact .inl (List.mem_cons_of_mem _ hrest)
    next =>
      rcases List.mem_cons.1 hentry with rfl | hrest
      · exact .inl (List.mem_cons_self ..)
      · exact (ih hrest).imp_left (List.mem_cons_of_mem _)

theorem mem_add {entry : Caption × Nat} (hentry : entry ∈ add table words parser) :
    entry ∈ table ∨ entry.1 ∈ words ∧ entry.2 = parser := by
  induction words generalizing table with
  | nil => exact .inl hentry
  | cons word rest ih =>
    have hrest : entry ∈ add (set table word parser) rest parser := hentry
    rcases ih hrest with hset | ⟨hword, hparser⟩
    · rcases mem_set hset with htable | rfl
      · exact .inl htable
      · exact .inr ⟨List.mem_cons_self .., rfl⟩
    · exact .inr ⟨List.mem_cons_of_mem _ hword, hparser⟩

/-- The words of a parser that are added to its first word leave that one in front. -/
theorem exists_add_cons (first : Caption) (own : WordTable) (words : List Caption) (parser : Nat) :
    ∃ rest, add ((first, parser) :: own) words parser = (first, parser) :: rest := by
  induction words generalizing own with
  | nil => exact ⟨own, rfl⟩
  | cons word words ih =>
    unfold add at ih ⊢
    rw [List.foldl_cons, set]
    split
    · exact ih own
    · exact ih (set own word parser)

theorem firsts_eq_nil {seen : List Nat} (hseen : ∀ entry ∈ table, entry.2 ∈ seen) :
    firsts seen table = [] := by
  induction table with
  | nil => rfl
  | cons entry rest ih =>
    obtain ⟨w, p⟩ := entry
    rw [List.forall_mem_cons] at hseen
    rw [firsts, if_pos (by simpa using hseen.1), ih hseen.2]

/-- A parser that is new to a table is met first at the first of its words. -/
theorem firsts_append {seen : List Nat} (hseen : parser ∉ seen)
    (htable : ∀ entry ∈ table, entry.2 ≠ parser) (hown : ∀ entry ∈ own, entry.2 = parser) :
    firsts seen (table ++ (first, parser) :: own) = firsts seen table ++ [(first, parser)] := by
  induction table generalizing seen with
  | nil =>
    have hrest : firsts (parser :: seen) own = [] :=
      firsts_eq_nil fun entry hentry => hown entry hentry ▸ List.mem_cons_self ..
    simp [firsts, hseen, hrest]
  | cons entry rest ih =>
    obtain ⟨w, p⟩ := entry
    rw [List.forall_mem_cons] at htable
    rw [List.cons_append, firsts, firsts]
    split
    · exact ih hseen htable.2
    · have hnew : parser ∉ p :: seen := by
        rw [List.mem_cons, not_or]
        exact ⟨Ne.symm htable.1, hseen⟩
      rw [ih hnew htable.2, List.cons_append]

end WordTable

namespace Parser

open WordTable

/-- No word leads to two of the parsers. -/
def NoWordShared (parsers : List Parser) : Prop :=
  parsers.Pairwise fun a b => List.Disjoint a.words b.words

theorem wordTable_append (parsers : List Parser) (p : Parser) :
    wordTable (parsers ++ [p]) = add (wordTable parsers) p.words parsers.length := by
  simp [wordTable, List.zipIdx_append]

theorem mem_wordTable {parsers : List Parser} {entry : Caption × Nat}
    (hentry : entry ∈ wordTable parsers) :
    entry.2 < parsers.length ∧ ∃ p ∈ parsers, entry.1 ∈ p.words := by
  induction parsers using List.reverseRecOn with
  | nil => cases hentry
  | append_singleton parsers p ih =>
    rw [wordTable_append] at hentry
    rw [List.length_append, List.length_singleton]
    rcases mem_add hentry with hbefore | ⟨hword, hplace⟩
    · obtain ⟨hlt, q, hq, hword⟩ := ih hbefore
      exact ⟨by omega, q, List.mem_append_left _ hq, hword⟩
    · exact ⟨by omega, p, by simp, hword⟩

/-- Each parser is met first at its own name. The induction is on the parsers as they were added: the
last one shares no word with those before it, so its words come after theirs. -/
theorem firsts_wordTable {parsers : List Parser} (hwords : NoWordShared parsers) :
    firsts [] (wordTable parsers) = parsers.zipIdx.map fun (p, place) => (p.name, place) := by
  induction parsers using List.reverseRecOn with
  | nil => rfl
  | append_singleton parsers p ih =>
    rw [NoWordShared, List.pairwise_append] at hwords
    obtain ⟨hbefore, _, hshared⟩ := hwords
    have hnew : ∀ word ∈ p.words, word ∉ (wordTable parsers).map Prod.fst := by
      intro word hword hmem
      obtain ⟨entry, hentry, rfl⟩ := List.mem_map.1 hmem
      obtain ⟨_, q, hq, hother⟩ := mem_wordTable hentry
      exact hshared q hq p (List.mem_singleton_self p) hother hword
    have hadd : add (wordTable parsers) p.words parsers.length =
        wordTable parsers ++ add [] p.words parsers.length := by
      rw [← add_append hnew, List.append_nil]
    obtain ⟨rest, hrest⟩ := exists_add_cons p.name [] (p.words.drop 1) parsers.length
    have hown : add [] p.words parsers.length = (p.name, parsers.length) :: rest := hrest
    have hplaces : ∀ entry ∈ rest, entry.2 = parsers.length := by
      intro entry hentry
      have hmem : entry ∈ add [] p.words parsers.length := hown ▸ List.mem_cons_of_mem _ hentry
      rcases mem_add hmem with hnone | ⟨_, hplace⟩
      · cases hnone
      · exact hplace
    have hplace : ∀ entry ∈ wordTable parsers, entry.2 ≠ parsers.length :=
      fun entry hentry => Nat.ne_of_lt (mem_wordTable hentry).1
    rw [wordTable_append, hadd, hown, firsts_append (by simp) hplace hplaces, ih hbefore]
    simp [List.zipIdx_append]

theorem helpFor_name {parsers : List Parser} (hwords : NoWordShared parsers) {p : Parser}
    (hp : p ∈ parsers) : helpFor parsers p.name = p.help := by
  induction parsers with
  | nil => cases hp
  | cons q rest ih =>
    rw [NoWordShared, List.pairwise_cons] at hwords
    rw [helpFor, List.map_cons, List.lookup_cons]
    rcases List.mem_cons.1 hp with rfl | hrest
    · simp
    · have hname : (p.name == q.name) = false := by
        rw [beq_eq_false_iff_ne]
        exact fun heq => hwords.1 p hrest (List.mem_cons_self ..) (heq ▸ List.mem_cons_self ..)
      rw [hname]
      exact ih hwords.2 hrest

/-- When no word leads to two parsers, each is met once, in the order in which they were added, at its
own name and with its own help. -/
theorem eachMet_map {α : Type} {parsers : List Parser} (hwords : NoWordShared parsers)
    (make : Parser → Caption → Caption → α) :
    eachMet parsers (parsers.map make) = parsers.map fun p => make p p.name p.help := by
  have hmade : ∀ entry ∈ parsers.zipIdx, ((parsers.map make)[entry.2]?.map fun made =>
      made entry.1.name (helpFor parsers entry.1.name)) =
        some (make entry.1 entry.1.name entry.1.help) := by
    rintro ⟨p, place⟩ hentry
    have hget : parsers[place]? = some p := List.mem_zipIdx_iff_getElem?.1 hentry
    rw [List.getElem?_map, hget, Option.map_some, Option.map_some,
      helpFor_name hwords (List.mem_of_getElem? hget)]
  calc eachMet parsers (parsers.map make)
    _ = parsers.zipIdx.filterMap fun entry => (parsers.map make)[entry.2]?.map fun made =>
          made entry.1.name (helpFor parsers entry.1.name) := by
        rw [eachMet, firsts_wordTable hwords, List.filterMap_map]
        rfl
    _ = (parsers.zipIdx.map Prod.fst).map fun p => make p p.name p.help := by
        rw [List.filterMap_congr hmade, List.map_map, ← List.filterMap_eq_map]
        rfl
    _ = parsers.map fun p => make p p.name p.help := by
        rw [List.zipIdx_map_fst]

/-- Nothing is made but of the parsers. -/
theorem exists_made_of_mem_eachMet {α : Type} {parsers : List Parser}
    {make : List (Caption → Caption → α)} {a : α} (ha : a ∈ eachMet parsers make) :
    ∃ made ∈ make, ∃ word help, a = made word help := by
  obtain ⟨⟨word, place⟩, _, hmade⟩ := List.mem_filterMap.1 ha
  obtain ⟨made, hget, rfl⟩ := Option.map_eq_some_iff.1 hmade
  exact ⟨made, List.mem_of_getElem? hget, word, _, rfl⟩

end Parser

end Tabsmith
