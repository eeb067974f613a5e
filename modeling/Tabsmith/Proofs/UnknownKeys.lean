import Mathlib.Logic.Relation
import Tabsmith.Proofs.Acceptance.Small
import Tabsmith.Proofs.Nodes.Reading

/-!
Keys that a kind of node does not know, and the order of keys. A node of a document, at any depth, may get
more keys that its kind does not know, and its keys may be put in another order: no problem comes or goes,
and the program that is read of the document stays the same.
-/

namespace Tabsmith

/-! ## Edits of a document -/

/-- One edit of a node, or of a node below it: a key is added that the kind of the node does not know, or
the keys of the node, none of which is there twice, are put in another order. -/
inductive Edit : NodeKind → Fields → Fields → Prop
  | add {kind : NodeKind} {key : String} (node : Fields) (value : Value) (hkey : key ∉ kind.keys) :
      Edit kind node (node ++ [(key, value)])
  | reorder {kind : NodeKind} {node other : Fields} (hkeys : (node.map Prod.fst).Nodup)
      (hperm : node.Perm other) : Edit kind node other
  | node {kind below : NodeKind} {key : String} {sub other : Fields} (before after : Fields)
      (hfield : (key, below) ∈ kind.nodeFields) (hedit : Edit below sub other) :
      Edit kind (before ++ (key, .object sub) :: after) (before ++ (key, .object other) :: after)
  | list {kind below : NodeKind} {key : String} {sub other : Fields} (before after : Fields)
      (items rest : List Value) (hfield : (key, below) ∈ kind.listFields)
      (hedit : Edit below sub other) :
      Edit kind (before ++ (key, .list (items ++ .object sub :: rest)) :: after)
        (before ++ (key, .list (items ++ .object other :: rest)) :: after)

/-- One edit of a document. -/
inductive Value.Edited : Value → Value → Prop
  | intro {node other : Fields} (hedit : Edit .program node other) :
      Edited (.object node) (.object other)

/-! ## What an edit does to a field -/

theorem Fields.lookup_append_of_ne {node : Fields} {key other : String} {value : Value}
    (hne : other ≠ key) : List.lookup other (node ++ [(key, value)]) = List.lookup other node := by
  have hbeq : (other == key) = false := by simpa using hne
  rw [List.lookup_append, List.lookup_cons, hbeq, List.lookup_nil, Option.or_none]

theorem Fields.lookup_perm {node other : Fields} (hperm : node.Perm other)
    (hkeys : (node.map Prod.fst).Nodup) (key : String) :
    List.lookup key node = List.lookup key other := by
  induction hperm with
  | nil => rfl
  | cons field _ ih =>
    rw [List.map_cons, List.nodup_cons] at hkeys
    rw [List.lookup_cons, List.lookup_cons, ih hkeys.2]
  | swap first second rest =>
    have hne : second.1 ≠ first.1 := by
      rw [List.map_cons, List.nodup_cons] at hkeys
      exact fun heq => hkeys.1 (heq ▸ List.mem_map_of_mem (List.mem_cons_self ..))
    rw [List.lookup_cons, List.lookup_cons, List.lookup_cons, List.lookup_cons]
    by_cases hfirst : key = first.1
    · have hsecond : (key == second.1) = false := by simpa [hfirst] using hne.symm
      rw [hsecond]
    · have hfirst : (key == first.1) = false := by simpa using hfirst
      rw [hfirst]
  | trans hfirst _ ih ih' =>
    exact (ih hkeys).trans (ih' ((hfirst.map Prod.fst).nodup_iff.1 hkeys))

/-- Where the value of a field is another one, a look-up finds one of the two, or what it found before. -/
theorem Fields.lookup_replace (before after : Fields) (key other : String) (v w : Value) :
    List.lookup other (before ++ (key, v) :: after) = List.lookup other (before ++ (key, w) :: after) ∨
      other = key ∧ List.lookup other (before ++ (key, v) :: after) = some v ∧
        List.lookup other (before ++ (key, w) :: after) = some w := by
  rw [List.lookup_append, List.lookup_append, List.lookup_cons, List.lookup_cons]
  cases List.lookup other before with
  | some found => exact .inl rfl
  | none =>
    by_cases hkey : other = key
    · exact .inr ⟨hkey, by simp [hkey], by simp [hkey]⟩
    · have hkey : (other == key) = false := by simpa using hkey
      rw [hkey]
      exact .inl rfl

/-- A field that the kind of a node knows keeps its value in an edit, but for a node that is edited in
it. -/
theorem Edit.lookup_cases {kind : NodeKind} {a b : Fields} (hedit : Edit kind a b) {key : String}
    (hkey : key ∈ kind.keys) :
    List.lookup key a = List.lookup key b ∨
    (∃ below sub other, (key, below) ∈ kind.nodeFields ∧ Edit below sub other ∧
      List.lookup key a = some (.object sub) ∧ List.lookup key b = some (.object other)) ∨
    ∃ below sub other items rest, (key, below) ∈ kind.listFields ∧ Edit below sub other ∧
      List.lookup key a = some (.list (items ++ .object sub :: rest)) ∧
      List.lookup key b = some (.list (items ++ .object other :: rest)) := by
  cases hedit with
  | add _ value hadded =>
    exact .inl (Fields.lookup_append_of_ne (ne_of_mem_of_not_mem hkey hadded)).symm
  | reorder hkeys hperm => exact .inl (Fields.lookup_perm hperm hkeys key)
  | @node _ _ edited sub other before after hfield hbelow =>
    obtain hsame | ⟨rfl, hsub, hother⟩ :=
      Fields.lookup_replace before after edited key (.object sub) (.object other)
    · exact .inl hsame
    · exact .inr (.inl ⟨_, _, _, hfield, hbelow, hsub, hother⟩)
  | @list _ _ edited sub other before after items rest hfield hbelow =>
    obtain hsame | ⟨rfl, hsub, hother⟩ := Fields.lookup_replace before after edited key
      (.list (items ++ .object sub :: rest)) (.list (items ++ .object other :: rest))
    · exact .inl hsame
    · exact .inr (.inr ⟨_, _, _, _, _, hfield, hbelow, hsub, hother⟩)

theorem Edit.lookup_plain {kind : NodeKind} {a b : Fields} (hedit : Edit kind a b) {key : String}
    (hplain : key ∈ kind.plainKeys) : List.lookup key a = List.lookup key b := by
  obtain hsame | ⟨_, _, _, hfield, _⟩ | ⟨_, _, _, _, _, hfield, _⟩ :=
    hedit.lookup_cases (NodeKind.mem_keys_of_plainKeys hplain)
  · exact hsame
  · cases (NodeKind.lookup_plainKey hplain).1.symm.trans (NodeKind.lookup_nodeField hfield).1
  · cases (NodeKind.lookup_plainKey hplain).2.symm.trans (NodeKind.lookup_listField hfield).2

/-! ## One edit, and many -/

/-- An edited node agrees with what it was. -/
theorem Edit.isAgreement : IsAgreement fun kind => Relation.ReflGen (Edit kind) where
  plain := by
    intro kind a b key hnodes hplain
    cases hnodes with
    | refl => rfl
    | single hedit => exact Fields.get_eq_of_lookup (hedit.lookup_plain hplain)
  node := by
    intro kind a b key below hnodes hfield
    have hsame : ∀ {a b : Fields}, a.get key = b.get key →
        NodeAgrees (Relation.ReflGen (Edit below)) (a.get key) (b.get key) :=
      fun heq => heq ▸ NodeAgrees.refl (fun _ => .refl) _
    cases hnodes with
    | refl => exact hsame rfl
    | single hedit =>
      obtain hlookup | ⟨_, sub, other, hother, hbelow, ha, hb⟩ | ⟨_, _, _, _, _, hother, _⟩ :=
        hedit.lookup_cases (NodeKind.mem_keys_of_fields (.inl hfield))
      · exact hsame (Fields.get_eq_of_lookup hlookup)
      · have hkind := (NodeKind.lookup_nodeField hfield).1.symm.trans (NodeKind.lookup_nodeField hother).1
        obtain rfl := Option.some.inj hkind
        rw [Fields.get_of_lookup ha, Fields.get_of_lookup hb]
        exact .node (.single hbelow)
      · cases (NodeKind.lookup_nodeField hfield).2.symm.trans (NodeKind.lookup_listField hother).2
  list := by
    intro kind a b key below hnodes hfield
    have hsame : ∀ {a b : Fields}, a.get key = b.get key →
        ListAgrees (Relation.ReflGen (Edit below)) (a.get key) (b.get key) :=
      fun heq => heq ▸ ListAgrees.refl (fun _ => .refl) _
    cases hnodes with
    | refl => exact hsame rfl
    | single hedit =>
      obtain hlookup | ⟨_, _, _, hother, _⟩ | ⟨_, sub, other, items, rest, hother, hbelow, ha, hb⟩ :=
        hedit.lookup_cases (NodeKind.mem_keys_of_fields (.inr hfield))
      · exact hsame (Fields.get_eq_of_lookup hlookup)
      · cases (NodeKind.lookup_nodeField hother).2.symm.trans (NodeKind.lookup_listField hfield).2
      · have hkind := (NodeKind.lookup_listField hfield).2.symm.trans (NodeKind.lookup_listField hother).2
        obtain rfl := Option.some.inj hkind
        rw [Fields.get_of_lookup ha, Fields.get_of_lookup hb]
        have hitems := fun values : List Value => List.forall₂_same.2 fun item (_ : item ∈ values) =>
          NodeAgrees.refl (fun node => Relation.ReflGen.refl (r := Edit below) (a := node)) item
        exact .list (List.rel_append (hitems items) (.cons (.node (.single hbelow)) (hitems rest)))

/-- One edit changes neither the problems of a document nor the program that is read of it. -/
theorem Value.Edited.same_program {document edited : Value} (hedited : document.Edited edited) :
    (checkDocument edited).problems = (checkDocument document).problems ∧
      (checkDocument edited).halt? = (checkDocument document).halt? ∧
      ((checkDocument document).problems = [] →
        Program.ofDocument edited = Program.ofDocument document) := by
  cases hedited with
  | @intro node other hedit =>
    have hnodes : Relation.ReflGen (Edit .program) node other := .single hedit
    obtain ⟨hproblems, hhalt⟩ := Edit.isAgreement.checkDocument_eq hnodes
    refine ⟨hproblems.symm, hhalt.symm, fun haccepted => ?_⟩
    obtain ⟨_, hobject, hnode⟩ := problems_checkDocument_eq_nil_iff.1 haccepted
    obtain rfl := Value.object.inj hobject
    refine (Edit.isAgreement.program_eq ?_ hnodes hnode).symm
    intro a b hargument
    cases hargument with
    | refl => rfl
    | single hbelow => rw [Reading.flag, Reading.flag, hbelow.lookup_plain (by decide)]

/-- Unknown keys are ignored, and so is the order of keys. However many keys are added to the nodes of a
document that their kinds do not know, with whatever values, and however the keys of its nodes are put in
another order: the document has the same problems in the same order as before, its check ends alike, and
if there are no problems then the same program is read of it. -/
theorem edited_document_gives_same_program {document edited : Value}
    (hedits : Relation.ReflTransGen Value.Edited document edited) :
    (checkDocument edited).problems = (checkDocument document).problems ∧
      (checkDocument edited).halt? = (checkDocument document).halt? ∧
      ((checkDocument document).problems = [] →
        Program.ofDocument edited = Program.ofDocument document) := by
  induction hedits with
  | refl => exact ⟨rfl, rfl, fun _ => rfl⟩
  | tail _ hedited ih =>
    obtain ⟨hproblems, hhalt, hprogram⟩ := ih
    obtain ⟨hproblems', hhalt', hprogram'⟩ := hedited.same_program
    refine ⟨hproblems'.trans hproblems, hhalt'.trans hhalt, fun haccepted => ?_⟩
    exact (hprogram' (hproblems.trans haccepted)).trans (hprogram haccepted)

/-- An instance: a command gets a key that no command has, and the name of the tool is put last. -/
theorem edited_tool_gives_same_program :
    let run : Fields := [("name", .text "run")]
    let labelled : Fields := [("name", .text "run"), ("colour", .text "red")]
    let node : Fields := [("name", .text "tool"), ("commands", .list [.object run])]
    let edited : Fields := [("commands", .list [.object labelled]), ("name", .text "tool")]
    Relation.ReflTransGen Value.Edited (.object node) (.object edited) ∧
      (checkDocument (.object edited)).problems = [] ∧
      Program.ofDocument (.object edited) = Program.ofDocument (.object node) := by
  intro run labelled node edited
  have hlabelled : Edit .command run labelled := .add run (.text "red") (by decide)
  let between : Fields := [("name", .text "tool"), ("commands", .list [.object labelled])]
  have hfirst : Edit .program node between :=
    .list [("name", .text "tool")] [] [] [] (by decide) hlabelled
  have hsecond : Edit .program between edited := .reorder (by decide) (List.Perm.swap ..)
  have hedits : Relation.ReflTransGen Value.Edited (.object node) (.object edited) :=
    .tail (.single (.intro hfirst)) (.intro hsecond)
  have hrun : IsCommand run := isCommand_of_name (by decide)
  have hnode : IsProgram node :=
    isProgram_of_commands (by decide) (List.forall_mem_singleton.2 hrun) (by decide)
  have haccepted := problems_checkDocument_eq_nil_iff.2 ⟨node, rfl, hnode⟩
  obtain ⟨hproblems, _, hprogram⟩ := edited_document_gives_same_program hedits
  exact ⟨hedits, hproblems.trans haccepted, hprogram haccepted⟩

end Tabsmith
