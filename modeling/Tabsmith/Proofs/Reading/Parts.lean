import Mathlib.Data.List.Forall2
import Tabsmith.Proofs.Outcome
import Tabsmith.Proofs.Reading.Fields

/-!
The parts that a node is read into: an option, an argument or a command for each node of its lists.
-/

namespace Tabsmith

/-- Reading one after the other succeeds if each reading does. -/
theorem mapM_eq_ok_iff {ε α β : Type} {f : α → Except ε β} {xs : List α} {ys : List β} :
    xs.mapM f = .ok ys ↔ List.Forall₂ (fun x y => f x = .ok y) xs ys := by
  induction xs generalizing ys with
  | nil =>
    rw [List.mapM_nil, List.forall₂_nil_left_iff]
    exact ⟨fun h => (Except.ok.inj h).symm, fun h => h ▸ rfl⟩
  | cons x rest ih =>
    rw [List.mapM_cons, bind_eq_ok_iff, List.forall₂_cons_left_iff]
    constructor
    · rintro ⟨y, hy, hrest⟩
      obtain ⟨others, hothers, hys⟩ := bind_eq_ok_iff.1 hrest
      exact ⟨y, others, hy, ih.1 hothers, (Except.ok.inj hys).symm⟩
    · rintro ⟨y, others, hy, hothers, rfl⟩
      exact ⟨y, hy, bind_eq_ok_iff.2 ⟨others, ih.2 hothers, rfl⟩⟩

theorem exists_common_of_mem {α β : Type} {R S : α → β → Prop} {xs : List α} {ys : List β}
    (hR : List.Forall₂ R xs ys) (hS : List.Forall₂ S xs ys) {x : α} (hx : x ∈ xs) :
    ∃ y ∈ ys, R x y ∧ S x y := by
  induction hR with
  | nil => cases hx
  | cons hhead _ ih =>
    cases hS with
    | cons hhead' hrest' =>
      rcases List.mem_cons.1 hx with rfl | hx
      · exact ⟨_, List.mem_cons_self .., hhead, hhead'⟩
      · obtain ⟨y, hy, hboth⟩ := ih hrest' hx
        exact ⟨y, List.mem_cons_of_mem _ hy, hboth⟩

/-- The commands of documents are read one after the other. -/
theorem Command.ofDocuments_eq_mapM (documents : List Value) :
    Command.ofDocuments documents = documents.mapM Command.ofDocument := by
  induction documents with
  | nil => rw [Command.ofDocuments, List.mapM_nil]
  | cons document rest ih => rw [Command.ofDocuments, List.mapM_cons, ih]

/-- The elements of what is no list are texts, which are no commands. -/
theorem Command.mapM_elements_of_no_list {value : Value} (hlist : ∀ items, value ≠ .list items) :
    (do (← Reading.elements value).mapM Command.ofDocument) =
      if value.isTruthy then Reading.wrongKind else pure [] := by
  have htext : ∀ (s : String) (rest : List Value),
      (Value.text s :: rest).mapM Command.ofDocument = Reading.wrongKind := by
    intro s rest
    rw [List.mapM_cons, Command.ofDocument]
    · rfl
    · simp
  rw [Reading.elements]
  cases htruthy : value.isTruthy with
  | false => rfl
  | true =>
    cases value with
    | list items => exact absurd rfl (hlist items)
    | text s =>
      have hchars : s.toList ≠ [] := by simpa [Value.isTruthy] using htruthy
      obtain ⟨c, rest, hcons⟩ := List.exists_cons_of_ne_nil hchars
      simp only [Value.elements?, hcons]
      exact htext _ _
    | object fields =>
      cases fields with
      | nil => cases htruthy
      | cons field rest => exact htext _ _
    | _ => rfl

/-- Reading a command reads its subcommands like its options and arguments: what stands in the field is
gone through, and each element is read. -/
theorem Command.ofDocument_object (node : Fields) : Command.ofDocument (.object node) = do
    let name ← Reading.need node "name"
    let options ← (← Reading.elements (node.get "options")).mapM Opt.ofDocument
    let arguments ← (← Reading.elements (node.get "arguments")).mapM Argument.ofDocument
    let subcommands ← (← Reading.elements (node.get "subcommands")).mapM Command.ofDocument
    return {
      name := ← Reading.name "Command" name
      description := Reading.text node "description" ""
      hidden := Reading.flag node "hidden" false
      options := options
      arguments := arguments
      subcommands := subcommands
      strays := Reading.strays node ["description"] } := by
  rw [Command.ofDocument]
  refine bind_congr fun name => bind_congr fun _ => bind_congr fun options => bind_congr fun _ =>
    bind_congr fun arguments => ?_
  rw [← bind_assoc]
  split
  next items hlookup =>
    have hget : node.get "subcommands" = .list items := Fields.get_of_lookup hlookup
    have helements : Reading.elements (.list items) = pure items := by cases items <;> rfl
    rw [hget, helements, pure_bind, Command.ofDocuments_eq_mapM]
  next value hother hlookup =>
    have hget : node.get "subcommands" = value := Fields.get_of_lookup hlookup
    rw [hget, Command.mapM_elements_of_no_list fun items heq => hother items heq]
    cases value.isTruthy <;> rfl
  next hlookup =>
    have hget : node.get "subcommands" = .null := by rw [Fields.get, hlookup, Option.getD_none]
    rw [hget]
    rfl

/-- The version of a program, which is empty if there is none. -/
def Reading.version (value : Value) : Reading String :=
  if value.isNull then pure "" else Reading.display value

/-- A program is read field by field, its version and its commands like the others. -/
theorem Program.ofDocument_object (node : Fields) : Program.ofDocument (.object node) = do
    let name ← Reading.need node "name"
    let version ← Reading.version (node.get "version")
    let commands ← (← Reading.elements (node.get "commands")).mapM Command.ofDocument
    let globalOptions ← (← Reading.elements (node.get "globalOptions")).mapM Opt.ofDocument
    return {
      name := ← Reading.name "Program" name
      description := Reading.text node "description" ""
      version := version
      commands := commands
      globalOptions := globalOptions
      strays := Reading.strays node ["description"] } := by
  simp only [Program.ofDocument, Reading.node, pure_bind, Command.ofDocuments_eq_mapM, Reading.version]
  refine bind_congr fun name => ?_
  split <;> rfl

theorem Program.ofDocument_of_command (name : String) (hname : name ≠ "") {run : Fields} {c : Command}
    (hread : Command.ofDocument (.object run) = .ok c) :
    Program.ofDocument (.object [("name", .text name), ("commands", .list [.object run])]) =
      .ok { name := name, commands := [c] } := by
  let node : Fields := [("name", .text name), ("commands", .list [.object run])]
  have hneed : Reading.need node "name" = pure (.text name) := rfl
  have hcommands : Reading.elements (node.get "commands") = pure [.object run] := rfl
  have hreadName : Reading.name "Program" (.text name) = pure name := if_neg hname
  change Program.ofDocument (.object node) = _
  simp only [Program.ofDocument_object, hneed, hcommands, hreadName, pure_bind, List.mapM_cons, hread]
  rfl

end Tabsmith
