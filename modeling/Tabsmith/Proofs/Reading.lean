import Tabsmith.Proofs.Acceptance.Small
import Tabsmith.Proofs.Reading.Nodes

/-!
The check of a document and its reading agree: a document without problems can be read, and gives a
well-formed program.
-/

namespace Tabsmith

/-- Reading a program without problems gives a well-formed one with the names of the document. -/
theorem gives_program {node : Fields} (hnode : IsProgram node) :
    Gives ((Value.object node).isUnwritable = true) (Program.ofDocument (.object node))
      fun p => p.WellFormed ∧ p.Mirrors node := by
  obtain ⟨name, hget, hvoid, hreadName⟩ := Reading.name_of_isFilled "Program" hnode.name
  have hstrays : Reading.strays node ["description"] = [] :=
    Reading.strays_eq_nil (by simpa using hnode.description)
  have hversion : Gives ((Value.object node).isUnwritable = true)
      (Reading.version (node.get "version")) fun _ => True := by
    rw [Reading.version]
    split
    · exact .ok rfl trivial
    · rw [Reading.display]
      split
      next hunwritable => exact Or.inr ⟨rfl, Fields.isUnwritable_of_get hunwritable⟩
      next => exact .ok rfl trivial
  simp only [Program.ofDocument_object, Reading.need_of_isFilled hnode.name, pure_bind, hreadName,
    hstrays, Reading.elements_eq hnode.commands, Reading.elements_eq hnode.options]
  refine hversion.bind fun version _ => ?_
  refine (gives_commands hnode.commands hnode.eachCommand).bind fun commands hcs => ?_
  refine (gives_options hnode.options hnode.eachOption).bind fun options hos => ?_
  obtain ⟨hallCommands, hmirrors⟩ := forall₂_right hcs
  obtain ⟨hallOptions, hnamedOptions⟩ := forall₂_right hos
  have hnamedCommands := hmirrors.imp fun _ _ h => h.isNamed
  exact .ok rfl ⟨⟨hvoid, hallCommands, hnode.commandNames.nodup hnode.commands hnamedCommands,
    hallOptions, hnode.optionNames.nodup hnode.options hnamedOptions, rfl⟩, hget, hmirrors,
    hnamedOptions⟩

theorem wellFormed_of_no_problems {document : Value} {p : Program}
    (haccepted : (checkDocument document).problems = [])
    (hread : Program.ofDocument document = .ok p) : p.WellFormed := by
  obtain ⟨node, rfl, hnode⟩ := problems_checkDocument_eq_nil_iff.1 haccepted
  rcases gives_program hnode with ⟨q, hq, hwell, _⟩ | ⟨herror, _⟩
  · obtain rfl : q = p := Except.ok.inj (hq.symm.trans hread)
    exact hwell
  · cases herror.symm.trans hread

/-- A document without problems gives a program that is well formed and has its names in its order.
The only thing that can stand in the way is a number of the document that has too many digits to be
written as text. -/
theorem ofDocument_of_no_problems (document : Value)
    (haccepted : (checkDocument document).problems = []) :
    (∃ node p, document = .object node ∧ Program.ofDocument document = .ok p ∧ p.WellFormed ∧
      p.Mirrors node) ∨
    (Program.ofDocument document = .error (.breakdown .unwritable) ∧ document.isUnwritable = true) := by
  obtain ⟨node, rfl, hnode⟩ := problems_checkDocument_eq_nil_iff.1 haccepted
  rcases gives_program hnode with ⟨p, hread, hwell, hmirrors⟩ | hunwritable
  · exact Or.inl ⟨node, p, rfl, hread, hwell, hmirrors⟩
  · exact Or.inr hunwritable

/-- An instance: a tool with a command below a command, whose option takes one of two values. -/
theorem ofDocument_of_nested_commands :
    let mode : Fields := [("name", .text "mode"), ("completion", .object [
      ("type", .text "static"), ("values", .list [.text "fast", .text "slow"])])]
    let now : Fields := [("name", .text "now"), ("options", .list [.object mode])]
    let run : Fields := [("name", .text "run"), ("subcommands", .list [.object now])]
    let node : Fields := [("name", .text "tool"), ("commands", .list [.object run])]
    (checkDocument (.object node)).problems = [] ∧
      ∃ p, Program.ofDocument (.object node) = .ok p ∧ p.WellFormed ∧ p.Mirrors node := by
  intro mode now run node
  have hmode : IsOption mode :=
    isOption_of_completion (by decide) (isHint_of_values (List.cons_ne_nil "fast" ["slow"]))
  have hnow : IsCommand now :=
    isCommand_of_options (by decide) (List.forall_mem_singleton.2 hmode) (by decide)
  have hrun : IsCommand run :=
    isCommand_of_subcommands (by decide) (List.forall_mem_singleton.2 hnow) (by decide)
  have hnode : IsProgram node :=
    isProgram_of_commands (by decide) (List.forall_mem_singleton.2 hrun) (by decide)
  have haccepted := problems_checkDocument_eq_nil_iff.2 ⟨node, rfl, hnode⟩
  have hwritable : (Value.object node).isUnwritable = false := by decide
  rcases ofDocument_of_no_problems (.object node) haccepted with
    ⟨fields, p, hfields, hread, hwell, hmirrors⟩ | ⟨_, hunwritable⟩
  · obtain rfl : node = fields := Value.object.inj hfields
    exact ⟨haccepted, p, hread, hwell, hmirrors⟩
  · rw [hwritable] at hunwritable
    exact Bool.noConfusion hunwritable

end Tabsmith
