import Tabsmith.Proofs.Calls.Bash
import Tabsmith.Proofs.Offering

/-!
What the functions of a bash script offer: the word lists that they declare.
-/

namespace Tabsmith.Bash

/-- The words that a statement declares for one of some variables. -/
def Statement.declared (targets : List Variable) : Statement → List String
  | declare target words => if target ∈ targets then words else []
  | _ => []

def Function.declared (f : Function) (targets : List Variable) : List String :=
  f.body.flatMap (Statement.declared targets)

/-- A function is the one for the path of an offering and declares its words. -/
structure Function.Offers (program : String) (f : Function) (o : Offering) : Prop where
  name : f.name = functionName (program :: o.path)
  commands : f.declared [.commands, .subcommands] = o.commands
  flags : f.declared [.options] = o.flags

section Declared

variable (targets : List Variable)

theorem declared_valueStatements (options : List Opt) :
    (valueStatements options).flatMap (Statement.declared targets) = [] := by
  unfold valueStatements
  split <;> rfl

theorem declared_argumentStatements (c : Command) (first : Argument) :
    (argumentStatements c first).flatMap (Statement.declared targets) = [] := by
  unfold argumentStatements
  rw [List.flatMap_append, List.flatMap_append, List.flatMap_append, declared_valueStatements]
  split <;> rfl

theorem declared_optionStatements (c : Command) :
    (optionStatements c).flatMap (Statement.declared targets) = [] := by
  unfold optionStatements
  rw [List.flatMap_append, List.flatMap_append, declared_valueStatements]
  rfl

/-- A declaration that is left out where its list is empty. -/
theorem declared_unless {none : Bool} {target : Variable} {words : List String}
    (hnone : none = true → words = []) :
    (if none then [] else [Statement.declare target words]).flatMap (Statement.declared targets) =
      Statement.declared targets (.declare target words) := by
  split
  next hempty =>
    rw [hnone hempty, Statement.declared]
    split <;> rfl
  next => exact List.flatMap_singleton _ _

/-- The function of a site declares the names of its subcommands and the flags of its options, even
where it leaves an empty list out. -/
theorem declared_siteFunction (program : String) (site : Site) :
    (siteFunction program site).declared targets =
      Statement.declared targets (.declare .subcommands (commandWords site.command.subcommands)) ++
        Statement.declared targets (.declare .options (flagWords site.command.options)) := by
  have hsubs : site.command.subcommands.isEmpty = true →
      commandWords site.command.subcommands = [] := by
    intro hnone
    rw [List.isEmpty_iff.1 hnone]
    rfl
  have hoptions : (visibleOptions site.command.options).isEmpty = true →
      flagWords site.command.options = [] := by
    intro hnone
    rw [flagWords, List.isEmpty_iff.1 hnone]
    rfl
  rw [Function.declared, siteFunction, List.flatMap_append, List.flatMap_append,
    declared_unless targets hsubs, declared_unless targets hoptions]
  apply List.append_right_eq_self.2
  split
  · rfl
  · split
    · exact declared_argumentStatements _ _ _
    · exact declared_optionStatements _ _

end Declared

theorem offers_entryFunction (p : Program) :
    (entryFunction p).Offers p.name p.startOffering := by
  refine ⟨rfl, ?_, ?_⟩
  · exact List.append_nil _
  · exact List.append_nil _

theorem offers_siteFunction (program : String) (site : Site) :
    (siteFunction program site).Offers program site.offering := by
  refine ⟨rfl, ?_, ?_⟩
  · rw [declared_siteFunction]
    exact List.append_nil _
  · rw [declared_siteFunction]
    rfl

theorem forall₂_offers (p : Program) :
    List.Forall₂ (Function.Offers p.name) (script p).definitions p.offerings := by
  rw [definitions_script]
  apply List.Forall₂.cons (offers_entryFunction p)
  apply forall₂_map_offering
  exact fun site _ => offers_siteFunction p.name site

end Tabsmith.Bash
