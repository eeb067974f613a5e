import Tabsmith.PowerShell.Completion
import Tabsmith.Proofs.Offering

/-!
What the branches of a PowerShell script offer: their candidates.
-/

namespace Tabsmith.PowerShell

def Entry.candidate? : Entry → Option Candidate
  | result text .parameterValue _ => some (.command text)
  | result text .parameterName _ => some (.flag text)
  | _ => none

/-- A branch is the one for the path of an offering and offers its words. -/
structure Branch.Offers (program : String) (b : Branch) (o : Offering) : Prop where
  path : b.path = program :: o.path
  candidates : b.entries.filterMap Entry.candidate? = o.candidates

theorem candidates_commandEntries (commands : List Command) :
    (commandEntries commands).filterMap Entry.candidate? =
      ((visibleCommands commands).map (·.name)).map .command := by
  rw [commandEntries, List.filterMap_map, List.map_map]
  exact congrFun List.filterMap_eq_map' _

theorem candidates_optionsEntries (options : List Opt) :
    (optionsEntries options).filterMap Entry.candidate? =
      ((visibleOptions options).flatMap Opt.flags).map .flag := by
  have hoption : ∀ o, (optionEntries o).filterMap Entry.candidate? = o.flags.map .flag := by
    intro o
    rw [optionEntries, List.filterMap_map]
    exact congrFun List.filterMap_eq_map' _
  rw [optionsEntries, List.filterMap_flatMap, List.map_flatMap]
  simp only [hoption]

theorem candidates_argumentEntries (c : Command) :
    (argumentEntries c).filterMap Entry.candidate? = [] := by
  unfold argumentEntries
  split
  · split <;> rfl
  · rfl

theorem offers_startBranch (p : Program) :
    Branch.Offers p.name ⟨[p.name], commandEntries p.commands ++ optionsEntries p.globalOptions⟩
      p.startOffering := by
  refine ⟨rfl, ?_⟩
  rw [List.filterMap_append, candidates_commandEntries, candidates_optionsEntries]
  rfl

theorem offers_siteBranch (program : String) (site : Site) :
    (siteBranch program site).Offers program site.offering := by
  refine ⟨rfl, ?_⟩
  rw [siteBranch, List.filterMap_append, List.filterMap_append, candidates_commandEntries,
    candidates_optionsEntries, candidates_argumentEntries, List.append_nil]
  rfl

theorem forall₂_offers (p : Program) :
    List.Forall₂ (Branch.Offers p.name) (script p).branches p.offerings := by
  apply List.Forall₂.cons (offers_startBranch p)
  apply forall₂_map_offering
  exact fun site _ => offers_siteBranch p.name site

end Tabsmith.PowerShell
