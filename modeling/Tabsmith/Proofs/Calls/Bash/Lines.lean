import Tabsmith.Bash.Script
import Tabsmith.Proofs.Calls.Lines

/-!
The lines of a bash script define its functions and call what its dispatching statements name.
-/

namespace Tabsmith.Bash

/-- The functions that a statement hands the completion over to. -/
def Statement.calls : Statement → List String
  | dispatch _ branches _ => branches.map (·.target)
  | _ => []

/-- The functions that a function hands the completion over to. -/
def Function.calls (f : Function) : List String :=
  f.body.flatMap Statement.calls

/-- The functions of a script in the order of their definitions. -/
def Script.definitions (s : Script) : List Function :=
  s.entry :: s.functions

/-! ## Reading the lines of a function -/

theorem hasMark_fromWords (words : String) : hasMark (fromWords words) = true :=
  hasMark_append_right _ (by decide)

theorem Reply.hasMark_text (r : Reply) : hasMark r.text = true := by
  cases r with
  | none | files | folders => decide
  | words | output | held => exact hasMark_fromWords _

theorem calledName?_reply (indent : String) (r : Reply) : calledName? (indent ++ r.text) = none :=
  calledName?_of_hasMark (hasMark_append_right _ r.hasMark_text)

theorem calledName?_patternLine (words : List String) : calledName? (patternLine words) = none :=
  calledName?_of_hasMark (hasMark_append_right _ (by decide))

theorem calledNames_guardedLines (condition : String) (r : Reply) :
    calledNames (Statement.guardedLines condition r) = [] := by
  have hif : calledName? ("  if [[ " ++ condition ++ " ]]; then") = none :=
    calledName?_of_hasMark (hasMark_append_right _ (by decide))
  simp only [calledNames, Statement.guardedLines, List.filterMap_cons, hif, calledName?_reply]
  rfl

theorem calledNames_valueLines (branch : ValueBranch) :
    calledNames (Statement.valueLines branch) = [] := by
  simp only [calledNames, Statement.valueLines, List.filterMap_cons, calledName?_patternLine,
    calledName?_reply]
  rfl

theorem calledNames_branchLines {branch : Branch}
    (htarget : ∃ segments, branch.target = functionName segments) :
    calledNames (Statement.branchLines branch) = [branch.target] := by
  obtain ⟨segments, hsegments⟩ := htarget
  have hcall : calledName? ("      " ++ branch.target) = some branch.target := by
    rw [hsegments]
    exact calledName?_call rfl (by decide) segments
  simp only [calledNames, Statement.branchLines, List.filterMap_cons, calledName?_patternLine, hcall]
  rfl

/-- The calls on the lines of a statement are those of the statement. -/
theorem Statement.calledNames_lines (s : Statement)
    (hcalls : ∀ name ∈ s.calls, ∃ segments, name = functionName segments) :
    calledNames s.lines = s.calls := by
  cases s with
  | blank => rfl
  | prepare => rfl
  | declare target words =>
    have hline : calledName? ("  local " ++ target.name ++ "=\"" ++ wordList words ++ "\"") = none :=
      calledName?_of_hasMark (hasMark_append_right _ (by decide))
    simp [calledNames, lines, hline, calls]
  | atWord index r => exact calledNames_guardedLines _ r
  | atFlag r => exact calledNames_guardedLines _ r
  | afterFlag branches =>
    have hbranches : branches.flatMap (fun b => calledNames (valueLines b)) = [] :=
      List.flatMap_eq_nil_iff.2 fun b _ => calledNames_valueLines b
    rw [lines, calledNames_append, calledNames_append, calledNames_flatMap, hbranches]
    rfl
  | dispatch index branches otherwise =>
    have hopen : calledName? s!"  case \"$\x7bwords[{index}]\x7d\" in" = none :=
      calledName?_of_hasMark (hasMark_append_right _ (by decide))
    have hclose : calledNames ["    *)", "      " ++ otherwise.text, "      ;;", "  esac"] = [] := by
      simp only [calledNames, List.filterMap_cons, calledName?_reply]
      rfl
    have hbranches : branches.flatMap (fun b => calledNames (branchLines b)) =
        branches.flatMap fun b => [b.target] :=
      List.flatMap_congr fun b hb => calledNames_branchLines (hcalls _ (List.mem_map_of_mem hb))
    rw [lines, calledNames_append, calledNames_append, calledNames_flatMap, hclose, hbranches, calls,
      List.map_eq_flatMap, calledNames, List.filterMap_cons, hopen]
    simp
  | reply r => simp [calledNames, lines, calledName?_reply, calls]

theorem all_isIndented_guardedLines (condition : String) (r : Reply) :
    (Statement.guardedLines condition r).all isIndented = true := by
  simp [Statement.guardedLines]
  decide

theorem all_isIndented_valueLines (branch : ValueBranch) :
    (Statement.valueLines branch).all isIndented = true := by
  simp [Statement.valueLines, patternLine]
  decide

theorem all_isIndented_branchLines (branch : Branch) :
    (Statement.branchLines branch).all isIndented = true := by
  simp [Statement.branchLines, patternLine]
  decide

/-- All lines of a statement are indented or empty. -/
theorem Statement.all_isIndented_lines (s : Statement) : s.lines.all isIndented = true := by
  cases s with
  | blank | prepare => decide
  | declare target words =>
    simp [lines]
    decide
  | atWord index r => exact all_isIndented_guardedLines _ r
  | atFlag r => exact all_isIndented_guardedLines _ r
  | afterFlag branches =>
    simp only [lines, List.all_append, List.all_flatMap, all_isIndented_valueLines]
    simp
    decide
  | dispatch index branches otherwise =>
    have hopen : isIndented ("  case \"$\x7bwords[" ++ toString index ++ "]\x7d\" in") = true := by
      simp
      decide
    simp only [lines, List.all_append, List.all_flatMap, all_isIndented_branchLines]
    rw [List.all_cons, show isIndented s!"  case \"$\x7bwords[{index}]\x7d\" in" = true from hopen]
    simp
    decide
  | reply r =>
    simp [lines]
    decide

/-! ## Functions and scripts -/

/-- The names of a function and of the functions it calls are those of paths. -/
structure Function.IsNamed (f : Function) : Prop where
  named : ∃ segments, f.name = functionName segments
  calls : ∀ name ∈ f.calls, ∃ segments, name = functionName segments

theorem Function.definedNames_lines {f : Function} (hf : f.IsNamed) :
    definedNames f.lines = [f.name] := by
  obtain ⟨segments, hname⟩ := hf.named
  refine definedNames_function ?_ ?_
  · rw [hname]
    exact all_isIdentifierChar_functionName segments
  · simp [List.all_flatMap, Statement.all_isIndented_lines]

theorem Function.calledNames_lines {f : Function} (hf : f.IsNamed) :
    calledNames f.lines = f.calls := by
  rw [Function.lines, calledNames_function, calledNames_flatMap, Function.calls]
  refine List.flatMap_congr fun s hs => s.calledNames_lines fun name hname => ?_
  exact hf.calls name (List.mem_flatMap.2 ⟨s, hs, hname⟩)

theorem Script.lines_eq (s : Script) : s.lines =
    ["# Bash completion for " ++ s.title, "# Generated by: shellcomp generate bash", ""] ++
      s.definitions.flatMap Function.lines ++
      ["complete -F " ++ s.entry.name ++ " " ++ s.program] := by
  simp [lines, definitions]

/-- The lines of a script define its functions in order. -/
theorem Script.definedNames_lines {s : Script} (hs : ∀ f ∈ s.definitions, f.IsNamed) :
    definedNames s.lines = s.definitions.map (·.name) := by
  have hheader : definedNames ["# Bash completion for " ++ s.title,
      "# Generated by: shellcomp generate bash", ""] = [] := by
    simp [definedNames, definedName?, isIdentifierChar]
  have hfooter : definedNames ["complete -F " ++ s.entry.name ++ " " ++ s.program] = [] := by
    simp [definedNames, definedName?, isIdentifierChar]
  rw [lines_eq, definedNames_append, definedNames_append, hheader, hfooter,
    definedNames_functions fun f hf => f.definedNames_lines (hs f hf), List.nil_append, List.append_nil]

/-- The lines of a script call what its functions call, in order. -/
theorem Script.calledNames_lines {s : Script} (hs : ∀ f ∈ s.definitions, f.IsNamed) :
    calledNames s.lines = s.definitions.flatMap Function.calls := by
  have hheader : calledNames ["# Bash completion for " ++ s.title,
      "# Generated by: shellcomp generate bash", ""] = [] := by
    simp [calledNames, calledName?]
  have hfooter : calledNames ["complete -F " ++ s.entry.name ++ " " ++ s.program] = [] := by
    simp [calledNames, calledName?]
  rw [lines_eq, calledNames_append, calledNames_append, hheader, hfooter,
    calledNames_functions fun f hf => f.calledNames_lines (hs f hf), List.nil_append, List.append_nil]

end Tabsmith.Bash
