import Tabsmith.Proofs.Calls.Lines
import Tabsmith.Zsh.Script

/-!
The lines of a zsh script define its functions and call what its dispatching statements name.
-/

namespace Tabsmith.Zsh

/-- The functions that a statement hands the completion over to. -/
def Statement.calls : Statement → List String
  | dispatch _ branches => branches.filterMap (·.target)
  | _ => []

/-- The functions that a function hands the completion over to. -/
def Function.calls (f : Function) : List String :=
  f.body.flatMap Statement.calls

/-- The functions of a script in the order of their definitions. -/
def Script.definitions (s : Script) : List Function :=
  s.functions ++ [s.entry]

/-- The entries and specifications of a statement are no bare words. -/
def Statement.isMarked : Statement → Bool
  | describe _ entries => entries.all hasMark
  | arguments _ specs => specs.all hasMark
  | _ => true

/-! ## Statements -/

theorem calledNames_continued {specs : List String} (hspecs : specs.all hasMark = true) :
    calledNames (Statement.continued specs) = [] := by
  induction specs with
  | nil => rfl
  | cons spec rest ih =>
    rw [List.all_cons, Bool.and_eq_true] at hspecs
    have hspec : hasMark ("    " ++ spec) = true := hasMark_append_right _ hspecs.1
    cases rest with
    | nil => simp [Statement.continued, calledNames, calledName?_of_hasMark hspec]
    | cons next rest =>
      have hline := calledName?_of_hasMark (hasMark_append_left hspec " \\")
      rw [Statement.continued, calledNames, List.filterMap_cons, hline]
      · exact ih hspecs.2
      · simp

theorem all_isIndented_continued (specs : List String) :
    (Statement.continued specs).all isIndented = true := by
  induction specs with
  | nil => rfl
  | cons spec rest ih =>
    cases rest with
    | nil =>
      simp [Statement.continued]
      decide
    | cons next rest =>
      rw [Statement.continued, List.all_cons, ih]
      · simp
        decide
      · simp

theorem calledNames_branchLines {branch : Branch}
    (htarget : ∀ name ∈ branch.target, ∃ segments, name = functionName segments) :
    calledNames (Statement.branchLines branch) = branch.target.toList := by
  have hpattern : calledName? ("        " ++ pattern branch.word ++ ")") = none :=
    calledName?_of_hasMark (hasMark_append_right _ (by decide))
  rw [Statement.branchLines, calledNames, List.filterMap_cons, hpattern]
  cases hbranch : branch.target with
  | none => decide
  | some name =>
    obtain ⟨segments, rfl⟩ := htarget name hbranch
    have hcall : calledName? ("          " ++ functionName segments) = some (functionName segments) :=
      calledName?_call rfl (by decide) segments
    simp only [Option.getD_some, List.filterMap_cons, hcall]
    rfl

theorem all_isIndented_branchLines (branch : Branch) :
    (Statement.branchLines branch).all isIndented = true := by
  simp [Statement.branchLines]
  decide

/-- The calls on the lines of a statement are those of the statement. -/
theorem Statement.calledNames_lines (s : Statement) (hmarked : s.isMarked = true)
    (hcalls : ∀ name ∈ s.calls, ∃ segments, name = functionName segments) :
    calledNames s.lines = s.calls := by
  cases s with
  | blank | context | optionTable | nothing => decide
  | describe level entries =>
    have hentries : calledNames (entries.map ("    " ++ ·)) = [] := by
      rw [calledNames, List.filterMap_map, List.filterMap_eq_nil_iff]
      intro entry hentry
      exact calledName?_of_hasMark (hasMark_append_right _ (List.all_eq_true.1 hmarked entry hentry))
    rw [lines, calledNames_append, calledNames_append, hentries]
    change _ = []
    cases level <;> decide
  | arguments continues specs =>
    rw [lines]
    split
    · rfl
    · have hfirst : calledName? (if continues then "  _arguments -C \\" else "  _arguments \\") =
          none := by cases continues <;> decide
      rw [calledNames, List.filterMap_cons, hfirst]
      exact calledNames_continued hmarked
  | dispatch level branches =>
    have hbranches : branches.flatMap (fun b => calledNames (branchLines b)) =
        branches.flatMap fun b => b.target.toList := by
      refine List.flatMap_congr fun b hb => calledNames_branchLines fun name hname => ?_
      exact hcalls name (List.mem_filterMap.2 ⟨b, hb, hname⟩)
    have hopen : calledNames ["  case $state in", "    " ++ level.state ++ ")",
        "      _describe '" ++ level.state ++ "' " ++ level.array, "      ;;", "    args)",
        "      case $words[1] in"] = [] := by cases level <;> decide
    have hclose : calledNames ["      esac", "      ;;", "  esac"] = [] := by decide
    rw [lines, calledNames_append, calledNames_append, calledNames_flatMap, hbranches, hopen, hclose,
      List.nil_append, List.append_nil, calls, List.filterMap_eq_flatMap_toList]

/-- All lines of a statement are indented or empty. -/
theorem Statement.all_isIndented_lines (s : Statement) : s.lines.all isIndented = true := by
  cases s with
  | blank | context | optionTable | nothing => decide
  | describe level entries =>
    have hentries : (entries.map ("    " ++ ·)).all isIndented = true := by
      rw [List.all_map, List.all_eq_true]
      intro entry _
      simp
      decide
    rw [lines, List.all_append, List.all_append, hentries]
    cases level <;> decide
  | arguments continues specs =>
    rw [lines]
    split
    · rfl
    · rw [List.all_cons, all_isIndented_continued, Bool.and_true]
      cases continues <;> decide
  | dispatch level branches =>
    simp only [lines, List.all_append, List.all_flatMap, all_isIndented_branchLines]
    simp
    decide

/-! ## Functions and scripts -/

/-- The names of a function and of the functions it calls are those of paths, and the rest of its
body holds no bare words. -/
structure Function.IsNamed (f : Function) : Prop where
  named : ∃ segments, f.name = functionName segments
  calls : ∀ name ∈ f.calls, ∃ segments, name = functionName segments
  marked : ∀ s ∈ f.body, s.isMarked = true

theorem Function.definedNames_lines {f : Function} (hf : f.IsNamed) :
    definedNames f.lines = [f.name] := by
  obtain ⟨segments, hname⟩ := hf.named
  refine definedNames_function ?_ ?_
  · rw [hname]
    exact all_isIdentifierChar_functionName segments
  · simp [List.all_flatMap, Statement.all_isIndented_lines]

theorem Function.calledNames_lines {f : Function} (hf : f.IsNamed) :
    calledNames f.lines = f.calls := by
  rw [Function.lines, calledNames_function, calledNames_flatMap, Function.calls]
  refine List.flatMap_congr fun s hs => s.calledNames_lines (hf.marked s hs) fun name hname => ?_
  exact hf.calls name (List.mem_flatMap.2 ⟨s, hs, hname⟩)

theorem Script.lines_eq (s : Script) : s.lines = ["#compdef " ++ s.program, ""] ++
    s.definitions.flatMap Function.lines ++ ["compdef " ++ s.entry.name ++ " " ++ s.program] := by
  simp [lines, definitions]

/-- The lines of a script define its functions in order. -/
theorem Script.definedNames_lines {s : Script} (hs : ∀ f ∈ s.definitions, f.IsNamed) :
    definedNames s.lines = s.definitions.map (·.name) := by
  have hheader : definedNames ["#compdef " ++ s.program, ""] = [] := by
    simp [definedNames, definedName?, isIdentifierChar]
  have hfooter : definedNames ["compdef " ++ s.entry.name ++ " " ++ s.program] = [] := by
    simp [definedNames, definedName?, isIdentifierChar]
  rw [lines_eq, definedNames_append, definedNames_append, hheader, hfooter,
    definedNames_functions fun f hf => f.definedNames_lines (hs f hf), List.nil_append, List.append_nil]

/-- The lines of a script call what its functions call, in order. -/
theorem Script.calledNames_lines {s : Script} (hs : ∀ f ∈ s.definitions, f.IsNamed) :
    calledNames s.lines = s.definitions.flatMap Function.calls := by
  have hheader : calledNames ["#compdef " ++ s.program, ""] = [] := by
    simp [calledNames, calledName?]
  have hfooter : calledNames ["compdef " ++ s.entry.name ++ " " ++ s.program] = [] := by
    simp [calledNames, calledName?]
  rw [lines_eq, calledNames_append, calledNames_append, hheader, hfooter,
    calledNames_functions fun f hf => f.calledNames_lines (hs f hf), List.nil_append, List.append_nil]

end Tabsmith.Zsh
