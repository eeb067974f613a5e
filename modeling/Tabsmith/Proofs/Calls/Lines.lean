import Mathlib.Data.List.Basic
import Mathlib.Data.List.TakeWhile
import Tabsmith.Proofs.Identifier

/-!
Reading the lines of a script: which line defines a function, and which one calls a function of the
script. All function names start with an underscore, as no other single word on a line does. A line
is one that the script puts down: a line break in a word of the program does not end it.
-/

namespace Tabsmith

/-- The name of the function whose definition a line opens. -/
def definedName? (line : String) : Option String :=
  if line.toList.dropWhile isIdentifierChar = "() \x7b".toList then
    some (String.ofList (line.toList.takeWhile isIdentifierChar))
  else none

/-- The function that a line calls: the line is indented and holds nothing but a name that starts
with an underscore. -/
def calledName? (line : String) : Option String :=
  let word := line.toList.dropWhile (· = ' ')
  if line.toList.head? = some ' ' ∧ word.head? = some '_' ∧ word.all isIdentifierChar = true then
    some (String.ofList word)
  else none

/-- The names of the functions that lines define, in order. -/
def definedNames (lines : List String) : List String :=
  lines.filterMap definedName?

/-- The names of the functions that lines call, in order. -/
def calledNames (lines : List String) : List String :=
  lines.filterMap calledName?

@[simp] theorem definedNames_append (a b : List String) :
    definedNames (a ++ b) = definedNames a ++ definedNames b :=
  List.filterMap_append

@[simp] theorem calledNames_append (a b : List String) :
    calledNames (a ++ b) = calledNames a ++ calledNames b :=
  List.filterMap_append

theorem definedNames_flatMap {α : Type} (f : α → List String) (xs : List α) :
    definedNames (xs.flatMap f) = xs.flatMap fun x => definedNames (f x) :=
  List.filterMap_flatMap

theorem calledNames_flatMap {α : Type} (f : α → List String) (xs : List α) :
    calledNames (xs.flatMap f) = xs.flatMap fun x => calledNames (f x) :=
  List.filterMap_flatMap

/-- An opening line defines the function it names. -/
theorem definedName?_opening {name : String} (hname : name.toList.all isIdentifierChar = true) :
    definedName? (name ++ "() \x7b") = some name := by
  have hchars : ∀ c ∈ name.toList, isIdentifierChar c = true := List.all_eq_true.1 hname
  have hdrop : (name ++ "() \x7b").toList.dropWhile isIdentifierChar = "() \x7b".toList := by
    rw [String.toList_append, List.dropWhile_append_of_pos hchars]
    rfl
  have htake : (name ++ "() \x7b").toList.takeWhile isIdentifierChar = name.toList := by
    rw [String.toList_append, List.takeWhile_append_of_pos hchars]
    simp [isIdentifierChar]
  rw [definedName?, if_pos hdrop, htake, String.ofList_toList]

/-- A line is indented or empty. -/
def isIndented (line : String) : Bool :=
  line.toList.head?.all (· = ' ')

@[simp] theorem isIndented_append (a b : String) :
    isIndented (a ++ b) = if a = "" then isIndented b else isIndented a := by
  unfold isIndented
  split
  next ha => simp [ha]
  next ha =>
    obtain ⟨c, rest, hchars⟩ := List.exists_cons_of_ne_nil (mt String.toList_eq_nil_iff.1 ha)
    simp [hchars]

/-- Indented lines define nothing. -/
theorem definedNames_of_indented {lines : List String} (hlines : lines.all isIndented = true) :
    definedNames lines = [] := by
  rw [definedNames, List.filterMap_eq_nil_iff]
  intro line hline
  have hindent := List.all_eq_true.1 hlines line hline
  rw [definedName?, if_neg]
  unfold isIndented at hindent
  cases hchars : line.toList with
  | nil => decide
  | cons c rest =>
    obtain rfl : c = ' ' := by simpa [hchars] using hindent
    simp [isIdentifierChar]

/-- An indented function name is a call. -/
theorem calledName?_call {indent : String} (hhead : indent.toList.head? = some ' ')
    (hblank : indent.toList.all (· = ' ') = true) (segments : List String) :
    calledName? (indent ++ functionName segments) = some (functionName segments) := by
  have hword : (indent ++ functionName segments).toList.dropWhile (· = ' ') =
      (functionName segments).toList := by
    rw [String.toList_append, List.dropWhile_append_of_pos (by simpa using hblank),
      functionName_toList]
    rfl
  have hstart : (indent ++ functionName segments).toList.head? = some ' ' := by
    rw [String.toList_append, List.head?_append, hhead]
    rfl
  simp only [calledName?, hword, hstart, all_isIdentifierChar_functionName, String.ofList_toList]
  simp [functionName_toList]

/-- A line has a mark: a character that is neither a space nor part of a name. -/
def hasMark (line : String) : Bool :=
  line.toList.any fun c => c ≠ ' ' && !isIdentifierChar c

theorem hasMark_append_left {a : String} (ha : hasMark a = true) (b : String) :
    hasMark (a ++ b) = true := by
  rw [hasMark] at ha ⊢
  rw [String.toList_append, List.any_append, ha, Bool.true_or]

theorem hasMark_append_right (a : String) {b : String} (hb : hasMark b = true) :
    hasMark (a ++ b) = true := by
  rw [hasMark] at hb ⊢
  rw [String.toList_append, List.any_append, hb, Bool.or_true]

/-- A line with a mark calls nothing. -/
theorem calledName?_of_hasMark {line : String} (hline : hasMark line = true) :
    calledName? line = none := by
  obtain ⟨c, hmem, hc⟩ := List.any_eq_true.1 hline
  obtain ⟨hblank, hname⟩ : c ≠ ' ' ∧ isIdentifierChar c = false := by simpa using hc
  have hword : c ∈ line.toList.dropWhile (· = ' ') := by
    rw [← List.takeWhile_append_dropWhile (p := (· = ' ')) (l := line.toList)] at hmem
    rcases List.mem_append.1 hmem with htaken | hdropped
    · exact absurd (by simpa using List.mem_takeWhile_imp htaken) hblank
    · exact hdropped
  rw [calledName?, if_neg]
  rintro ⟨_, _, hall⟩
  rw [List.all_eq_true.1 hall c hword] at hname
  exact Bool.noConfusion hname

/-! ## Whole functions -/

/-- The lines of a function, whose body is indented, define the function. -/
theorem definedNames_function {name : String} {body : List String}
    (hname : name.toList.all isIdentifierChar = true) (hbody : body.all isIndented = true) :
    definedNames ([name ++ "() \x7b"] ++ body ++ ["\x7d", ""]) = [name] := by
  rw [definedNames_append, definedNames_append, definedNames_of_indented hbody, definedNames,
    List.filterMap_cons, definedName?_opening hname]
  rfl

/-- The lines of a function call what its body calls. -/
theorem calledNames_function (name : String) (body : List String) :
    calledNames ([name ++ "() \x7b"] ++ body ++ ["\x7d", ""]) = calledNames body := by
  have hopening : calledName? (name ++ "() \x7b") = none :=
    calledName?_of_hasMark (hasMark_append_right _ (by decide))
  have hclosing : calledNames ["\x7d", ""] = [] := by decide
  rw [calledNames_append, calledNames_append, hclosing, calledNames, List.filterMap_cons, hopening]
  simp

/-- The lines of functions define them in order. -/
theorem definedNames_functions {α : Type} {name : α → String} {lines : α → List String}
    {functions : List α} (hlines : ∀ f ∈ functions, definedNames (lines f) = [name f]) :
    definedNames (functions.flatMap lines) = functions.map name := by
  rw [definedNames_flatMap, List.map_eq_flatMap]
  exact List.flatMap_congr hlines

/-- The lines of functions call what the functions call, in order. -/
theorem calledNames_functions {α : Type} {calls lines : α → List String} {functions : List α}
    (hlines : ∀ f ∈ functions, calledNames (lines f) = calls f) :
    calledNames (functions.flatMap lines) = functions.flatMap calls := by
  rw [calledNames_flatMap]
  exact List.flatMap_congr hlines

end Tabsmith
