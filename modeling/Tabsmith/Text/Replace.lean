/-!
Replacing every occurrence of a text inside another, from left to right and without overlaps.
-/

namespace Tabsmith.Text

/-- The rest of `s` after `lead`, if `s` starts with it. -/
def afterLead? : (lead s : List Char) → Option (List Char)
  | [], s => some s
  | _ :: _, [] => none
  | l :: lead, c :: s => if l = c then afterLead? lead s else none

/-- `skip` characters belong to an occurrence already replaced and are passed over. -/
def replaceFrom (old new : List Char) (skip : Nat) : List Char → List Char
  | [] => []
  | c :: rest =>
    match skip with
    | left + 1 => replaceFrom old new left rest
    | 0 =>
      if (afterLead? old (c :: rest)).isSome then new ++ replaceFrom old new (old.length - 1) rest
      else c :: replaceFrom old new 0 rest

/-- Every occurrence of `old`, which is not empty, replaced by `new`. -/
def replace (s old new : String) : String :=
  String.ofList (replaceFrom old.toList new.toList 0 s.toList)

/-- Every occurrence of a character replaced by another one. -/
def replaceChar (s : String) (old new : Char) : String :=
  String.ofList (s.toList.map fun c => if c = old then new else c)

end Tabsmith.Text
