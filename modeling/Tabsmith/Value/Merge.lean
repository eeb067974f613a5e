import Tabsmith.Value

/-!
Merging objects. A key of the second object replaces that of the first, but two objects are merged
in turn and two lists are joined. The keys of the first object keep their order and the new ones
follow.
-/

namespace Tabsmith

namespace Value

mutual

/-- What a key is bound to when the first object binds it to `old` and the second to `new`. -/
def mergeInto (old : Value) : Value → Value
  | object fields =>
    match old with
    | object known => object (mergeFields known fields)
    | _ => object fields
  | list items =>
    match old with
    | list known => list (known ++ items)
    | _ => list items
  | new => new

/-- The fields of the second object merged one after the other into those of the first. -/
def mergeFields (known : Fields) : List (String × Value) → Fields
  | [] => known
  | (key, new) :: rest =>
    let merged :=
      match known.lookup key with
      | some old => mergeInto old new
      | none => new
    mergeFields (Fields.set known key merged) rest

end

end Value

/-- The second object merged over the first. -/
def Fields.merge (first second : Fields) : Fields :=
  Value.mergeFields first second

end Tabsmith
