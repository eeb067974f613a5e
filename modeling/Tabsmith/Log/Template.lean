import Tabsmith.Log.Slot

/-!
Templates of messages: texts with slots, each after a percent sign, that values are put into in
order, or by their keys.
-/

namespace Tabsmith.Template

/-- A piece of a template: a character that stands for itself, or a slot. -/
inductive Piece where
  | plain (c : Char)
  | slot (s : Slot)
deriving Repr, Inhabited

/-- The pieces of a template; `fuel` bounds their number. A percent sign that stands for itself is
written twice. -/
def piecesFrom? : (fuel : Nat) → List Char → Option (List Piece)
  | 0, _ | _, [] => some []
  | fuel + 1, '%' :: '%' :: rest => (piecesFrom? fuel rest).map (.plain '%' :: ·)
  | fuel + 1, '%' :: rest => do
    let (slot, after) ← Slot.read? rest
    return .slot slot :: (← piecesFrom? fuel after)
  | fuel + 1, c :: rest => (piecesFrom? fuel rest).map (.plain c :: ·)

/-- The pieces of a template, unless it ends within a slot. -/
def pieces? (template : String) : Option (List Piece) :=
  piecesFrom? template.length template.toList

/-- Pieces filled. A slot with a key looks its value up and leaves no other; without keyed values,
every value has to be used. -/
def fillPieces? (keyed : Option Fields) : List Piece → List Value → Option (List Char)
  | [], values => if values.isEmpty || keyed.isSome then some [] else none
  | .plain c :: rest, values => (fillPieces? keyed rest values).map (c :: ·)
  | .slot slot :: rest, values => do
    let values ← match slot.key with
      | none => some values
      | some key => (keyed.bind (List.lookup key)).map ([·])
    let (text, values) ← slot.fill? values
    return text ++ (← fillPieces? keyed rest values)

/-- A template filled with values, if they fit. Without any values it is a plain text; a single
object that is not empty gives its fields by their keys. -/
def fill? (template : String) (values : List Value) : Option String :=
  match values with
  | [] => some template
  | [.object (field :: fields)] => do
    return String.ofList (← fillPieces? (some (field :: fields)) (← pieces? template) values)
  | _ => do return String.ofList (← fillPieces? none (← pieces? template) values)

end Tabsmith.Template
