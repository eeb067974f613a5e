import Tabsmith.Number.Digits
import Tabsmith.Value

/-!
What the readers of document formats share: their failures, and steps that take characters off the
front of a text.
-/

namespace Tabsmith.Document

/-- Why a text is no document. -/
inductive ReadFault where
  /-- The text breaks the rules of the format. -/
  | malformed (detail : String)
  /-- A whole number has too many digits to be read. -/
  | longNumber (digits : Nat)
  /-- Lists and objects stand too deep in each other. -/
  | tooDeep (stage : String)
deriving DecidableEq, Repr, Inhabited

/-- What a step of a reader gives, or why it fails. A step that takes characters off the front of a
text gives the rest of it too. -/
abbrev Step := Except ReadFault

/-- A text that breaks the rules of the format. -/
def malformed {α : Type} (detail : String) : Step α :=
  throw (.malformed detail)

/-- The characters at the front that satisfy `p`, and the rest. -/
def takeFront (p : Char → Bool) (s : List Char) : List Char × List Char :=
  (s.takeWhile p, s.dropWhile p)

/-- The room that a reader has for lists and objects in each other. -/
def nestingRoom : Nat := 985

/-- The room that is left inside a list or an object that takes `cost` of it. -/
def roomInside (stage : String) (cost room : Nat) : Step Nat :=
  if cost ≤ room then pure (room - cost) else throw (.tooDeep stage)

/-- A whole number, unless it has too many digits. -/
def wholeNumber (d : DecimalParts) : Step Value :=
  if longestNumber < d.whole.length then throw (.longNumber d.whole.length) else pure (.int d.toInt)

/-- The character that hexadecimal digits write, unless they are those of a surrogate or beyond
the code points. -/
def scalarOfHex? (digits : List Char) : Option Char :=
  let n := natOfDigits 16 digits
  if n.isValidChar then some (Char.ofNat n) else none

end Tabsmith.Document
