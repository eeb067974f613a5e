import Tabsmith.Number.Double

/-!
Numbers written in digits.
-/

namespace Tabsmith

/-- The most digits with which a whole number can be read or written. -/
def longestNumber : Nat := 4300

/-- The value of a digit, or of a letter that serves as one beyond nine. -/
def digitValue (c : Char) : Nat :=
  if c.isDigit then c.toNat - '0'.toNat
  else if 'a' ≤ c && c ≤ 'z' then c.toNat - 'a'.toNat + 10
  else c.toNat - 'A'.toNat + 10

/-- The number that digits to a base write. -/
def natOfDigits (base : Nat) (digits : List Char) : Nat :=
  digits.foldl (fun n c => n * base + digitValue c) 0

/-- A digit to base sixteen. -/
def isHexDigit (c : Char) : Bool :=
  c.isDigit || ('a' ≤ c && c ≤ 'f') || ('A' ≤ c && c ≤ 'F')

/-- The parts of a number in decimal digits. A number without fraction and power is whole. -/
structure DecimalParts where
  negative : Bool := false
  whole : List Char
  fraction : List Char := []
  /-- The power of ten: whether it is negative, and its digits. -/
  power : Option (Bool × List Char) := none
  isWhole : Bool
deriving Repr, Inhabited

namespace DecimalParts

/-- A power of ten written in digits. -/
def powerValue (power : Option (Bool × List Char)) : Int :=
  match power with
  | none => 0
  | some (negative, digits) =>
    let n : Int := natOfDigits 10 digits
    if negative then -n else n

/-- The whole number that the parts before the fraction write. -/
def toInt (d : DecimalParts) : Int :=
  let n : Int := natOfDigits 10 d.whole
  if d.negative then -n else n

/-- The float nearest to the number. -/
def toDouble (d : DecimalParts) : Double :=
  Double.ofDecimal d.negative (natOfDigits 10 (d.whole ++ d.fraction))
    (powerValue d.power - d.fraction.length)

end DecimalParts

end Tabsmith
