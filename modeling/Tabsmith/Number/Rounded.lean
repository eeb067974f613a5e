import Tabsmith.Number.Shortest

/-!
The decimal text of a float that is rounded to a number of digits, a half to the even digit: with a
number of digits behind the point, with a power of ten, or with whichever of the two is shorter.
-/

namespace Tabsmith

/-- How a rounded number is written. -/
inductive Layout where
  /-- With that many digits behind the point. -/
  | places
  /-- With one digit before the point, that many behind it, and a power of ten. -/
  | power
  /-- With that many digits in all and without zeros at the end, and a power of ten only where the
  number is far from one. -/
  | shorter
deriving DecidableEq, Repr, Inhabited

namespace Double

/-- Digits with a point before the last `places` of them. A point that nothing follows is written
only if it is kept. -/
def withPoint (keepsPoint : Bool) (places digits : Nat) : List Char :=
  let all := Nat.toDigits 10 digits
  let padded := List.replicate (places + 1 - all.length) '0' ++ all
  let whole := padded.length - places
  padded.take whole ++
    (if places = 0 then (if keepsPoint then ['.'] else []) else '.' :: padded.drop whole)

/-- A quotient rounded to `count` digits: the digits as a number, and the place of the first. -/
def roundedTo (count numerator denominator : Nat) : Nat × Int :=
  if numerator = 0 then (0, 0)
  else
    let first := leadingPlace numerator denominator
    let (n, d) := shifted numerator denominator (first - count + 1)
    let digits := roundQuotient n d
    if digits = Nat.pow 10 count then (Nat.pow 10 (count - 1), first + 1) else (digits, first)

/-- A decimal without the zeros that end its fraction, and without a point that nothing follows. -/
def trimmed (decimal : List Char) : List Char :=
  if decimal.contains '.' then
    let kept := decimal.reverse.dropWhile (· == '0')
    (if kept.head? = some '.' then kept.drop 1 else kept).reverse
  else decimal

/-- A quotient in the layout `Layout.shorter`. -/
def shorterText (isFull : Bool) (count numerator denominator : Nat) : List Char :=
  let (digits, first) := roundedTo count numerator denominator
  let finish := if isFull then id else trimmed
  if first < -4 || (count : Int) ≤ first then
    finish (withPoint isFull (count - 1) digits) ++ 'e' :: exponentText first
  else finish (withPoint isFull (count - 1 - first).toNat digits)

/-- A quotient in a layout. A full text keeps its point and the zeros at its end. -/
def quotientText (layout : Layout) (isFull : Bool) (precision numerator denominator : Nat) :
    List Char :=
  match layout with
  | .places =>
    withPoint isFull precision
      (roundQuotient (numerator * Nat.pow 10 precision) denominator)
  | .power =>
    let (digits, first) := roundedTo (precision + 1) numerator denominator
    withPoint isFull precision digits ++ 'e' :: exponentText first
  | .shorter => shorterText isFull (max 1 precision) numerator denominator

/-- Whether a float is below zero, and its rounded text without the sign. -/
def rounded (layout : Layout) (isFull : Bool) (precision : Nat) : Double → Bool × List Char
  | nan => (false, ['n', 'a', 'n'])
  | infinite negative => (negative, ['i', 'n', 'f'])
  | finite negative mantissa exponent =>
    let (n, d) := scaled mantissa 1 (-exponent)
    (negative, quotientText layout isFull precision n d)

end Double

end Tabsmith
