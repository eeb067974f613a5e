import Tabsmith.Number.Double

/-!
The decimal text of a float: of the decimals that round to it, those with the fewest digits, and
of these the nearest one.
-/

namespace Tabsmith

namespace Double

/-- `value * 10 ^ (-place)` for a quotient `value`, as a numerator and a denominator. -/
def shifted (numerator denominator : Nat) (place : Int) : Nat × Nat :=
  if place < 0 then (numerator * Nat.pow 10 (-place).toNat, denominator)
  else (numerator, denominator * Nat.pow 10 place.toNat)

/-- The place of the first digit of a positive quotient: the quotient is at least ten to the
place, and less than ten times that. -/
def leadingPlace (numerator denominator : Nat) : Int :=
  let guess : Int :=
    ((Nat.toDigits 10 numerator).length : Int) - (Nat.toDigits 10 denominator).length
  let (n, d) := shifted numerator denominator guess
  if n < d then guess - 1 else guess

/-- The quarters of the unit of `mantissa` that lie between a float and the bounds of the decimals
that round to it. Below a power of two the lower bound is nearer. -/
def margins (mantissa : Nat) (exponent : Int) : Nat × Nat :=
  if mantissa = Nat.pow 2 52 && -1074 < exponent then (1, 2) else (2, 2)

/-- The decimal `candidate * 10 ^ place` rounds to `mantissa * 2 ^ exponent`: it lies between the
bounds, or on one of them if the mantissa is even. -/
def readsBack (mantissa : Nat) (exponent : Int) (candidate : Nat) (place : Int) : Bool :=
  let (below, above) := margins mantissa exponent
  let (n, d) := shifted candidate 1 (-place)
  let (n, d) := scaled (4 * n) d exponent
  let low := (4 * mantissa - below) * d
  let high := (4 * mantissa + above) * d
  if mantissa % 2 = 0 then low ≤ n && n ≤ high else low < n && n < high

/-- The multiple of ten to the place nearest to a quotient that reads back, if one does. -/
def onGrid (mantissa : Nat) (exponent : Int) (numerator denominator : Nat) (place : Int) :
    Option Nat :=
  let (n, d) := shifted numerator denominator place
  let down := n / d
  let rest := n % d
  let lowFits := down ≠ 0 && readsBack mantissa exponent down place
  let highFits := readsBack mantissa exponent (down + 1) place
  if lowFits && highFits then
    some (if 2 * rest < d || (2 * rest == d && down % 2 == 0) then down else down + 1)
  else if lowFits then some down
  else if highFits then some (down + 1)
  else none

/-- The shortest decimal over `fuel` grids, from the coarsest: its digits as a number, and the
place of the last of them. -/
def shortestFrom (mantissa : Nat) (exponent : Int) (numerator denominator : Nat) :
    (fuel : Nat) → (place : Int) → Nat × Int
  | 0, place =>
    let (n, d) := shifted numerator denominator place
    (n / d, place)
  | fuel + 1, place =>
    match onGrid mantissa exponent numerator denominator place with
    | some digits => (digits, place)
    | none => shortestFrom mantissa exponent numerator denominator fuel (place - 1)

/-- The shortest decimal of a positive number. Seventeen digits always suffice. -/
def shortest (mantissa : Nat) (exponent : Int) : Nat × Int :=
  let (n, d) := scaled mantissa 1 (-exponent)
  shortestFrom mantissa exponent n d 18 (leadingPlace n d)

/-- The digits of a decimal without the zeros at its end, and the place of the first digit. -/
def significant (digits : Nat) (place : Int) : List Char × Int :=
  let all := Nat.toDigits 10 digits
  ((all.reverse.dropWhile (· == '0')).reverse, place + all.length - 1)

/-- Powers of ten have a sign and at least two digits. -/
def exponentText (place : Int) : List Char :=
  let digits := Nat.toDigits 10 place.natAbs
  (if place < 0 then '-' else '+') :: (List.replicate (2 - digits.length) '0' ++ digits)

/-- Digits written out when the first of them stands between ten to the -4 and ten to the 15, with
a fraction in every case; otherwise with a power of ten and without an empty fraction. -/
def layOut (digits : List Char) (place : Int) : List Char :=
  if place < -4 || 16 ≤ place then
    digits.take 1 ++ (if digits.length = 1 then [] else '.' :: digits.drop 1) ++
      'e' :: exponentText place
  else if place < 0 then
    '0' :: '.' :: (List.replicate (-place - 1).toNat '0' ++ digits)
  else
    let whole := place.toNat + 1
    let padded := digits ++ List.replicate (whole - digits.length) '0'
    padded.take whole ++ '.' :: (if digits.length ≤ whole then ['0'] else digits.drop whole)

/-- The text of a float. -/
def text : Double → String
  | nan => "nan"
  | infinite negative => if negative then "-inf" else "inf"
  | finite negative mantissa exponent =>
    let unsigned :=
      if mantissa = 0 then ['0', '.', '0']
      else
        let (digits, place) := shortest mantissa exponent
        let (digits, place) := significant digits place
        layOut digits place
    String.ofList (if negative then '-' :: unsigned else unsigned)

end Double

end Tabsmith
