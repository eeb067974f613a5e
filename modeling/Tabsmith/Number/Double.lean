/-!
Floating-point numbers of 64 bits, written out as a sign, a whole mantissa and a power of two, so
that reading and comparing them is arithmetic on naturals.
-/

namespace Tabsmith

/-- A finite number is `mantissa * 2 ^ exponent`, negated when it is marked so. `Double.ofRatio`
makes the mantissa as large as its 53 bits allow, down to the exponent -1074. -/
inductive Double where
  | nan
  | infinite (negative : Bool)
  | finite (negative : Bool) (mantissa : Nat) (exponent : Int)
deriving DecidableEq, Repr, Inhabited

namespace Double

/-- The quotient rounded to the nearest natural, to the even one of two as near. -/
def roundQuotient (numerator denominator : Nat) : Nat :=
  let quotient := numerator / denominator
  let rest := numerator % denominator
  if denominator < 2 * rest || (2 * rest == denominator && quotient % 2 == 1) then quotient + 1
  else quotient

/-- `numerator / (denominator * 2 ^ exponent)`, as a numerator and a denominator. -/
def scaled (numerator denominator : Nat) (exponent : Int) : Nat × Nat :=
  if exponent < 0 then (numerator * Nat.pow 2 (-exponent).toNat, denominator)
  else (numerator, denominator * Nat.pow 2 exponent.toNat)

/-- The exponent that gives the quotient a mantissa of 53 bits, or -1074 if that is greater. -/
def exponentFor (numerator denominator : Nat) : Int :=
  let guess : Int := (Nat.log2 numerator : Int) - Nat.log2 denominator - 52
  let (n, d) := scaled numerator denominator guess
  let exact := if n < d * Nat.pow 2 52 then guess - 1 else guess
  max exact (-1074)

/-- The number nearest to a quotient of naturals. -/
def ofRatio (negative : Bool) (numerator denominator : Nat) : Double :=
  if numerator = 0 then finite negative 0 (-1074)
  else
    let exponent := exponentFor numerator denominator
    let (n, d) := scaled numerator denominator exponent
    let mantissa := roundQuotient n d
    let (mantissa, exponent) :=
      if mantissa = Nat.pow 2 53 then (Nat.pow 2 52, exponent + 1) else (mantissa, exponent)
    if 971 < exponent then infinite negative else finite negative mantissa exponent

/-- The number nearest to `digits * 10 ^ exponent`. Beyond the range of the type the power of ten
is not computed. -/
def ofDecimal (negative : Bool) (digits : Nat) (exponent : Int) : Double :=
  if digits = 0 then ofRatio negative 0 1
  else
    let places : Int := (Nat.toDigits 10 digits).length + exponent
    if 310 < places then infinite negative
    else if places < -330 then ofRatio negative 0 1
    else if exponent < 0 then ofRatio negative digits (Nat.pow 10 (-exponent).toNat)
    else ofRatio negative (digits * Nat.pow 10 exponent.toNat) 1

/-- The whole number that a float equals, if it equals one. -/
def toInt? : Double → Option Int
  | nan | infinite _ => none
  | finite negative mantissa exponent =>
    let magnitude? : Option Nat :=
      if 0 ≤ exponent then some (mantissa * Nat.pow 2 exponent.toNat)
      else
        let unit := Nat.pow 2 (-exponent).toNat
        if mantissa % unit = 0 then some (mantissa / unit) else none
    magnitude?.map fun magnitude => if negative then -(magnitude : Int) else magnitude

/-- The whole number that is left of a float without its fraction, if the float is finite. -/
def truncated? : Double → Option Int
  | nan | infinite _ => none
  | finite negative mantissa exponent =>
    let magnitude := mantissa * Nat.pow 2 exponent.toNat / Nat.pow 2 (-exponent).toNat
    some (if negative then -(magnitude : Int) else magnitude)

/-- The float nearest to a whole number, unless that is out of range. -/
def ofInt? (i : Int) : Option Double :=
  match ofRatio (i < 0) i.natAbs 1 with
  | finite negative mantissa exponent => some (finite negative mantissa exponent)
  | _ => none

/-- Both zeros are zero. -/
def isZero : Double → Bool
  | finite _ mantissa _ => mantissa == 0
  | _ => false

/-- Equality of numbers: the two zeros are equal, and what is no number equals nothing. -/
def same : Double → Double → Bool
  | nan, _ | _, nan => false
  | infinite a, infinite b => a == b
  | finite a m e, finite b n f =>
    (m == 0 && n == 0) || (a == b && m == n && e == f)
  | _, _ => false

end Double

end Tabsmith
