/-!
Lone surrogates. A document may write half of a character: a unit of sixteen bits that is a
character only together with a second one. A text holds such a half as a character of private use,
`Text.ofSurrogate`, which no document is expected to write as itself. Halves print as escapes and
have no bytes.
-/

namespace Tabsmith.Text

/-- The distance of the characters that stand for surrogates from these. -/
def surrogateShift : Nat := 0xF0000

/-- The character that stands for a lone surrogate. -/
def ofSurrogate (unit : Nat) : Char :=
  Char.ofNat (surrogateShift + unit)

/-- The surrogate that a character stands for, if it stands for one. -/
def surrogate? (c : Char) : Option Nat :=
  if surrogateShift + 0xD800 ≤ c.toNat && c.toNat < surrogateShift + 0xE000 then
    some (c.toNat - surrogateShift)
  else none

/-- The code point of the character that a valid code point gives. -/
theorem toNat_ofNat_of_isValidChar {n : Nat} (h : n.isValidChar) : (Char.ofNat n).toNat = n := by
  rw [Char.ofNat, dif_pos h]
  rfl

theorem isValidChar_shifted {unit : Nat} (low : 0xD800 ≤ unit) (high : unit < 0xE000) :
    (surrogateShift + unit).isValidChar := by
  refine Or.inr ⟨?_, ?_⟩ <;> simp only [surrogateShift] <;> omega

/-- Every surrogate is read back from the character that stands for it. -/
theorem surrogate?_ofSurrogate {unit : Nat} (low : 0xD800 ≤ unit) (high : unit < 0xE000) :
    surrogate? (ofSurrogate unit) = some unit := by
  have hcode : (ofSurrogate unit).toNat = surrogateShift + unit := by
    rw [ofSurrogate, toNat_ofNat_of_isValidChar (isValidChar_shifted low high)]
  unfold surrogate?
  rw [hcode, if_pos (by simp only [Bool.and_eq_true, decide_eq_true_eq]; omega)]
  exact congrArg some (Nat.add_sub_cancel_left _ _)

/-- A run of lone surrogates in a text: the first of them, and the indices of the first and the
last one. -/
structure SurrogateRun where
  unit : Nat
  first : Nat
  last : Nat
deriving DecidableEq, Repr, Inhabited

/-- The first run of lone surrogates from `index` on whose first one is not among the `spared`. -/
def surrogateRunFrom? (spared : Nat → Bool) (index : Nat) : List Char → Option SurrogateRun
  | [] => none
  | c :: rest =>
    match (surrogate? c).filter fun unit => !spared unit with
    | some unit =>
      some ⟨unit, index, index + (rest.takeWhile fun d => (surrogate? d).isSome).length⟩
    | none => surrogateRunFrom? spared (index + 1) rest

/-- The first run of lone surrogates of a text. A text without one has bytes. -/
def surrogateRun? (s : String) : Option SurrogateRun :=
  surrogateRunFrom? (fun _ => false) 0 s.toList

/-- The unit stands for a single byte in the name of a file. -/
def isByteUnit (unit : Nat) : Bool :=
  0xDC80 ≤ unit && unit < 0xDD00

/-- The first run of lone surrogates in the text of a path that leaves the path without bytes. -/
def pathRun? (path : String) : Option SurrogateRun :=
  surrogateRunFrom? isByteUnit 0 path.toList

end Tabsmith.Text
