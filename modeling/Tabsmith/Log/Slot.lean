import Tabsmith.Number.Rounded
import Tabsmith.Value.Display

/-!
Slots of a message: the places where it shows a value. A slot says in which form it shows the value,
in how many columns, and with how many digits.
-/

namespace Tabsmith

/-- A number that a slot is given: written in it, or one of the values of the message. -/
inductive Measure where
  | written (n : Nat)
  | taken
deriving DecidableEq, Repr, Inhabited

/-- A slot. Without a key it shows the next value. -/
structure Slot where
  key : Option String := none
  flags : List Char := []
  width : Option Measure := none
  precision : Option Measure := none
  letter : Char
deriving DecidableEq, Repr, Inhabited

/-- What a slot shows of a value: a sign and the mark of its base in front, and the rest. -/
structure Figure where
  negative : Bool := false
  mark : List Char := []
  body : List Char
  isNumber : Bool := true
deriving DecidableEq, Repr, Inhabited

namespace Slot

/-- The beginning of a text up to the bracket that closes `depth` open ones, and what follows that
bracket. -/
def keyFrom (depth : Nat) : List Char → Option (List Char × List Char)
  | [] => none
  | c :: rest =>
    if c = ')' && depth = 0 then some ([], rest)
    else
      let depth := if c = '(' then depth + 1 else if c = ')' then depth - 1 else depth
      (keyFrom depth rest).map fun (key, after) => (c :: key, after)

/-- A text without the measure that it starts with, and that measure. -/
def measureFrom (s : List Char) : Option Measure × List Char :=
  match s with
  | '*' :: rest => (some .taken, rest)
  | _ =>
    let digits := s.takeWhile Char.isDigit
    (if digits.isEmpty then none else some (.written (natOfDigits 10 digits)),
      s.dropWhile Char.isDigit)

/-- The characters that change how a slot is laid out. -/
def flagCharacters : List Char := ['-', '+', ' ', '#', '0']

/-- The slot that follows a percent sign, and the text behind it. A letter for the length of a
number is skipped. -/
def read? (s : List Char) : Option (Slot × List Char) := do
  let (key, s) ← match s with
    | '(' :: rest => (keyFrom 0 rest).map fun (key, after) => (some (String.ofList key), after)
    | _ => some (none, s)
  let flags := s.takeWhile flagCharacters.contains
  let (width, s) := measureFrom (s.dropWhile flagCharacters.contains)
  let (precision, s) := match s with
    | '.' :: rest =>
      let (precision, rest) := measureFrom rest
      (some (precision.getD (.written 0)), rest)
    | _ => (none, s)
  let s := match s with
    | c :: rest => if c = 'h' || c = 'l' || c = 'L' then rest else s
    | [] => s
  match s with
  | letter :: rest => some (⟨key, flags, width, precision, letter⟩, rest)
  | [] => none

/-- The first `precision` characters of a text, or all of them. -/
def textFigure (precision : Option Nat) (text : List Char) : Figure :=
  { body := (precision.map text.take).getD text, isNumber := false }

/-- A text with escapes for all that is not ASCII. -/
def asciiText (text : String) : List Char :=
  text.toList.flatMap fun c => if c.toNat < 128 then [c] else Text.escapeOf c

/-- The whole number that a value stands for: truth values count as one and zero. -/
def index? : Value → Option Int
  | .bool b => some (if b then 1 else 0)
  | .int i => some i
  | _ => none

/-- The whole number that is left of a value without its fraction. -/
def whole? : Value → Option Int
  | .float x => x.truncated?
  | value => index? value

/-- The float that a value is, or that is nearest to it. -/
def float? : Value → Option Double
  | .float x => some x
  | value => (index? value).bind Double.ofInt?

/-- A whole number to a base, with at least `precision` digits. -/
def wholeFigure (base : Nat) (mark : List Char) (precision : Option Nat) (i : Int) : Figure :=
  let digits := Nat.toDigits base i.natAbs
  { negative := i < 0
    mark := mark
    body := List.replicate (precision.getD 0 - digits.length) '0' ++ digits }

/-- A figure in capital letters. -/
def capital (figure : Figure) : Figure :=
  { figure with mark := figure.mark.map Char.toUpper, body := figure.body.map Char.toUpper }

/-- A float in a layout, with six digits unless another number is given. -/
def floatFigure (layout : Layout) (isFull : Bool) (precision : Option Nat) (x : Double) : Figure :=
  let (negative, body) := x.rounded layout isFull (precision.getD 6)
  { negative := negative, body := body }

/-- The character of a number, or the one character of a text. -/
def character? : Value → Option Char
  | .text s =>
    match s.toList with
    | [c] => some c
    | _ => none
  | value =>
    match index? value with
    | some i =>
      if i < 0 || 0x10FFFF < i then none
      else if 0xD800 ≤ i && i < 0xE000 then some (Text.ofSurrogate i.toNat)
      else some (Char.ofNat i.toNat)
    | none => none

/-- What a slot shows of a value, if it can show such a value. -/
def figure? (slot : Slot) (precision : Option Nat) (value : Value) : Option Figure :=
  let isFull := slot.flags.contains '#'
  let mark (letter : Char) : List Char := if isFull then ['0', letter] else []
  let shown (text : List Char) : Option Figure :=
    if value.isUnwritable then none else some (textFigure precision text)
  let float (layout : Layout) : Option Figure :=
    (float? value).map (floatFigure layout isFull precision)
  match slot.letter with
  | 's' => shown value.display.toList
  | 'r' => shown value.literal.toList
  | 'a' => shown (asciiText value.literal)
  | 'd' | 'i' | 'u' =>
    if value.isUnwritable then none else (whole? value).map (wholeFigure 10 [] precision)
  | 'o' => (index? value).map (wholeFigure 8 (mark 'o') precision)
  | 'x' => (index? value).map (wholeFigure 16 (mark 'x') precision)
  | 'X' => (index? value).map fun i => capital (wholeFigure 16 (mark 'x') precision i)
  | 'f' => float .places
  | 'e' => float .power
  | 'g' => float .shorter
  | 'F' => (float .places).map capital
  | 'E' => (float .power).map capital
  | 'G' => (float .shorter).map capital
  | 'c' => (character? value).map fun c => { body := [c], isNumber := false }
  | _ => none

/-- The sign of a figure. Numbers that are not negative have one if a flag asks for it. -/
def sign (slot : Slot) (figure : Figure) : List Char :=
  if figure.negative then ['-']
  else if !figure.isNumber then []
  else if slot.flags.contains '+' then ['+']
  else if slot.flags.contains ' ' then [' ']
  else []

/-- A figure in a number of columns: to their left, or to their right, with zeros in the columns
before the digits of a number if a flag asks for it. -/
def layOut (slot : Slot) (width : Nat) (isLeft : Bool) (figure : Figure) : List Char :=
  let front := slot.sign figure ++ figure.mark
  let room := width - front.length - figure.body.length
  if isLeft then front ++ figure.body ++ List.replicate room ' '
  else if figure.isNumber && slot.flags.contains '0' then
    front ++ List.replicate room '0' ++ figure.body
  else List.replicate room ' ' ++ front ++ figure.body

/-- The number of a measure, and the values that are left. -/
def measured? (measure : Option Measure) (values : List Value) :
    Option (Option Int × List Value) :=
  match measure, values with
  | none, _ => some (none, values)
  | some (.written n), _ => some (some n, values)
  | some .taken, value :: rest => (index? value).map fun i => (some i, rest)
  | some .taken, [] => none

/-- A slot filled, and the values that are left. In a width below zero, a figure stands to the
left. -/
def fill? (slot : Slot) (values : List Value) : Option (List Char × List Value) := do
  let (width, values) ← measured? slot.width values
  let (precision, values) ← measured? slot.precision values
  match values with
  | value :: rest =>
    let width := width.getD 0
    let isLeft := slot.flags.contains '-' || width < 0
    let figure ← slot.figure? (precision.map Int.toNat) value
    some (slot.layOut width.natAbs isLeft figure, rest)
  | [] => none

end Slot

end Tabsmith
