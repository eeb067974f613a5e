import Tabsmith.Document.Reader
import Tabsmith.Text.Surrogate

/-!
The reader of JSON documents. Beyond the format it takes `NaN`, `Infinity` and `-Infinity`, and of
fields with one key the last one counts. A surrogate without its partner is held as
`Text.ofSurrogate` has it.
-/

namespace Tabsmith.Document.Json

def isSpace (c : Char) : Bool :=
  c == ' ' || c == '\t' || c == '\n' || c == '\r'

/-- The text from its first character that is no space. -/
def skipSpace (s : List Char) : List Char :=
  s.dropWhile isSpace

/-- The unit that four hexadecimal digits at the front write. -/
def unit (s : List Char) : Step (Nat × List Char) :=
  let digits := s.take 4
  if digits.length = 4 && digits.all isHexDigit then pure (natOfDigits 16 digits, s.drop 4)
  else malformed "invalid escape"

/-- The character of an escape by units: one unit, or a high and a low surrogate. -/
def unitEscape (s : List Char) : Step (Char × List Char) := do
  let (high, rest) ← unit s
  if 0xD800 ≤ high && high < 0xDC00 then
    match rest with
    | '\\' :: 'u' :: tail =>
      match unit tail with
      | .ok (low, after) =>
        if 0xDC00 ≤ low && low < 0xE000 then
          pure (Char.ofNat (0x10000 + (high - 0xD800) * 0x400 + (low - 0xDC00)), after)
        else pure (Text.ofSurrogate high, rest)
      | .error fault => throw fault
    | _ => pure (Text.ofSurrogate high, rest)
  else if 0xDC00 ≤ high && high < 0xE000 then pure (Text.ofSurrogate high, rest)
  else pure (Char.ofNat high, rest)

/-- The character of an escape, after its backslash. -/
def escape : List Char → Step (Char × List Char)
  | '"' :: rest => pure ('"', rest)
  | '\\' :: rest => pure ('\\', rest)
  | '/' :: rest => pure ('/', rest)
  | 'b' :: rest => pure (Char.ofNat 8, rest)
  | 'f' :: rest => pure (Char.ofNat 12, rest)
  | 'n' :: rest => pure ('\n', rest)
  | 'r' :: rest => pure ('\r', rest)
  | 't' :: rest => pure ('\t', rest)
  | 'u' :: rest => unitEscape rest
  | _ => malformed "invalid escape"

/-- The rest of a text value after its quotation mark; `read` holds its characters so far, the last
one first, and `fuel` is greater than the number of those left. -/
def textFrom : (fuel : Nat) → (read : List Char) → List Char → Step (String × List Char)
  | 0, _, _ => malformed "unterminated string"
  | fuel + 1, read, s =>
    match s with
    | [] => malformed "unterminated string"
    | '"' :: rest => pure (String.ofList read.reverse, rest)
    | '\\' :: rest => do
      let (c, rest) ← escape rest
      textFrom fuel (c :: read) rest
    | c :: rest =>
      if c.toNat < 32 then malformed "control character in a string"
      else textFrom fuel (c :: read) rest

/-- The power of ten at the front, if there is one with digits. -/
def power (s : List Char) : Option (Bool × List Char) × List Char :=
  match s with
  | c :: rest =>
    if c = 'e' || c = 'E' then
      let (negative, tail) :=
        match rest with
        | '-' :: tail => (true, tail)
        | '+' :: tail => (false, tail)
        | tail => (false, tail)
      let (digits, after) := takeFront Char.isDigit tail
      if digits.isEmpty then (none, s) else (some (negative, digits), after)
    else (none, s)
  | [] => (none, s)

/-- The fraction at the front, if there is one with digits. -/
def fraction (s : List Char) : List Char × List Char :=
  match s with
  | '.' :: rest =>
    let (digits, after) := takeFront Char.isDigit rest
    if digits.isEmpty then ([], s) else (digits, after)
  | _ => ([], s)

/-- The digits of a whole number: a zero alone, or digits that start with another one. -/
def whole (s : List Char) : List Char × List Char :=
  match s with
  | '0' :: rest => (['0'], rest)
  | _ => takeFront Char.isDigit s

/-- A number without its sign. -/
def number (negative : Bool) (s : List Char) : Step (Value × List Char) := do
  let (digits, afterWhole) := whole s
  if digits.isEmpty then malformed "expected a value"
  else
    let (fraction, afterFraction) := fraction afterWhole
    let (power, rest) := power afterFraction
    let parts : DecimalParts :=
      { negative := negative, whole := digits, fraction := fraction, power := power,
        isWhole := fraction.isEmpty && power.isNone }
    if parts.isWhole then
      let value ← wholeNumber parts
      pure (value, rest)
    else pure (.float parts.toDouble, rest)

/-- A value that is neither text, list nor object. -/
def scalar (s : List Char) : Step (Value × List Char) :=
  match s with
  | 'n' :: 'u' :: 'l' :: 'l' :: rest => pure (.null, rest)
  | 't' :: 'r' :: 'u' :: 'e' :: rest => pure (.bool true, rest)
  | 'f' :: 'a' :: 'l' :: 's' :: 'e' :: rest => pure (.bool false, rest)
  | 'N' :: 'a' :: 'N' :: rest => pure (.float .nan, rest)
  | 'I' :: 'n' :: 'f' :: 'i' :: 'n' :: 'i' :: 't' :: 'y' :: rest =>
    pure (.float (.infinite false), rest)
  | '-' :: 'I' :: 'n' :: 'f' :: 'i' :: 'n' :: 'i' :: 't' :: 'y' :: rest =>
    pure (.float (.infinite true), rest)
  | '-' :: rest => number true rest
  | s => number false s

mutual

/-- A value at the front of a text. `bound` is greater than the length of the document. -/
def value (bound : Nat) : (room fuel : Nat) → List Char → Step (Value × List Char)
  | _, 0, _ => malformed "unterminated value"
  | room, fuel + 1, s =>
    match s with
    | '"' :: rest => do
      let (text, rest) ← textFrom bound [] rest
      pure (.text text, rest)
    | '[' :: rest => do
      let room ← roomInside " while decoding a JSON array from a unicode string" 1 room
      match skipSpace rest with
      | ']' :: after => pure (.list [], after)
      | inner => items bound room fuel [] inner
    | '\x7b' :: rest => do
      let room ← roomInside " while decoding a JSON object from a unicode string" 1 room
      match skipSpace rest with
      | '\x7d' :: after => pure (.object [], after)
      | inner => fields bound room fuel [] inner
    | s => scalar s

/-- The rest of a list from one of its items on; `read` holds the items before, the last one
first. -/
def items (bound : Nat) : (room fuel : Nat) → (read : List Value) → List Char →
    Step (Value × List Char)
  | _, 0, _, _ => malformed "unterminated list"
  | room, fuel + 1, read, s => do
    let (item, rest) ← value bound room fuel s
    match skipSpace rest with
    | ',' :: after => items bound room fuel (item :: read) (skipSpace after)
    | ']' :: after => pure (.list (item :: read).reverse, after)
    | _ => malformed "expected a comma or the end of the list"

/-- The rest of an object from one of its fields on; `read` holds the fields before, the last one
first. -/
def fields (bound : Nat) : (room fuel : Nat) → (read : List (String × Value)) → List Char →
    Step (Value × List Char)
  | _, 0, _, _ => malformed "unterminated object"
  | room, fuel + 1, read, s =>
    match s with
    | '"' :: rest => do
      let (key, rest) ← textFrom bound [] rest
      match skipSpace rest with
      | ':' :: after =>
        let (item, rest) ← value bound room fuel (skipSpace after)
        match skipSpace rest with
        | ',' :: after => fields bound room fuel ((key, item) :: read) (skipSpace after)
        | '\x7d' :: after => pure (.object (Fields.ofList ((key, item) :: read).reverse), after)
        | _ => malformed "expected a comma or the end of the object"
      | _ => malformed "expected a colon"
    | _ => malformed "expected a key"

end

/-- The document that a text is. A list that is opened takes two steps to go into. -/
def read (text : String) : Step Value := do
  let s := text.toList
  let bound := s.length + 1
  let (document, rest) ← value bound nestingRoom (2 * bound) (skipSpace s)
  if (skipSpace rest).isEmpty then pure document else malformed "text after the document"

end Tabsmith.Document.Json
