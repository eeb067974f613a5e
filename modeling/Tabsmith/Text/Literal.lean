import Tabsmith.Text.Printable
import Tabsmith.Text.Surrogate

/-!
The literal form of a text, as messages show it: between quotes, with escapes for what cannot be
printed. Apostrophes are the quotes unless the text holds an apostrophe and no quotation mark.
-/

namespace Tabsmith.Text

/-- The digits of `n` to base sixteen, in small letters, at least `width` of them. -/
def hexDigits (width n : Nat) : List Char :=
  let digits := Nat.toDigits 16 n
  List.replicate (width - digits.length) '0' ++ digits

/-- The escape of a code point: two, four or eight hexadecimal digits, the fewest that hold it. -/
def escapePoint (n : Nat) : List Char :=
  if n < 0x100 then '\\' :: 'x' :: hexDigits 2 n
  else if n < 0x10000 then '\\' :: 'u' :: hexDigits 4 n
  else '\\' :: 'U' :: hexDigits 8 n

/-- The escape of a character, or of the lone surrogate that it stands for. -/
def escapeOf (c : Char) : List Char :=
  escapePoint ((surrogate? c).getD c.toNat)

/-- A character inside a literal that stands between two of `quote`. -/
def literalChar (quote c : Char) : List Char :=
  if c = quote || c = '\\' then ['\\', c]
  else if c = '\t' then ['\\', 't']
  else if c = '\n' then ['\\', 'n']
  else if c = '\r' then ['\\', 'r']
  else if c.toNat < 32 || c.toNat = 127 then escapeOf c
  else if c.toNat < 127 || isPrintable c then [c]
  else escapeOf c

/-- The quote of a literal. -/
def quoteFor (s : List Char) : Char :=
  if s.contains '\'' && !s.contains '"' then '"' else '\''

/-- The literal form of a text. -/
def literal (s : String) : String :=
  let quote := quoteFor s.toList
  String.ofList (quote :: s.toList.flatMap (literalChar quote) ++ [quote])

end Tabsmith.Text
