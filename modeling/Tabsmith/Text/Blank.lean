/-!
Blank characters and line ends, and what is cut at them: the words of a text, its lines, and the
text without its outer blanks. The functions on lists of characters are the definitions; those on
`String` apply them.
-/

namespace Tabsmith.Text

/-- The characters that separate words: the spaces of every script, tabs, line ends, and the four
information separators. A zero-width space is none of them. -/
def isBlank (c : Char) : Bool :=
  (9 ≤ c.toNat && c.toNat ≤ 13) || (28 ≤ c.toNat && c.toNat ≤ 32) || c.toNat == 0x85 ||
    c.toNat == 0xA0 || c.toNat == 0x1680 || (0x2000 ≤ c.toNat && c.toNat ≤ 0x200A) ||
    c.toNat == 0x2028 || c.toNat == 0x2029 || c.toNat == 0x202F || c.toNat == 0x205F ||
    c.toNat == 0x3000

/-- The characters that end a line. -/
def isLineEnd (c : Char) : Bool :=
  (10 ≤ c.toNat && c.toNat ≤ 13) || (28 ≤ c.toNat && c.toNat ≤ 30) || c.toNat == 0x85 ||
    c.toNat == 0x2028 || c.toNat == 0x2029

/-- The pieces between the characters that satisfy `p`: one more than there are such characters. -/
def pieces (p : Char → Bool) : List Char → List (List Char)
  | [] => [[]]
  | c :: rest =>
    if p c then [] :: pieces p rest
    else match pieces p rest with
      | [] => [[c]]
      | piece :: others => (c :: piece) :: others

/-- The words of a text: its pieces between blanks, the empty ones left out. -/
def wordsOf (s : List Char) : List (List Char) :=
  (pieces isBlank s).filter fun piece => !piece.isEmpty

/-- The lines of a text without their ends. A carriage return and a line feed make one end, and an
end that closes the text opens no further line. -/
def linesOf : List Char → List (List Char)
  | [] => []
  | '\r' :: '\n' :: rest => [] :: linesOf rest
  | c :: rest =>
    if isLineEnd c then [] :: linesOf rest
    else match linesOf rest with
      | [] => [[c]]
      | line :: others => (c :: line) :: others

/-- A text without the characters at its end that satisfy `p`. -/
def dropTail (p : Char → Bool) (s : List Char) : List Char :=
  (s.reverse.dropWhile p).reverse

/-- The words of a text. -/
def words (s : String) : List String :=
  (wordsOf s.toList).map String.ofList

/-- The lines of a text. -/
def lines (s : String) : List String :=
  (linesOf s.toList).map String.ofList

/-- A text on one line: its words with one space between them. -/
def flatten (s : String) : String :=
  " ".intercalate (words s)

/-- A text without the blanks at its end. -/
def trimEnd (s : String) : String :=
  String.ofList (dropTail isBlank s.toList)

/-- A text that holds nothing but blanks, or nothing at all. -/
def isVoid (s : String) : Bool :=
  s.toList.all isBlank

end Tabsmith.Text
