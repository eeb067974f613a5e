import Tabsmith.Document.Reader

/-!
The reader of TOML documents. A document is read statement by statement into a table; which tables
may still be declared or added to is kept beside it.
-/

namespace Tabsmith.Document.Toml

/-- A key with its dots: the names from the table it is used in downwards. -/
abbrev Key := List String

def isSpace (c : Char) : Bool :=
  c == ' ' || c == '\t'

def isSpaceOrLineEnd (c : Char) : Bool :=
  isSpace c || c == '\n'

/-- The text from its first character that is no space. -/
def skipSpace (s : List Char) : List Char :=
  s.dropWhile isSpace

/-- The control characters that no text value may hold, the line end among them. -/
def isControl (c : Char) : Bool :=
  (c.toNat < 32 && c != '\t') || c.toNat == 127

def isBareKeyChar (c : Char) : Bool :=
  c.isAlphanum || c == '-' || c == '_'

/-- The rest of a text after `lead`, if it starts with that. -/
def after? (lead : String) (s : List Char) : Option (List Char) :=
  if lead.toList.isPrefixOf s then some (s.drop lead.length) else none

/-- A comment at the front is passed over, up to its line end. -/
def skipComment (s : List Char) : Step (List Char) :=
  match s with
  | '#' :: rest =>
    let (comment, after) := takeFront (· ≠ '\n') rest
    if comment.any isControl then malformed "control character in a comment" else pure after
  | s => pure s

/-- Spaces, line ends and comments between the items of a list are passed over. -/
def skipFill : (fuel : Nat) → List Char → Step (List Char)
  | 0, s => pure s
  | fuel + 1, s =>
    match s.dropWhile isSpaceOrLineEnd with
    | '#' :: rest => do skipFill fuel (← skipComment ('#' :: rest))
    | rest => pure rest

/-! ## Text values -/

/-- The text before the first `mark`, and what follows the mark. -/
def untilMark? (mark : List Char) : List Char → Option (List Char × List Char)
  | [] => none
  | c :: rest =>
    if mark.isPrefixOf (c :: rest) then some ([], (c :: rest).drop mark.length)
    else (untilMark? mark rest).map fun (text, after) => (c :: text, after)

/-- A text value on one line that is taken as it is, after its opening apostrophe. -/
def verbatim (s : List Char) : Step (String × List Char) :=
  match untilMark? ['\''] s with
  | some (text, rest) =>
    if text.any isControl then malformed "control character in a string"
    else pure (String.ofList text, rest)
  | none => malformed "unterminated string"

/-- The character that hexadecimal digits at the front write. -/
def codePoint (digits : Nat) (s : List Char) : Step (List Char × List Char) :=
  let written := s.take digits
  if written.length = digits && written.all isHexDigit then
    match scalarOfHex? written with
    | some c => pure ([c], s.drop digits)
    | none => malformed "escape of no character"
  else malformed "invalid escape"

/-- What an escape stands for, after its backslash. In a text of several lines a backslash at the
end of a line takes back the line end and the blanks after it. -/
def escape (manyLines : Bool) (s : List Char) : Step (List Char × List Char) :=
  match s with
  | [] => malformed "unterminated string"
  | c :: rest =>
    if manyLines && isSpaceOrLineEnd c then
      if c = '\n' then pure ([], rest.dropWhile isSpaceOrLineEnd)
      else match skipSpace rest with
        | [] => pure ([], [])
        | '\n' :: after => pure ([], after.dropWhile isSpaceOrLineEnd)
        | _ => malformed "invalid escape"
    else if c = 'u' then codePoint 4 rest
    else if c = 'U' then codePoint 8 rest
    else if c = 'b' then pure ([Char.ofNat 8], rest)
    else if c = 't' then pure (['\t'], rest)
    else if c = 'n' then pure (['\n'], rest)
    else if c = 'f' then pure ([Char.ofNat 12], rest)
    else if c = 'r' then pure (['\r'], rest)
    else if c = '"' then pure (['"'], rest)
    else if c = '\\' then pure (['\\'], rest)
    else malformed "invalid escape"

/-- The rest of a text value with escapes; `read` holds its characters so far, the last one
first. -/
def escapedFrom (manyLines : Bool) : (fuel : Nat) → (read : List Char) → List Char →
    Step (List Char × List Char)
  | 0, _, _ => malformed "unterminated string"
  | fuel + 1, read, s =>
    match s with
    | [] => malformed "unterminated string"
    | '"' :: rest =>
      if !manyLines then pure (read.reverse, rest)
      else match rest with
        | '"' :: '"' :: after => pure (read.reverse, after)
        | _ => escapedFrom manyLines fuel ('"' :: read) rest
    | '\\' :: rest => do
      let (text, rest) ← escape manyLines rest
      escapedFrom manyLines fuel (text.reverse ++ read) rest
    | c :: rest =>
      if isControl c && !(manyLines && c = '\n') then malformed "control character in a string"
      else escapedFrom manyLines fuel (c :: read) rest

/-- A text value with escapes, after its opening quotation mark or marks. Here and below, `bound` is
greater than the length of the document. -/
def escaped (bound : Nat) (manyLines : Bool) (s : List Char) : Step (List Char × List Char) :=
  escapedFrom manyLines bound [] s

/-- A line end that opens a text of several lines does not count. -/
def skipFirstLineEnd (s : List Char) : List Char :=
  match s with
  | '\n' :: rest => rest
  | s => s

/-- Up to two more marks directly after the closing ones belong to the text. -/
def withExtraMarks (mark : Char) (text rest : List Char) : String × List Char :=
  let extra := (rest.take 2).takeWhile (· = mark)
  (String.ofList (text ++ extra), rest.drop extra.length)

/-- A text value of several lines that is taken as it is, after its opening apostrophes. -/
def verbatimLines (s : List Char) : Step (String × List Char) :=
  match untilMark? ['\'', '\'', '\''] (skipFirstLineEnd s) with
  | some (text, rest) =>
    if text.any fun c => isControl c && c ≠ '\n' then malformed "control character in a string"
    else pure (withExtraMarks '\'' text rest)
  | none => malformed "unterminated string"

/-- A text value of several lines with escapes, after its opening quotation marks. -/
def escapedLines (bound : Nat) (s : List Char) : Step (String × List Char) := do
  let (text, rest) ← escaped bound true (skipFirstLineEnd s)
  pure (withExtraMarks '"' text rest)

/-- A text value on one line with escapes, after its opening quotation mark. -/
def escapedLine (bound : Nat) (s : List Char) : Step (String × List Char) := do
  let (text, rest) ← escaped bound false s
  pure (String.ofList text, rest)

/-! ## Keys -/

/-- One name of a key. -/
def keyPart (bound : Nat) (s : List Char) : Step (String × List Char) :=
  match s with
  | '\'' :: rest => verbatim rest
  | '"' :: rest => escapedLine bound rest
  | s =>
    let (name, rest) := takeFront isBareKeyChar s
    if name.isEmpty then malformed "expected a key" else pure (String.ofList name, rest)

/-- The rest of a key after its first names. -/
def keyFrom (bound : Nat) : (fuel : Nat) → (read : List String) → List Char → Step (Key × List Char)
  | 0, _, _ => malformed "expected a key"
  | fuel + 1, read, s => do
    let (part, rest) ← keyPart bound s
    match skipSpace rest with
    | '.' :: after => keyFrom bound fuel (part :: read) (skipSpace after)
    | rest => pure ((part :: read).reverse, rest)

/-- A key, with the spaces after it. -/
def key (bound : Nat) (s : List Char) : Step (Key × List Char) :=
  keyFrom bound bound [] s

/-! ## Dates, times and numbers -/

/-- Two digits at the front, as a number. -/
def twoDigits? (s : List Char) : Option (Nat × List Char) :=
  match s with
  | a :: b :: rest =>
    if a.isDigit && b.isDigit then some (natOfDigits 10 [a, b], rest) else none
  | _ => none

/-- Two digits after `mark`, as a number. -/
def twoDigitsAfter? (mark : Char) (s : List Char) : Option (Nat × List Char) :=
  match s with
  | c :: rest => if c = mark then twoDigits? rest else none
  | [] => none

/-- A year of four digits, a month and a day, which need not exist. -/
def date? (s : List Char) : Option (Date × List Char) := do
  let year := s.take 4
  if year.length ≠ 4 || !year.all Char.isDigit then none
  else
    let (month, rest) ← twoDigitsAfter? '-' (s.drop 4)
    let (day, rest) ← twoDigitsAfter? '-' rest
    if month = 0 || 12 < month || day = 0 || 31 < day then none
    else some (⟨natOfDigits 10 year, month, day⟩, rest)

/-- The microseconds of a fraction of a second, of which six digits count. -/
def microOf (digits : List Char) : Nat :=
  let counted := digits.take 6
  natOfDigits 10 (counted ++ List.replicate (6 - counted.length) '0')

/-- A time of day at the front. -/
def time? (s : List Char) : Option (TimeOfDay × List Char) := do
  let (hour, rest) ← twoDigits? s
  let (minute, rest) ← twoDigitsAfter? ':' rest
  let (second, rest) ← twoDigitsAfter? ':' rest
  if 23 < hour || 59 < minute || 59 < second then none
  else match rest with
    | '.' :: tail =>
      let (digits, after) := takeFront Char.isDigit tail
      if digits.isEmpty then some (⟨hour, minute, second, 0⟩, rest)
      else some (⟨hour, minute, second, microOf digits⟩, after)
    | _ => some (⟨hour, minute, second, 0⟩, rest)

/-- A zone at the front, as minutes ahead of universal time. -/
def zone? (s : List Char) : Option (Int × List Char) :=
  match s with
  | c :: rest =>
    if c = 'Z' || c = 'z' then some (0, rest)
    else if c = '+' || c = '-' then do
      let (hour, rest) ← twoDigits? rest
      let (minute, rest) ← twoDigitsAfter? ':' rest
      if 23 < hour || 59 < minute then none
      else
        let ahead : Int := hour * 60 + minute
        some (if c = '-' then -ahead else ahead, rest)
    else none
  | [] => none

/-- A time of day after a date, with its zone. -/
def timeAfterDate? (s : List Char) : Option ((TimeOfDay × Option Int) × List Char) :=
  match s with
  | c :: tail =>
    if c = 'T' || c = 't' || c = ' ' then do
      let (time, rest) ← time? tail
      match zone? rest with
      | some (zone, after) => some ((time, some zone), after)
      | none => some ((time, none), rest)
    else none
  | [] => none

/-- A date, or a date with a time of day. The date has to exist. -/
def dated (date : Date) (rest : List Char) : Step (Value × List Char) :=
  if !date.exists? then malformed "no such date"
  else match timeAfterDate? rest with
    | some ((time, zone), after) => pure (.moment date time zone, after)
    | none => pure (.date date, rest)

/-- Digits at the front, an underscore allowed before each but the first; they are given without
the underscores. -/
def digitRun (isDigit : Char → Bool) : List Char → List Char × List Char
  | [] => ([], [])
  | c :: rest => if isDigit c then (c :: (more rest).1, (more rest).2) else ([], c :: rest)
where
  /-- The digits after the first one. -/
  more : List Char → List Char × List Char
    | [] => ([], [])
    | [c] => if isDigit c then ([c], []) else ([], [c])
    | c :: d :: rest =>
      if isDigit c then (c :: (more (d :: rest)).1, (more (d :: rest)).2)
      else if c = '_' && isDigit d then (d :: (more rest).1, (more rest).2)
      else ([], c :: d :: rest)

/-- A whole number to base sixteen, eight or two, after its leading zero. -/
def based? (s : List Char) : Option (Value × List Char) :=
  match s with
  | 'x' :: rest => ofRun 16 (digitRun isHexDigit rest)
  | 'o' :: rest => ofRun 8 (digitRun (fun c => '0' ≤ c && c ≤ '7') rest)
  | 'b' :: rest => ofRun 2 (digitRun (fun c => c = '0' || c = '1') rest)
  | _ => none
where
  ofRun (base : Nat) : List Char × List Char → Option (Value × List Char)
    | ([], _) => none
    | (digits, rest) => some (.int (natOfDigits base digits), rest)

/-- The fraction at the front, if there is one. -/
def fraction (s : List Char) : List Char × List Char :=
  match s with
  | '.' :: rest =>
    let (digits, after) := digitRun Char.isDigit rest
    if digits.isEmpty then ([], s) else (digits, after)
  | _ => ([], s)

/-- The power of ten at the front, if there is one. -/
def power (s : List Char) : Option (Bool × List Char) × List Char :=
  match s with
  | c :: rest =>
    if c = 'e' || c = 'E' then
      let (negative, tail) :=
        match rest with
        | '-' :: tail => (true, tail)
        | '+' :: tail => (false, tail)
        | tail => (false, tail)
      let (digits, after) := digitRun Char.isDigit tail
      if digits.isEmpty then (none, s) else (some (negative, digits), after)
    else (none, s)
  | [] => (none, s)

/-- The digits of a whole number: a zero alone, or digits that start with another one. -/
def whole (s : List Char) : List Char × List Char :=
  match s with
  | '0' :: rest => (['0'], rest)
  | _ => digitRun Char.isDigit s

/-- A number in decimal digits, after its sign. -/
def decimal (negative : Bool) (s : List Char) : Step (Value × List Char) := do
  let (digits, afterWhole) := whole s
  if digits.isEmpty then malformed "expected a value"
  else
    let (fraction, afterFraction) := fraction afterWhole
    let (power, rest) := power afterFraction
    let parts : DecimalParts :=
      { negative := negative, whole := digits, fraction := fraction, power := power,
        isWhole := fraction.isEmpty && power.isNone }
    if parts.isWhole then
      let value ← wholeNumber parts
      pure (value, rest)
    else pure (.float parts.toDouble, rest)

/-- A number after its sign, or one of the floats that are no numbers. -/
def signed (negative : Bool) (s : List Char) : Step (Value × List Char) :=
  match s with
  | 'i' :: 'n' :: 'f' :: rest => pure (.float (.infinite negative), rest)
  | 'n' :: 'a' :: 'n' :: rest => pure (.float .nan, rest)
  | s => decimal negative s

/-- A date, a time or a number. -/
def scalar (s : List Char) : Step (Value × List Char) :=
  match date? s with
  | some (date, rest) => dated date rest
  | none =>
    match time? s with
    | some (time, rest) => pure (.time time, rest)
    | none =>
      match s with
      | '+' :: rest => signed false rest
      | '-' :: rest => signed true rest
      | '0' :: rest =>
        match based? rest with
        | some (value, after) => pure (value, after)
        | none => signed false s
      | s => signed false s

/-! ## Tables -/

/-- The table at the end of `path`, changed by `change`. Tables on the way are made when they are
missing; where `intoLists` allows it, the way leads on through the last item of a list. -/
def changeAt (intoLists : Bool) (change : Fields → Option Fields) :
    (path : Key) → Fields → Option Fields
  | [], table => change table
  | name :: path, table =>
    match List.lookup name table with
    | none => (changeAt intoLists change path []).map fun below => table.set name (.object below)
    | some (.object below) =>
      (changeAt intoLists change path below).map fun below => table.set name (.object below)
    | some (.list items) =>
      if intoLists then
        match items.getLast? with
        | some (.object below) =>
          (changeAt intoLists change path below).map fun below =>
            table.set name (.list (items.dropLast ++ [.object below]))
        | _ => none
      else none
    | some _ => none

/-- A new name bound in a table; a name cannot be bound twice. -/
def bind (name : String) (value : Value) (table : Fields) : Option Fields :=
  if (List.lookup name table).isSome then none else some (table.set name value)

/-- A new table at the end of the list of tables that `name` is bound to. -/
def extend (name : String) (table : Fields) : Option Fields :=
  match List.lookup name table with
  | none => some (table.set name (.list [.object []]))
  | some (.list items) => some (table.set name (.list (items ++ [.object []])))
  | some _ => none

/-- A key without its last name, and that name. -/
def split (key : Key) : Key × String :=
  (key.dropLast, key.getLast?.getD "")

/-- The value is a table or a list. -/
def isNest : Value → Bool
  | .list _ | .object _ => true
  | _ => false

/-- One of `closed` is `key` or leads to it. -/
def isClosed (closed : List Key) (key : Key) : Bool :=
  closed.any fun start => start.isPrefixOf key

mutual

/-- A value at the front of a text. -/
def value (bound : Nat) : (room fuel : Nat) → List Char → Step (Value × List Char)
  | _, 0, _ => malformed "unterminated value"
  | room, fuel + 1, s =>
    match s with
    | '"' :: '"' :: '"' :: rest => do
      let (text, rest) ← escapedLines bound rest
      pure (.text text, rest)
    | '"' :: rest => do
      let (text, rest) ← escapedLine bound rest
      pure (.text text, rest)
    | '\'' :: '\'' :: '\'' :: rest => do
      let (text, rest) ← verbatimLines rest
      pure (.text text, rest)
    | '\'' :: rest => do
      let (text, rest) ← verbatim rest
      pure (.text text, rest)
    | 't' :: 'r' :: 'u' :: 'e' :: rest => pure (.bool true, rest)
    | 'f' :: 'a' :: 'l' :: 's' :: 'e' :: rest => pure (.bool false, rest)
    | '[' :: rest => do
      let room ← roomInside "" 2 room
      match ← skipFill bound rest with
      | ']' :: after => pure (.list [], after)
      | inner => items bound room fuel [] inner
    | '\x7b' :: rest => do
      let room ← roomInside "" 3 room
      match skipSpace rest with
      | '\x7d' :: after => pure (.object [], after)
      | inner => inlineTable bound room fuel [] [] inner
    | s => scalar s

/-- The rest of a list from one of its items on; `read` holds the items before, the last one
first. -/
def items (bound : Nat) : (room fuel : Nat) → (read : List Value) → List Char →
    Step (Value × List Char)
  | _, 0, _, _ => malformed "unterminated list"
  | room, fuel + 1, read, s => do
    let (item, rest) ← value bound room fuel s
    match ← skipFill bound rest with
    | ']' :: after => pure (.list (item :: read).reverse, after)
    | ',' :: after =>
      match ← skipFill bound after with
      | ']' :: after => pure (.list (item :: read).reverse, after)
      | inner => items bound room fuel (item :: read) inner
    | _ => malformed "expected a comma or the end of the list"

/-- The rest of a table on one line from one of its keys on; the keys in `closed` can no longer be
added to. -/
def inlineTable (bound : Nat) : (room fuel : Nat) → (closed : List Key) → (table : Fields) →
    List Char → Step (Value × List Char)
  | _, 0, _, _, _ => malformed "unterminated table"
  | room, fuel + 1, closed, table, s => do
    let (key, item, rest) ← binding bound room fuel s
    if isClosed closed key then malformed "the table is complete"
    else
      let (above, name) := split key
      match changeAt false (bind name item) above table with
      | none => malformed "the key is bound already"
      | some table =>
        match skipSpace rest with
        | '\x7d' :: after => pure (.object table, after)
        | ',' :: after =>
          inlineTable bound room fuel (if isNest item then key :: closed else closed) table
            (skipSpace after)
        | _ => malformed "expected a comma or the end of the table"

/-- A key with its value. -/
def binding (bound : Nat) : (room fuel : Nat) → List Char → Step (Key × Value × List Char)
  | _, 0, _ => malformed "unterminated key"
  | room, fuel + 1, s => do
    let (key, rest) ← key bound s
    match rest with
    | '=' :: after =>
      let (item, rest) ← value bound room fuel (skipSpace after)
      pure (key, item, rest)
    | _ => malformed "expected an equals sign"

end

/-! ## Statements -/

/-- A document read in part. `header` leads to the table that keys are bound in. No header may name
a table in `declared`, and nothing may be added below one in `closed`; the tables in `pending` are
declared from the next header on. -/
structure Draft where
  table : Fields := []
  header : Key := []
  declared : List Key := []
  closed : List Key := []
  pending : List Key := []
deriving Inhabited

namespace Draft

/-- Gives the table of a changed draft, where the change is possible. -/
def change (d : Draft) (intoPath : Key) (f : Fields → Option Fields) : Step Draft :=
  match changeAt true f intoPath d.table with
  | some table => pure { d with table := table }
  | none => malformed "the key is bound already"

/-- The tables that were made on the way to dotted keys are declared. -/
def settle (d : Draft) : Draft :=
  { d with declared := d.pending ++ d.declared, pending := [] }

/-- The header of a table. -/
def openTable (d : Draft) (key : Key) : Step Draft := do
  if d.declared.contains key || isClosed d.closed key then malformed "the table is declared already"
  else
    let d ← { d with declared := key :: d.declared }.change key some
    pure { d with header := key }

/-- The header of the next table of a list. What was declared below the one before is free again. -/
def openItem (d : Draft) (key : Key) : Step Draft := do
  if isClosed d.closed key then malformed "the list is complete"
  else
    let d := { d with
      declared := key :: d.declared.filter fun other => !key.isPrefixOf other
      closed := d.closed.filter fun other => !key.isPrefixOf other }
    let (above, name) := split key
    let d ← d.change above (extend name)
    pure { d with header := key }

/-- The tables on the way to a dotted key, below the header. -/
def onTheWay (d : Draft) (key : Key) : List Key :=
  (List.range (key.length - 1)).map fun n => d.header ++ key.take (n + 1)

/-- A key bound to a value. -/
def bindKey (d : Draft) (key : Key) (item : Value) : Step Draft := do
  let way := d.onTheWay key
  let (above, name) := split key
  if way.any d.declared.contains then malformed "the table is declared already"
  else if isClosed d.closed (d.header ++ above) then malformed "the table is complete"
  else
    let d := { d with pending := way ++ d.pending }
    let d ← d.change (d.header ++ above) (bind name item)
    pure (if isNest item then { d with closed := (d.header ++ key) :: d.closed } else d)

end Draft

/-- The draft after the statement at the front of a text, and the rest of the text. -/
def statement (bound : Nat) (d : Draft) (s : List Char) : Step (Draft × List Char) :=
  match s with
  | '[' :: '[' :: rest => do
    let (key, rest) ← key bound (skipSpace rest)
    let d ← d.settle.openItem key
    match rest with
    | ']' :: ']' :: after => pure (d, after)
    | _ => malformed "expected the end of the header"
  | '[' :: rest => do
    let (key, rest) ← key bound (skipSpace rest)
    let d ← d.settle.openTable key
    match rest with
    | ']' :: after => pure (d, after)
    | _ => malformed "expected the end of the header"
  | '#' :: _ => pure (d, s)
  | s => do
    let (key, item, rest) ← binding bound nestingRoom (2 * bound) s
    let d ← d.bindKey key item
    pure (d, rest)

/-- The draft after all statements of a text. -/
def statements (bound : Nat) : (fuel : Nat) → Draft → List Char → Step Draft
  | 0, d, _ => pure d
  | fuel + 1, d, s =>
    match skipSpace s with
    | [] => pure d
    | '\n' :: rest => statements bound fuel d rest
    | s => do
      let (d, rest) ← statement bound d s
      match ← skipComment (skipSpace rest) with
      | [] => pure d
      | '\n' :: rest => statements bound fuel d rest
      | _ => malformed "expected the end of the line"

/-- A text with a line feed for every carriage return with a line feed. -/
def joinLineEnds : List Char → List Char
  | '\r' :: '\n' :: rest => '\n' :: joinLineEnds rest
  | c :: rest => c :: joinLineEnds rest
  | [] => []

/-- The document that a text is. -/
def read (text : String) : Step Value := do
  let s := joinLineEnds text.toList
  let bound := s.length + 2
  let d ← statements bound bound {} s
  pure (.object d.table)

end Tabsmith.Document.Toml
