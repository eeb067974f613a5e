import Tabsmith.Value
import Tabsmith.Number.Digits
import Tabsmith.Number.Shortest
import Tabsmith.Text.Literal

/-!
The text of a value: its literal form, which tells texts from everything else, and its plain form,
in which a text stands for itself. A value with a whole number of too many digits has neither; where
one can occur, `isUnwritable` is asked first.
-/

namespace Tabsmith

/-- The literal form of a day. -/
def Date.literal (d : Date) : String :=
  s!"datetime.date({d.year}, {d.month}, {d.day})"

/-- The parts of a time of day, without a zero second or microsecond at the end. -/
def TimeOfDay.parts (t : TimeOfDay) : List Nat :=
  [t.hour, t.minute] ++
    (if t.micro ≠ 0 then [t.second, t.micro] else if t.second ≠ 0 then [t.second] else [])

/-- Numbers with commas between them. -/
def commaList (numbers : List Nat) : String :=
  ", ".intercalate (numbers.map toString)

/-- The literal form of a zone. A zone behind universal time is a day less than none, and the rest
of that day. -/
def zoneLiteral (minutes : Int) : String :=
  if minutes = 0 then "datetime.timezone.utc"
  else if 0 < minutes then
    s!"datetime.timezone(datetime.timedelta(seconds={minutes * 60}))"
  else
    s!"datetime.timezone(datetime.timedelta(days=-1, seconds={86400 + minutes * 60}))"

/-- The literal form of a moment. -/
def momentLiteral (d : Date) (t : TimeOfDay) (zone : Option Int) : String :=
  "datetime.datetime(" ++ commaList ([d.year, d.month, d.day] ++ t.parts) ++
    (match zone with
      | some minutes => ", tzinfo=" ++ zoneLiteral minutes
      | none => "") ++ ")"

/-- The text of a moment, with `separator` between the date and the time. -/
def momentText (separator : String) (d : Date) (t : TimeOfDay) (zone : Option Int) : String :=
  d.text ++ separator ++ t.text ++ (zone.map zoneText).getD ""

namespace Value

mutual

/-- The literal form of a value. -/
def literal : Value → String
  | null => "None"
  | bool b => if b then "True" else "False"
  | int i => toString i
  | float x => x.text
  | text s => Text.literal s
  | date d => d.literal
  | time t => "datetime.time(" ++ commaList t.parts ++ ")"
  | moment d t zone => momentLiteral d t zone
  | list items => "[" ++ ", ".intercalate (literals items) ++ "]"
  | object fields => "\x7b" ++ ", ".intercalate (fieldLiterals fields) ++ "\x7d"

/-- The literal forms of items. -/
def literals : List Value → List String
  | [] => []
  | item :: rest => literal item :: literals rest

/-- The literal forms of fields. -/
def fieldLiterals : List (String × Value) → List String
  | [] => []
  | (key, value) :: rest => (Text.literal key ++ ": " ++ literal value) :: fieldLiterals rest

end

mutual

/-- The value is or holds a whole number with too many digits to be written. -/
def isUnwritable : Value → Bool
  | int i => Nat.pow 10 longestNumber ≤ i.natAbs
  | list items => anyUnwritable items
  | object fields => anyFieldUnwritable fields
  | _ => false

/-- One of the items is or holds such a number. -/
def anyUnwritable : List Value → Bool
  | [] => false
  | item :: rest => isUnwritable item || anyUnwritable rest

/-- The value of one of the fields is or holds such a number. -/
def anyFieldUnwritable : List (String × Value) → Bool
  | [] => false
  | (_, value) :: rest => isUnwritable value || anyFieldUnwritable rest

end

/-- The plain form of a value. -/
def display : Value → String
  | text s => s
  | date d => d.text
  | time t => t.text
  | moment d t zone => momentText " " d t zone
  | value => value.literal

end Value

end Tabsmith
