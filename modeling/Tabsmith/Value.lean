import Tabsmith.Calendar
import Tabsmith.Number.Double

/-!
The values that documents are made of. Objects keep the order of their keys.
-/

namespace Tabsmith

/-- A value of a document, or of an answer to a prompt. A `moment` is a date with a time of day and
the minutes its zone is ahead of universal time, if a zone is given. -/
inductive Value where
  | null
  | bool (value : Bool)
  | int (value : Int)
  | float (value : Double)
  | text (value : String)
  | date (value : Date)
  | time (value : TimeOfDay)
  | moment (date : Date) (time : TimeOfDay) (zone : Option Int)
  | list (items : List Value)
  | object (fields : List (String × Value))
deriving Inhabited, Repr

/-- The fields of an object, in document order. -/
abbrev Fields := List (String × Value)

/-- The value of a key; `null` when the key is absent, so that the two read alike. -/
def Fields.get (fields : Fields) (key : String) : Value :=
  (fields.lookup key).getD .null

/-- No field has the key. -/
def Fields.lacks (fields : Fields) (key : String) : Bool :=
  (List.lookup key fields).isNone

/-- A field set: in place when the key is there, at the end otherwise. -/
def Fields.set (fields : Fields) (key : String) (value : Value) : Fields :=
  match fields with
  | [] => [(key, value)]
  | (k, v) :: rest => if k = key then (k, value) :: rest else (k, v) :: Fields.set rest key value

theorem Fields.lookup_set_self (fields : Fields) (key : String) (value : Value) :
    List.lookup key (fields.set key value) = some value := by
  induction fields with
  | nil => simp [Fields.set]
  | cons field rest ih =>
    obtain ⟨k, v⟩ := field
    by_cases h : k = key
    · simp [Fields.set, h]
    · rw [Fields.set, if_neg h, List.lookup_cons]
      have hne : (key == k) = false := by simpa using Ne.symm h
      simpa only [hne] using ih

theorem Fields.lookup_set_of_ne (fields : Fields) {key other : String} (h : other ≠ key)
    (value : Value) : List.lookup other (fields.set key value) = List.lookup other fields := by
  have hne : (other == key) = false := by simpa using h
  induction fields with
  | nil => simp [Fields.set, List.lookup_cons, hne]
  | cons field rest ih =>
    obtain ⟨k, v⟩ := field
    by_cases hk : k = key
    · subst hk
      simp [Fields.set, List.lookup_cons, hne]
    · rw [Fields.set, if_neg hk, List.lookup_cons, List.lookup_cons, ih]

/-- Fields listed one by one, a repeated key keeping its first place and its last value. -/
def Fields.ofList (entries : List (String × Value)) : Fields :=
  entries.foldl (fun fields entry => fields.set entry.1 entry.2) []

/-- The kinds of value that a document can be asked for; a `number` with a fraction is a `float`. -/
inductive Kind where
  | text | bool | int | float | list | object | anything
deriving DecidableEq, Repr, Inhabited

namespace Kind

/-- The word for a kind in messages. -/
def name : Kind → String
  | text => "str"
  | bool => "bool"
  | int => "int"
  | float => "float"
  | list => "list"
  | object => "dict"
  | anything => "object"

/-- The value is of the kind. A truth value is no number. -/
def holds : Kind → Value → Bool
  | anything, _ => true
  | text, .text _ => true
  | bool, .bool _ => true
  | int, .int _ => true
  | float, .float _ => true
  | list, .list _ => true
  | object, .object _ => true
  | _, _ => false

end Kind

namespace Value

/-- The word for what a value is, in messages. -/
def kindName : Value → String
  | null => "NoneType"
  | bool _ => "bool"
  | int _ => "int"
  | float _ => "float"
  | text _ => "str"
  | date _ => "date"
  | time _ => "time"
  | moment .. => "datetime"
  | list _ => "list"
  | object _ => "dict"

def isNull : Value → Bool
  | null => true
  | _ => false

/-- Nothing, falsehood, zeros and empty texts, lists and objects count as absent. -/
def isTruthy : Value → Bool
  | null => false
  | bool b => b
  | int i => i != 0
  | float x => !x.isZero
  | text s => s != ""
  | list items => !items.isEmpty
  | object fields => !fields.isEmpty
  | date _ | time _ | moment .. => true

/-- The elements of a value that can be gone through: the items of a list, the keys of an object,
the characters of a text. -/
def elements? : Value → Option (List Value)
  | list items => some items
  | object fields => some (fields.map fun field => text field.1)
  | text s => some (s.toList.map fun c => text (String.singleton c))
  | _ => none

/-- The number that a truth value or a number stands for: a whole number, or a float that equals
none. -/
def number? : Value → Option (Int ⊕ Double)
  | bool b => some (.inl (if b then 1 else 0))
  | int i => some (.inl i)
  | float x =>
    match x.toInt? with
    | some i => some (.inl i)
    | none => some (.inr x)
  | _ => none

/-- Equality of two values that are neither lists nor objects. Numbers and truth values compare by
what they stand for. -/
def sameScalar (a b : Value) : Bool :=
  match a.number?, b.number? with
  | some (.inl i), some (.inl j) => i == j
  | some (.inr x), some (.inr y) => x.same y
  | none, none =>
    match a, b with
    | null, null => true
    | text s, text t => s == t
    | date d, date e => d == e
    | time t, time u => t == u
    | moment d t z, moment e u y => d == e && t == u && z == y
    | _, _ => false
  | _, _ => false

mutual

/-- Equality of values. The order of the keys of an object does not count. -/
def same : Value → Value → Bool
  | list items, b =>
    match b with
    | list others => sameItems items others
    | _ => false
  | object fields, b =>
    match b with
    | object others => fields.length == others.length && sameFields fields others
    | _ => false
  | a, b => sameScalar a b

/-- Equality of lists, item by item. -/
def sameItems : List Value → List Value → Bool
  | [], [] => true
  | a :: items, b :: others => same a b && sameItems items others
  | _, _ => false

/-- Every field has its equal in `others`. -/
def sameFields : List (String × Value) → List (String × Value) → Bool
  | [], _ => true
  | (key, a) :: fields, others =>
    (match others.lookup key with
      | some b => same a b
      | none => false) && sameFields fields others

end

end Value

end Tabsmith
