import Tabsmith.Grammar.Problem
import Tabsmith.Text.Blank
import Tabsmith.Text.Similarity

/-!
Grammars of documents and the check of a document against one. A grammar gives every kind of node
the rules of its fields; a rule refers to the kinds of the nodes below by name, so that nodes may
nest in themselves.
-/

namespace Tabsmith

/-- A condition on a value beyond its kind. -/
inductive Condition where
  | none
  /-- A text that is not blank. -/
  | filled
  /-- A text or a list whose members are texts without a space, none of them empty. -/
  | tokens
  /-- A list of texts and numbers. -/
  | texts
deriving DecidableEq, Repr, Inhabited

/-- The rule of one field. `children` is the kind of node that an object value is, `items` the kind
of node that each element of a list value is. -/
structure Rule (κ : Type) where
  name : String
  kinds : List Kind := [.text]
  required : Bool := false
  choices : Option (List Value) := Option.none
  condition : Condition := .none
  children : Option κ := Option.none
  items : Option κ := Option.none
  uniqueNames : Bool := false

/-- The fields of each kind of node, and what a kind demands of its fields together. -/
structure Grammar (κ : Type) where
  rules : κ → List (Rule κ)
  demand : κ → Fields → List (String × Cause) := fun _ _ => []

namespace Condition

/-- A short flag without its dash: a text that is not empty and has no space. -/
def isToken : Value → Bool
  | .text s => s ≠ "" && !s.contains ' '
  | _ => false

/-- A text, a number or a truth value. -/
def isTextual : Value → Bool
  | .text _ | .int _ | .float _ | .bool _ => true
  | _ => false

/-- What a text, or each item of a list, has against being read as a list of tokens. -/
def members : Value → List Value
  | .list items => items
  | .text s => [.text s]
  | _ => []

/-- The ways in which a value misses a condition. -/
def causes : Condition → Value → List Cause
  | none, _ => []
  | filled, .text s => if Text.isVoid s then [.blank] else []
  | filled, _ => []
  | tokens, value => ((members value).filter fun v => !isToken v).map .flag
  | texts, .list items => (items.filter fun v => !isTextual v).map .item
  | texts, _ => []

end Condition

namespace Rule

variable {κ : Type}

/-- Why a value that is there is refused as a whole, if it is. -/
def refusal? (rule : Rule κ) (value : Value) : Option Cause :=
  if !rule.kinds.any (·.holds value) then some (.kind rule.kinds value)
  else match rule.choices with
    | some choices =>
      if choices.any (·.same value) then Option.none else some (.choice value choices)
    | Option.none => Option.none

end Rule

theorem Fields.sizeOf_lt_of_lookup {fields : Fields} {key : String} {value : Value}
    (h : List.lookup key fields = some value) : sizeOf value < sizeOf fields := by
  induction fields with
  | nil => simp at h
  | cons field rest ih =>
    obtain ⟨k, v⟩ := field
    rw [List.lookup_cons] at h
    split at h
    · cases h
      simp only [List.cons.sizeOf_spec, Prod.mk.sizeOf_spec]
      omega
    · have := ih h
      simp only [List.cons.sizeOf_spec]
      omega

/-- The name of a node, when it has one that is a text. -/
def nodeName? (node : Fields) : Option String :=
  match node.get "name" with
  | .text s => some s
  | _ => none

/-- How a path names a node of a list: by the name of the node, or by its index. -/
def nodeLabel (node : Fields) (index : Nat) : String :=
  match nodeName? node with
  | some name => if name = "" then toString index else name
  | none => toString index

namespace Grammar

variable {κ : Type}

/-- The keys of a node that its kind does not have, in document order. -/
def unknownKeys (g : Grammar κ) (kind : κ) (location : String) (node : Fields) : List Warning :=
  let known := (g.rules kind).map (·.name)
  (node.filter fun field => !known.contains field.1).map fun field =>
    ⟨location, field.1, Text.closest? field.1 known⟩

/-- What a kind demands of the fields of a node together. -/
def demands (g : Grammar κ) (kind : κ) (location : String) (node : Fields) : List Problem :=
  (g.demand kind node).map fun (field, cause) => ⟨location, field, cause⟩

/-- A value that can be a key. Lists and objects cannot. -/
def isKey : Value → Bool
  | .list _ | .object _ => false
  | _ => true

/-- A value all of whose elements can be keys, so that it can be compared with keys. -/
def isComparable (value : Value) : Bool :=
  (value.elements?.getD [.list []]).all isKey

/-- The report on the elements of a value, taken for keys of a kind that has none. -/
def keyReport (location : String) (value : Value) : Report :=
  match value.elements? with
  | none => [.halt .noElements]
  | some keys => keys.map fun key =>
      if isComparable key then .warning ⟨location, key.display, none⟩ else .halt .noElements

/-- The report on the elements of a value that is no list, where nodes are expected. -/
def strangerReport (field location : String) (value : Value) : Report :=
  match value.elements? with
  | none => [.halt .noElements]
  | some elements => elements.mapIdx fun index element =>
      .problem ⟨location, s!"{field}[{index}]", .element element⟩

mutual

/-- The check of a value as a node: its fields in the order of the rules, each with the nodes below
it, then what the kind demands of them together. The unknown keys of a node are reported after those
of the nodes below it. -/
def check (g : Grammar κ) (kind : κ) (location : String) : Value → Report
  | .object node =>
    (g.rules kind).flatMap (fun rule =>
      match h : List.lookup rule.name node with
      | none | some .null =>
        Report.ofProblems (if rule.required then [⟨location, rule.name, .missing⟩] else [])
      | some value =>
        match rule.refusal? value with
        | some cause => Report.ofProblems [⟨location, rule.name, cause⟩]
        | none =>
          Report.ofProblems
              ((rule.condition.causes value).map fun cause => ⟨location, rule.name, cause⟩) ++
            (match rule.children with
              | some below => check g below s!"{location}.{rule.name}" value
              | none => []) ++
            (match rule.items, value, h with
              | some below, .list items, _h =>
                checkItems g below rule.name rule.uniqueNames location 0 [] items
              | some _, value, _ => strangerReport rule.name location value
              | none, _, _ => [])) ++
      Report.ofProblems (g.demands kind location node) ++
      (g.unknownKeys kind location node).map .warning
  | value =>
    if (g.rules kind).isEmpty then keyReport location value else [.halt .noFields]
termination_by value => sizeOf value
decreasing_by
  · have := Fields.sizeOf_lt_of_lookup h
    simp
    omega
  · have := Fields.sizeOf_lt_of_lookup _h
    simp at this ⊢
    omega

/-- The check of the elements of a list from `index` on, where `seen` holds the names of the nodes
before them. -/
def checkItems (g : Grammar κ) (kind : κ) (field : String) (unique : Bool) (location : String)
    (index : Nat) (seen : List String) : List Value → Report
  | [] => []
  | .object node :: rest =>
    check g kind s!"{location}.{field}[{nodeLabel node index}]" (.object node) ++
      Report.ofProblems
        (match nodeName? node with
          | some name =>
            if unique && seen.contains name then [⟨location, field, .duplicate name⟩] else []
          | none => []) ++
      checkItems g kind field unique location (index + 1) ((nodeName? node).toList ++ seen) rest
  | value :: rest =>
    Report.ofProblems [⟨location, s!"{field}[{index}]", .element value⟩] ++
      checkItems g kind field unique location (index + 1) seen rest
termination_by items => sizeOf items

end

end Grammar

end Tabsmith
