import Tabsmith.Grammar.Program
import Tabsmith.Note

/-!
The check of a document as work that goes on node by node. It hands back the problems; the warnings go
two ways: each one is noted in the log as its key is come upon, and all warnings of a node are gathered
for the caller when the node is done. What comes of it is what the report of the check says.
-/

namespace Tabsmith

/-- The note on a warning of the grammar. -/
def Warning.note (warning : Warning) : Note :=
  ⟨.warning, warning.text, .main⟩

/-- What an inspection leaves behind: the warnings gathered from all nodes so far, and the notes it
took. -/
structure Gathered where
  warnings : List Warning := []
  notes : List Note := []
deriving DecidableEq, Repr, Inhabited

/-- Work that inspects nodes. It ends early where a value cannot be looked at or a problem cannot be
shown; what it left behind until then stays. -/
abbrev Inspecting (α : Type) := ExceptT Halt (StateM Gathered) α

namespace Inspecting

/-- Problems that were found. Each of them has to be shown at once. -/
def raise (problems : List Problem) : Inspecting (List Problem) :=
  if problems.any fun problem => problem.cause.isUnwritable then throw .unwritable
  else pure problems

/-- The problems of several parts, one part after the other. -/
def each {α : Type} (work : α → Inspecting (List Problem)) : List α → Inspecting (List Problem)
  | [] => pure []
  | x :: rest => do
    let problems ← work x
    let others ← each work rest
    return problems ++ others

/-- Notes a warning in the log. -/
def log (warning : Warning) : Inspecting Unit :=
  modify fun found => { found with notes := found.notes ++ [warning.note] }

/-- Gathers the warnings of a node. -/
def gather (warnings : List Warning) : Inspecting Unit :=
  modify fun found => { found with warnings := found.warnings ++ warnings }

/-- The warnings on the keys of a node that are not among the known ones, each noted in the log. -/
def logUnknownKeys (known : List String) (location : String) : Fields → Inspecting (List Warning)
  | [] => pure []
  | (key, _) :: rest =>
    if known.contains key then logUnknownKeys known location rest
    else do
      let warning : Warning := ⟨location, key, Text.closest? key known⟩
      log warning
      let others ← logUnknownKeys known location rest
      return warning :: others

end Inspecting

namespace Grammar

open Inspecting

variable {κ : Type}

mutual

/-- The inspection of a node: its fields in the order of the rules, each with the nodes below it, then
what the kind demands of them together. The unknown keys are the last that is looked at. -/
def inspect (g : Grammar κ) (kind : κ) (location : String) : Value → Inspecting (List Problem)
  | .object node => do
    let found ← each (fun rule : Rule κ =>
      match h : List.lookup rule.name node with
      | none | some .null => raise (if rule.required then [⟨location, rule.name, .missing⟩] else [])
      | some value =>
        match rule.refusal? value with
        | some cause => raise [⟨location, rule.name, cause⟩]
        | none => do
          let own ←
            raise ((rule.condition.causes value).map fun cause => ⟨location, rule.name, cause⟩)
          let inside ← (match rule.children with
            | some below => inspect g below s!"{location}.{rule.name}" value
            | none => pure [])
          let among ← (match rule.items, value, h with
            | some below, .list items, _h =>
              inspectItems g below rule.name rule.uniqueNames location 0 [] items
            | some _, _, _ => throw .noElements
            | none, _, _ => pure [])
          return own ++ inside ++ among) (g.rules kind)
    let demanded ← raise (g.demands kind location node)
    let warnings ← logUnknownKeys ((g.rules kind).map (·.name)) location node
    gather warnings
    return found ++ demanded
  | _ => throw .noFields
termination_by value => sizeOf value
decreasing_by
  · have := Fields.sizeOf_lt_of_lookup h
    simp
    omega
  · have := Fields.sizeOf_lt_of_lookup _h
    simp at this ⊢
    omega

/-- The inspection of the elements of a list from `index` on, where `seen` holds the names of the nodes
before them. -/
def inspectItems (g : Grammar κ) (kind : κ) (field : String) (unique : Bool) (location : String)
    (index : Nat) (seen : List String) : List Value → Inspecting (List Problem)
  | [] => pure []
  | .object node :: rest => do
    let below ← inspect g kind s!"{location}.{field}[{nodeLabel node index}]" (.object node)
    let repeated ← raise
      (match nodeName? node with
        | some name =>
          if unique && seen.contains name then [⟨location, field, .duplicate name⟩] else []
        | none => [])
    let others ← inspectItems g kind field unique location (index + 1)
      ((nodeName? node).toList ++ seen) rest
    return below ++ repeated ++ others
  | value :: rest => do
    let stranger ← raise [⟨location, s!"{field}[{index}]", .element value⟩]
    let others ← inspectItems g kind field unique location (index + 1) seen rest
    return stranger ++ others
termination_by items => sizeOf items

end

end Grammar

/-- The inspection of a whole document. -/
def inspectDocument : Value → Inspecting (List Problem)
  | .object node => programGrammar.inspect .program (rootLocation node) (.object node)
  | value => Inspecting.raise [⟨"schema", "<root>", .element value⟩]

end Tabsmith
