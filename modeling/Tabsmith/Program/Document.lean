import Tabsmith.Fault
import Tabsmith.Grammar.Check
import Tabsmith.Program

/-!
Reading a program, and each part of one, from its document form. The document need not have been
checked: what is absent gets its default, scalars stand for lists of one, what is no text where one
belongs becomes a stray, and a document that cannot be read fails with the first cause in the order
of the fields.
-/

namespace Tabsmith

/-- The result of reading a document. -/
abbrev Reading (α : Type) := Except Fault α

namespace Reading

/-- A value in the wrong place. -/
def wrongKind {α : Type} : Reading α := throw (.breakdown .wrongKind)

/-- The value of a key that has to be there. -/
def need (node : Fields) (key : String) : Reading Value :=
  match List.lookup key node with
  | some value => pure value
  | none => throw (.breakdown (.noKey key))

/-- The fields of a node whose first use is to look for a key that may be absent. -/
def node (document : Value) : Reading Fields :=
  match document with
  | .object fields => pure fields
  | _ => throw (.breakdown .noMember)

/-- A text, where an absent or empty value gives `default` and any other value its plain form. -/
def text (node : Fields) (key default : String) : String :=
  let value := node.get key
  if value.isTruthy then value.display else default

/-- The value of a key that is neither absent or empty nor a text. -/
def stray? (node : Fields) (key : String) : Option Value :=
  match node.get key with
  | .text _ => none
  | value => if value.isTruthy then some value else none

/-- The strays of a node in fields of texts. -/
def strays (node : Fields) (keys : List String) : Fields :=
  keys.filterMap fun key => (stray? node key).map fun value => (key, value)

/-- The plain form of a value, which has to be one that can be written. -/
def display (value : Value) : Reading String :=
  if value.isUnwritable then throw (.breakdown .unwritable) else pure value.display

/-- A truth value, read from any value. -/
def flag (node : Fields) (key : String) (default : Bool) : Bool :=
  match List.lookup key node with
  | some value => value.isTruthy
  | none => default

/-- The members of a value that is a list or stands for one. -/
def members (value : Value) : Reading (List Value) :=
  match value with
  | .null => pure []
  | .text s => pure [.text s]
  | value =>
    match value.elements? with
    | some items => pure items
    | none => wrongKind

/-- A list of texts; members of other kinds give their plain form. -/
def texts (node : Fields) (key : String) : Reading (List String) := do
  (← members (node.get key)).mapM display

/-- The elements of a list of nodes. -/
def elements (value : Value) : Reading (List Value) :=
  if !value.isTruthy then pure []
  else match value.elements? with
    | some items => pure items
    | none => wrongKind

/-- The name of a part of the description, which cannot be empty. -/
def name (part : String) (value : Value) : Reading String :=
  match value with
  | .text s => if s = "" then throw (.invalid (.unnamed part value)) else pure s
  | _ => throw (.invalid (.unnamed part value))

end Reading

/-- A text without the marks at its start. -/
def withoutLead (mark : Char) (s : String) : String :=
  String.ofList (s.toList.dropWhile (· = mark))

namespace Hint

/-- The hint that a document describes. -/
def ofDocument (document : Value) : Reading Hint := do
  let .object node := document | Reading.wrongKind
  let type ← Reading.need node "type"
  let kind ← match type with
    | .text word =>
      match HintKind.ofName? word with
      | some kind => pure kind
      | none => throw (.breakdown (.unknownHint type))
    | _ => throw (.breakdown (.unknownHint type))
  let values ← Reading.texts node "values"
  let extensions ← Reading.texts node "extensions"
  return {
    kind := kind
    values := values
    command := Reading.text node "command" ""
    pattern := Reading.text node "pattern" ""
    extensions := extensions.map (withoutLead '.')
    strays := Reading.strays node ["command", "pattern"] }

/-- The hint of a node, if it has one. -/
def ofField (node : Fields) : Reading (Option Hint) :=
  let value := node.get "completion"
  if value.isTruthy then some <$> ofDocument value else pure none

end Hint

namespace Opt

/-- An option with a name and nothing else. -/
def ofName (name : Value) : Reading Opt :=
  return { name := ← Reading.name "Option" name }

/-- The option that a document describes. -/
def ofDocument (document : Value) : Reading Opt := do
  let node ← Reading.node document
  let name ← Reading.need node "name"
  let short ← Reading.texts node "short"
  let choices ← Reading.texts node "enum"
  let completion ← Hint.ofField node
  return {
    name := ← Reading.name "Option" name
    short := short.map (withoutLead '-')
    type := Reading.text node "type" booleanType
    description := Reading.text node "description" ""
    required := Reading.flag node "required" false
    repeatable := Reading.flag node "repeatable" false
    default := node.get "default"
    choices := choices
    hidden := Reading.flag node "hidden" false
    completion := completion
    strays := Reading.strays node ["type", "description"] }

end Opt

namespace Argument

/-- An argument with a name and nothing else. -/
def ofName (name : Value) : Reading Argument :=
  return { name := ← Reading.name "Argument" name }

/-- The argument that a document describes. -/
def ofDocument (document : Value) : Reading Argument := do
  let node ← Reading.node document
  let name ← Reading.need node "name"
  let completion ← Hint.ofField node
  return {
    name := ← Reading.name "Argument" name
    description := Reading.text node "description" ""
    required := Reading.flag node "required" true
    variadic := Reading.flag node "variadic" false
    completion := completion
    strays := Reading.strays node ["description"] }

end Argument

namespace Command

/-- A command with a name and nothing else. -/
def ofName (name : Value) : Reading Command :=
  return { name := ← Reading.name "Command" name }

mutual

/-- The command that a document describes. -/
def ofDocument (document : Value) : Reading Command :=
  match document with
  | .object node => do
    let name ← Reading.need node "name"
    let options ← (← Reading.elements (Fields.get node "options")).mapM Opt.ofDocument
    let arguments ← (← Reading.elements (Fields.get node "arguments")).mapM Argument.ofDocument
    let subcommands ← match _h : List.lookup "subcommands" node with
      | some (.list items) => ofDocuments items
      | some value => if value.isTruthy then Reading.wrongKind else pure []
      | none => pure []
    return {
      name := ← Reading.name "Command" name
      description := Reading.text node "description" ""
      hidden := Reading.flag node "hidden" false
      options := options
      arguments := arguments
      subcommands := subcommands
      strays := Reading.strays node ["description"] }
  | _ => Reading.wrongKind
termination_by sizeOf document
decreasing_by
  have := Fields.sizeOf_lt_of_lookup _h
  simp at this ⊢
  omega

/-- The commands that documents describe, one after the other. -/
def ofDocuments : List Value → Reading (List Command)
  | [] => pure []
  | document :: rest => do
    let command ← ofDocument document
    let commands ← ofDocuments rest
    return command :: commands
termination_by documents => sizeOf documents

end

end Command

namespace Program

/-- A program with a name and nothing else. -/
def ofName (name : Value) : Reading Program :=
  return { name := ← Reading.name "Program" name }

/-- The program that a document describes. -/
def ofDocument (document : Value) : Reading Program := do
  let node ← Reading.node document
  let version := node.get "version"
  let name ← Reading.need node "name"
  let version ← if version.isNull then pure "" else Reading.display version
  let commands ← Command.ofDocuments (← Reading.elements (node.get "commands"))
  let globalOptions ← (← Reading.elements (node.get "globalOptions")).mapM Opt.ofDocument
  return {
    name := ← Reading.name "Program" name
    description := Reading.text node "description" ""
    version := version
    commands := commands
    globalOptions := globalOptions
    strays := Reading.strays node ["description"] }

end Program

end Tabsmith
