import Tabsmith.Text.Replace
import Tabsmith.Value

/-!
Argument parsers: what a program declares about its own command line. A parser has actions, some
with flags and some positional, and the parsers of the commands below it.
-/

namespace Tabsmith

/-- The text that hides an action or a command in place of its help, and that declares the absence
of a default. -/
def suppressed : String := "==SUPPRESS=="

/-- A text that a program declares: it is absent or empty, a text, or something that is no text and
cannot be used as one. -/
inductive Caption where
  | none
  | text (text : String)
  | stray
deriving DecidableEq, Repr, Inhabited

namespace Caption

/-- What a declared value is as a text. -/
def ofValue (value : Value) : Caption :=
  match value with
  | .text s => if s = "" then none else .text s
  | value => if value.isTruthy then stray else none

/-- The first of two texts that is there. -/
def orElse (first second : Caption) : Caption :=
  match first with
  | none => second
  | caption => caption

end Caption

/-- What an action does with the words it takes. A `toggle` has a negative flag beside each long
one. -/
inductive ActionKind where
  | store | storeTrue | storeFalse | storeConst | append | appendConst | extend | count | toggle
  | help | version
deriving DecidableEq, Repr, Inhabited

/-- How many words an action takes: a number, at most one, any number, at least one, or all that
follow. A `command` takes one word and all that follow. -/
inductive Arity where
  | exactly (count : Nat)
  | optional | any | atLeastOne | rest | command
deriving DecidableEq, Repr, Inhabited

/-- An action of a parser. It is positional when it has no flags. `arity` is absent for a single
word, and `dest` names the value that the action sets. -/
structure Action where
  kind : ActionKind := .store
  flags : List String := []
  dest : String := ""
  arity : Option Arity := none
  isNumeric : Bool := false
  choices : List Value := []
  default : Value := .null
  required : Bool := false
  help : Caption := .none
  version : Value := .null
deriving Repr, Inhabited

/-- A parser. The parsers of commands are named by the word they were added under and may have a
help text, which is not their description; `aliases` are further words for the same parser. -/
structure Parser where
  name : Caption
  aliases : List String := []
  help : Caption := .none
  description : Caption := .none
  actions : List Action := []
  commands : List Parser := []
deriving Repr, Inhabited

namespace ActionKind

/-- The action takes no words. -/
def takesNothing : ActionKind → Bool
  | storeTrue | storeFalse | storeConst | appendConst | count | toggle | help | version => true
  | store | append | extend => false

/-- The value that an action sets when its flag is absent and no default was declared. -/
def ownDefault : ActionKind → Value
  | storeTrue => .bool false
  | storeFalse => .bool true
  | _ => .null

end ActionKind

/-- What follows the two dashes of a long flag. -/
def longFlag? (flag : String) : Option String :=
  (Text.afterLead? ['-', '-'] flag.toList).map String.ofList

namespace Action

/-- The action has no flags. -/
def isPositional (a : Action) : Bool :=
  a.flags.isEmpty

/-- The long flags without their dashes. -/
def longFlags (a : Action) : List String :=
  a.flags.filterMap longFlag?

/-- The flags with fewer than two dashes. -/
def shortFlags (a : Action) : List String :=
  a.flags.filter fun flag => (longFlag? flag).isNone

end Action

/-- An action as a program declares it, before flags and names are worked out. -/
structure Declaration where
  kind : ActionKind := .store
  flags : List String := []
  dest : Option String := none
  arity : Option Arity := none
  isNumeric : Bool := false
  choices : List Value := []
  default : Option Value := none
  required : Bool := false
  help : Caption := .none
  version : Value := .null
deriving Repr, Inhabited

namespace Declaration

/-- The declaration is of a positional action: it has no flag, or a single one that starts with no
flag character. -/
def isPositional (leads : List Char) (d : Declaration) : Bool :=
  match d.flags with
  | [] => true
  | [flag] =>
    match flag.toList with
    | c :: _ => !leads.contains c
    | [] => true
  | _ => false

/-- A flag that starts with two flag characters. -/
def isDoubled (leads : List Char) (flag : String) : Bool :=
  match flag.toList with
  | c :: d :: _ => leads.contains c && leads.contains d
  | _ => false

/-- The name of the value that flags set: the first doubled flag, or the first of all, without the
flag characters in front and with underscores for dashes. -/
def destOfFlags (leads : List Char) (flags : List String) : String :=
  let chosen := ((flags.find? (isDoubled leads)).orElse fun _ => flags.head?).getD ""
  Text.replaceChar (String.ofList (chosen.toList.dropWhile leads.contains)) '-' '_'

/-- The flags of a toggle: after each long flag its negative. -/
def withNegatives (flags : List String) : List String :=
  flags.flatMap fun flag =>
    match longFlag? flag with
    | some name => [flag, "--no-" ++ name]
    | none => [flag]

/-- The action that a declaration makes in a parser whose flags start with one of `leads`. -/
def action (leads : List Char) (d : Declaration) : Action :=
  let positional := d.isPositional leads
  { kind := d.kind
    flags :=
      if positional then [] else if d.kind = .toggle then withNegatives d.flags else d.flags
    dest :=
      if positional then d.flags.head?.getD (d.dest.getD "")
      else d.dest.getD (destOfFlags leads d.flags)
    arity := if d.kind.takesNothing then some (.exactly 0) else d.arity
    isNumeric := d.isNumeric
    choices := d.choices
    default := d.default.getD d.kind.ownDefault
    required := d.required
    help := d.help
    version := d.version }

end Declaration

/-- The action that every parser starts with, unless it is declared without one. -/
def helpAction (leads : List Char) : Action :=
  let lead := if leads.contains '-' then '-' else leads.headD '-'
  { kind := .help
    flags := [String.ofList [lead, 'h'], String.ofList [lead, lead, 'h', 'e', 'l', 'p']]
    dest := "help"
    arity := some (.exactly 0) }

end Tabsmith
