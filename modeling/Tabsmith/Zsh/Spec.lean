import Tabsmith.Program
import Tabsmith.Zsh.Quoting

/-!
The specifications of zsh's completion system: of options, of positional arguments, and of the
entries that describe commands.
-/

namespace Tabsmith.Zsh

/-- The values of a list, each one escaped. -/
def valueList (values : List String) : String :=
  "(" ++ " ".intercalate (values.map escapeValue) ++ ")"

/-- The files with one of several endings. -/
def extensionGlob : List String → Option String
  | [] => none
  | [one] => some ("*." ++ escapeDescription one)
  | several => some ("*.(" ++ "|".intercalate (several.map escapeDescription) ++ ")")

/-- The files that match a glob. -/
def filesMatching (glob : String) : String :=
  "_files -g \"" ++ glob ++ "\""

/-- The action that completes a value with a hint; without one, files. -/
def action : Option Hint → String
  | none => "_files"
  | some hint =>
    match hint.kind with
    | .static => valueList hint.values
    | .directory => "_directories"
    | .command | .dynamic => "($(" ++ inQuotes hint.command ++ "))"
    | .file =>
      if hint.pattern ≠ "" then filesMatching (escapeDescription hint.pattern)
      else match extensionGlob hint.extensions with
        | some glob => filesMatching glob
        | none => "_files"

/-- The action takes no stray apart. -/
def actionIsWhole : Option Hint → Bool
  | none => true
  | some hint =>
    match hint.kind with
    | .static | .directory => true
    | .command | .dynamic => hint.strays.lacks "command"
    | .file => hint.strays.lacks "pattern"

/-- The part of an option's specification that is about its value. -/
def valuePart (o : Opt) : String :=
  if o.isBoolean then ""
  else if !o.choices.isEmpty then ":value:" ++ valueList o.choices
  else match o.completion with
    | some hint => ":value:" ++ action (some hint)
    | none => ":" ++ escapeDescription o.type ++ ":"

/-- The part about the value takes no stray apart. -/
def valueIsWhole (o : Opt) : Bool :=
  o.isBoolean || !o.choices.isEmpty ||
    match o.completion with
    | some hint => actionIsWhole (some hint)
    | none => o.strays.lacks "type"

/-- The group of flags that exclude each other, for an option with a short flag. -/
def exclusion (o : Opt) : String :=
  if o.short.isEmpty then "" else "(" ++ " ".intercalate o.flags ++ ")"

/-- The specifications of an option, one for each flag; a hidden option has none. -/
def optionSpecs (o : Opt) : List String :=
  if o.hidden then []
  else o.flags.map fun flag =>
    enclose (exclusion o ++ flag ++ "[" ++ escapeDescription o.description ++ "]" ++ valuePart o)

/-- The specifications of an option take no stray apart. -/
def optionIsWhole (o : Opt) : Bool :=
  o.hidden || (o.strays.lacks "description" && valueIsWhole o)

/-- The message for an argument: its description, or else its name. -/
def argumentMessage (a : Argument) : String :=
  escapeDescription (if a.description = "" then a.name else a.description)

/-- The specification of an argument at a place: the number of its position, from one. -/
def argumentSpec (a : Argument) (place : String) : String :=
  enclose ((if a.variadic then "*" else place) ++ (if a.required then ":" else "::") ++
    argumentMessage a ++ ":" ++ action a.completion)

/-- The specification of an argument takes no stray apart. -/
def argumentIsWhole (a : Argument) : Bool :=
  a.strays.lacks "description" && actionIsWhole a.completion

/-- The specifications of arguments from a position on. -/
def argumentSpecs : (position : Nat) → List Argument → List String
  | _, [] => []
  | position, a :: rest =>
    argumentSpec a (toString position) :: argumentSpecs (position + 1) rest

/-- The entry that describes a command. -/
def describeEntry (c : Command) : String :=
  enclose (escapeName c.name) ++ ":" ++ enclose (escapeDescription c.description)

end Tabsmith.Zsh
