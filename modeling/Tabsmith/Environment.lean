/-!
The variables of the environment that a run starts in, and the references to them in texts.
-/

namespace Tabsmith

/-- The variables of an environment. Of two bindings of one name the first counts. -/
abbrev Environment := List (String × String)

namespace Environment

/-- The value of a variable that is set to something. -/
def filled? (env : Environment) (name : String) : Option String :=
  match env.lookup name with
  | some "" | none => none
  | some value => some value

/-- A character of a name that is referred to without braces: an ASCII letter, a digit or an
underscore. -/
def isNameChar (c : Char) : Bool :=
  c.isAlphanum || c == '_'

/-- The name that a text after a dollar sign refers to, and the length of the reference: `NAME`, or
any text in braces. -/
def reference? (s : List Char) : Option (String × Nat) :=
  match s with
  | '\x7b' :: rest =>
    let name := rest.takeWhile (· ≠ '\x7d')
    if name.length < rest.length then some (String.ofList name, name.length + 2) else none
  | _ =>
    let name := s.takeWhile isNameChar
    if name.isEmpty then none else some (String.ofList name, name.length)

/-- `skip` characters belong to a reference already dealt with and are passed over. -/
def expandFrom (env : Environment) (skip : Nat) : List Char → List Char
  | [] => []
  | c :: rest =>
    match skip with
    | left + 1 => expandFrom env left rest
    | 0 =>
      if c = '$' then
        match reference? rest with
        | some (name, length) =>
          match env.lookup name with
          | some value => value.toList ++ expandFrom env length rest
          | none => c :: rest.take length ++ expandFrom env length rest
        | none => c :: expandFrom env 0 rest
      else c :: expandFrom env 0 rest

/-- A text with its references replaced by the values of the variables. A reference to a variable
that is not set stays, and so does a dollar sign that starts none. -/
def expand (env : Environment) (s : String) : String :=
  String.ofList (expandFrom env 0 s.toList)

end Environment

end Tabsmith
