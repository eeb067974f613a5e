import Tabsmith.Grammar.Problem

/-!
The ways in which a run fails: the description of the program is not valid, something the user named
cannot be used, or the run breaks down. Each is a cause, with its wording in one function.
-/

namespace Tabsmith

/-- Why the file system refuses an operation. -/
inductive FileCause where
  | missing | exists | notFolder | folder | longName
deriving DecidableEq, Repr, Inhabited

namespace FileCause

/-- The number of the cause among the system's errors. -/
def number : FileCause → Nat
  | missing => 2
  | .exists => 17
  | notFolder => 20
  | folder => 21
  | longName => 36

/-- The cause in words. -/
def text : FileCause → String
  | missing => "No such file or directory"
  | .exists => "File exists"
  | notFolder => "Not a directory"
  | folder => "Is a directory"
  | longName => "File name too long"

end FileCause

/-- A refused operation on a path, as the path was given. -/
structure FileFault where
  cause : FileCause
  path : String
deriving DecidableEq, Repr, Inhabited

/-- The message of a refused operation. -/
def FileFault.message (f : FileFault) : String :=
  s!"[Errno {f.cause.number}] {f.cause.text}: {Text.literal f.path}"

/-- Why the description of a program is not valid. -/
inductive Invalid where
  /-- A part of the description has no name. -/
  | unnamed (part : String) (found : Value)
  /-- The document at `path` has problems. -/
  | rejected (path : String) (problems : List Problem)
deriving Repr, Inhabited

namespace Invalid

def message : Invalid → String
  | unnamed part found => s!"{part} name must be a non-empty string, got {found.literal}"
  | rejected path problems => s!"Invalid schema in {path}: {problems.length} error(s)"

/-- The problems one by one. -/
def lines : Invalid → List String
  | unnamed part found => [message (.unnamed part found)]
  | rejected _ problems => problems.map (·.text)

end Invalid

/-- Why a reference to a parser leads nowhere. -/
inductive Unresolved where
  | noModule (name : String)
  | notPackage (name package : String)
  | noMember (name member : String)
deriving DecidableEq, Repr, Inhabited

def Unresolved.message : Unresolved → String
  | noModule name => s!"No module named {Text.literal name}"
  | notPackage name package =>
    s!"No module named {Text.literal name}; {Text.literal package} is not a package"
  | noMember name member => s!"module '{name}' has no attribute '{member}'"

/-- Why something the user named cannot be used. -/
inductive Unusable where
  | noFile (path : String)
  | unreadable (path detail : String)
  | unresolved (reference : String) (cause : Unresolved)
  | noParser (reference : String)
  | shell (found : Value) (supported : List String)
deriving Repr, Inhabited

def Unusable.message : Unusable → String
  | noFile path => s!"Schema file not found: {path}"
  | unreadable path detail => s!"Problem reading {path}: {detail}"
  | unresolved reference cause => s!"Cannot resolve {reference}: {cause.message}"
  | noParser reference => s!"{reference} is not an argparse.ArgumentParser"
  | shell found supported =>
    s!"Unsupported shell: {found.literal}. Supported: " ++ ", ".intercalate supported

/-- Why a run breaks down. -/
inductive Breakdown where
  /-- An object lacks a key. -/
  | noKey (key : String)
  /-- A value is of a kind that cannot be used in its place. -/
  | wrongKind
  /-- A value has no such member. -/
  | noMember
  /-- Something else stands where a program was expected. -/
  | noProgram (found : Value)
  /-- A word names no kind of hint. -/
  | unknownHint (found : Value)
  /-- A reference names no module. -/
  | emptyModule
  /-- A file is not in UTF-8. -/
  | undecodable
  /-- The home folder of a user is not known. -/
  | noHome
  /-- A path holds a null character. -/
  | nullInPath
  /-- A whole number has too many digits to be read. -/
  | longNumber (digits : Nat)
  /-- A whole number has too many digits to be written. -/
  | unwritable
  /-- Lists and objects of a document stand too deep in each other; `stage` is what was at work. -/
  | tooDeep (stage : String)
  /-- A text that is to be written to a file, or the path of one, has lone surrogates. -/
  | unencodable (run : Text.SurrogateRun)
  /-- A word names no level of a log. -/
  | unknownLevel (word : String)
  | file (fault : FileFault)
  /-- The user interrupted a prompt. -/
  | interrupted
deriving Repr, Inhabited

/-- The breakdown that a check ends in. -/
def Breakdown.ofHalt : Halt → Breakdown
  | .noFields => noMember
  | .noElements => wrongKind
  | .unwritable => unwritable

/-- The message of a breakdown, for the causes that have one. -/
def Breakdown.message? : Breakdown → Option String
  | noKey key => some (Text.literal key)
  | wrongKind | noMember | undecodable | interrupted => none
  | noProgram found => some s!"Expected a Schema, got {found.kindName}"
  | unknownHint found => some s!"{found.literal} is not a valid HintType"
  | emptyModule => some "Empty module name"
  | noHome => some "Could not determine home directory."
  | nullInPath => some "embedded null byte"
  | longNumber digits =>
    some (s!"Exceeds the limit ({longestNumber} digits) for integer string conversion: value has " ++
      s!"{digits} digits; use sys.set_int_max_str_digits() to increase the limit")
  | unwritable =>
    some (s!"Exceeds the limit ({longestNumber} digits) for integer string conversion; use " ++
      "sys.set_int_max_str_digits() to increase the limit")
  | tooDeep stage => some ("maximum recursion depth exceeded" ++ stage)
  | unencodable run =>
    let place :=
      if run.first = run.last then
        s!"character '{String.ofList (Text.escapePoint run.unit)}' in position {run.first}"
      else s!"characters in position {run.first}-{run.last}"
    some s!"'utf-8' codec can't encode {place}: surrogates not allowed"
  | unknownLevel word => some s!"Unknown level: {Text.literal word}"
  | file fault => some fault.message

/-- The failure of a run. -/
inductive Fault where
  | invalid (cause : Invalid)
  | unusable (cause : Unusable)
  | breakdown (cause : Breakdown)
deriving Repr, Inhabited

/-- The message of a failure, for those that have one. -/
def Fault.message? : Fault → Option String
  | invalid cause => some cause.message
  | unusable cause => some cause.message
  | breakdown cause => cause.message?

end Tabsmith
