import Tabsmith.Document.Json
import Tabsmith.Document.Toml
import Tabsmith.Grammar.Inspection
import Tabsmith.Parser.Program
import Tabsmith.Setting

/-!
Loading a program from a source: the path of a document, or a reference to a parser in a module,
written `module:name`. A document is checked against the grammar before it is read.
-/

namespace Tabsmith

/-- What came of loading: the program or why there is none, the warnings of the grammar, and the
notes taken. -/
structure Loading where
  notes : List Note := []
  warnings : List Warning := []
  outcome : Except Fault Program

namespace Source

/-! ## References to parsers -/

/-- The modules on the way to a module, the outermost first: a dot separates a module from those
inside it. -/
def enclosing (name : String) : List String :=
  let parts := (Text.pieces (· = '.') name.toList).map String.ofList
  (List.range parts.length).map fun n => ".".intercalate (parts.take (n + 1))

/-- Why the first of some modules, which is not there, cannot be found. Each of them is inside the
next one: one that is there contains no others, and beyond the last one there is nothing. -/
def missingModule (known : List String) : (way : List String) → Unresolved
  | [] => .noModule ""
  | [name] => .noModule name
  | name :: outer :: rest =>
    if known.contains outer then .notPackage name outer else missingModule known (outer :: rest)

/-- The names that every module has beside its own and that can be called, or need not be. None of
them is a parser or makes one. -/
def standingNames : List String :=
  ["__name__", "__doc__", "__package__", "__loader__", "__spec__", "__dict__", "__annotations__",
    "__dir__", "__hash__", "__repr__", "__str__", "__sizeof__", "__getstate__",
    "__init_subclass__", "__subclasshook__"]

/-- The names that every module has beside its own and that cannot be called without arguments. -/
def uncallableNames : List String :=
  ["__class__", "__delattr__", "__eq__", "__format__", "__ge__", "__getattribute__", "__gt__",
    "__init__", "__le__", "__lt__", "__ne__", "__new__", "__reduce__", "__reduce_ex__",
    "__setattr__"]

/-- What a name in a module stands for. -/
def member? (m : Module) (name : String) : Option Member :=
  match m.lookup name with
  | some found => some found
  | none =>
    if standingNames.contains name then some .other
    else if uncallableNames.contains name then some .uncallable
    else none

/-- The text before the first colon, and the text after it. -/
def splitReference (reference : String) : String × String :=
  let s := reference.toList
  (String.ofList (s.takeWhile (· ≠ ':')), String.ofList ((s.dropWhile (· ≠ ':')).drop 1))

/-- What a reference leads to. The inner result says why it leads nowhere. -/
def resolve (modules : List (String × Module)) (reference : String) :
    Except Fault (Except Unresolved Member) :=
  let (name, inside) := splitReference reference
  if name = "" then throw (.breakdown .emptyModule)
  else if name.toList.head? = some '.' then throw (.breakdown .wrongKind)
  else match modules.lookup name with
    | none =>
      pure (throw (missingModule (modules.map fun entry => entry.1) (enclosing name).reverse))
    | some m =>
      match member? m inside with
      | some found => pure (pure found)
      | none => pure (throw (.noMember name inside))

/-- The parser that a name stands for, called for if the name is that of a function. -/
def Member.parser? : Member → Except Fault (Option Parser)
  | .parser p => pure (some p)
  | .maker result => pure result
  | .uncallable => throw (.breakdown .wrongKind)
  | .other => pure none

/-- The notes on the actions of a parser that make no option. -/
def remarkNotes (remarks : List Finding) : List Note :=
  remarks.map fun finding => ⟨.debug, finding.message, .parser⟩

/-- Loads the program of the parser that a reference leads to. -/
def loadParser (s : Setting) (reference : String) : Loading :=
  match resolve s.modules reference with
  | .error fault => { outcome := throw fault }
  | .ok (.error cause) =>
    { notes := [⟨.critical, s!"Cannot resolve {reference}: {cause.message}", .main⟩]
      outcome := throw (.unusable (.unresolved reference cause)) }
  | .ok (.ok member) =>
    match Member.parser? member with
    | .error fault => { outcome := throw fault }
    | .ok none =>
      let fault : Unusable := .noParser reference
      { notes := [⟨.critical, fault.message, .main⟩], outcome := throw (.unusable fault) }
    | .ok (some parser) =>
      { notes := ⟨.info, s!"Building schema from parser {reference}", .main⟩ ::
          remarkNotes (parser.remarks {})
        outcome := parser.describe {} }

/-! ## Documents -/

/-- The value that the content of a file writes, in the format that the suffix of its path tells:
JSON, or else TOML. -/
def parse (path : Path) (content : ByteArray) : Document.Step Value :=
  match String.fromUTF8? content with
  | none => Document.malformed "the text is not in UTF-8"
  | some text =>
    if path.suffix = ".json" then Document.Json.read text else Document.Toml.read text

/-- The program of a document, which is inspected first. Of an inspection that ends early only the notes
are left. -/
def readDocument (path : Path) (document : Value) : Loading :=
  match (inspectDocument document).run.run {} with
  | (.error cause, found) =>
    { notes := found.notes, outcome := throw (.breakdown (.ofHalt cause)) }
  | (.ok problems, found) =>
    if problems.isEmpty then
      { notes := found.notes, warnings := found.warnings, outcome := Program.ofDocument document }
    else
      { notes := found.notes ++ problems.map fun problem => ⟨.error, problem.text, .main⟩
        warnings := found.warnings
        outcome := throw (.invalid (.rejected path.text problems)) }

/-- The note that a file is opened. -/
def openingNote (path : Path) : Note :=
  ⟨.info, s!"Loading {path.text}", .main⟩

/-- Loads the program of the document with the given content at a path. -/
def loadContent (path : Path) (content : ByteArray) : Loading :=
  match parse path content with
  | .ok document => readDocument path document
  | .error (.malformed detail) =>
    let fault : Unusable := .unreadable path.text detail
    { notes := [⟨.critical, fault.message, .main⟩], outcome := throw (.unusable fault) }
  | .error (.longNumber digits) => { outcome := throw (.breakdown (.longNumber digits)) }
  | .error (.tooDeep stage) => { outcome := throw (.breakdown (.tooDeep stage)) }

/-- Loads the program of the document at a path where `found` stands. The file is read once the
note on its opening is taken. -/
def loadDocument (s : Setting) (path : Path) (found : Option Entry) : Loading :=
  match found with
  | some (.file content) =>
    let opening := openingNote path
    let content :=
      match (s.after [opening]).find? path with
      | .ok (some (.file content)) => content
      | _ => content
    let loading := loadContent path content
    { loading with notes := opening :: loading.notes }
  | _ =>
    let fault : Unusable := .noFile path.text
    { notes := [⟨.critical, fault.message, .main⟩], outcome := throw (.unusable fault) }

/-- Loads the program of a source. The source is the path of a document if something stands at
that path, and a reference to a parser if it has a colon otherwise. -/
def load (s : Setting) (source : String) : Loading :=
  match s.userPath (s.environment.expand source) with
  | .error fault => { outcome := throw fault }
  | .ok path =>
    match s.find? path with
    | .error fault => { outcome := throw fault }
    | .ok none =>
      if source.contains ':' then loadParser s source else loadDocument s path none
    | .ok found => loadDocument s path found

end Source

/-- Loading as work that takes notes. -/
def Loading.work (loading : Loading) : Noted Program := do
  modify (· ++ loading.notes)
  Noted.ofExcept loading.outcome

end Tabsmith
