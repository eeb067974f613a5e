import Tabsmith.Note
import Tabsmith.Style
import Tabsmith.Text.Blank

/-!
Logs: named records of what happens, and the outlets that they are written to. The outlets in use
are shared by all logs that were asked for since they were put in place. A log whose name begins
with the name of another, up to a dot, stands below it.
-/

namespace Tabsmith

/-- What an outlet writes to: a file, or the screen, in detail or not and in styles or not. -/
inductive OutletKind where
  | file (place : List String)
  | screen (inDetail inStyles : Bool)
deriving DecidableEq, Repr, Inhabited

/-- An outlet. No two outlets of a run have one number. -/
structure Outlet where
  number : Nat
  kind : OutletKind
deriving DecidableEq, Repr, Inhabited

/-- A log: the least level that it takes, if that is not zero, and its outlets. A log that was asked
for keeps its records to itself; any other passes them on to the log above it. -/
structure LogEntry where
  level : Int := 0
  isAsked : Bool := false
  outlets : List Outlet := []
  /-- The log above, if that is not the root. -/
  above : Option String := none
deriving DecidableEq, Repr, Inhabited

/-- The logs of a run. `entries` also has the names above those of logs, without an entry while
there is no log of that name. `root` is above all logs; `issued` counts the outlets made so far. -/
structure Log where
  isDebug : Bool := false
  outlets : List Outlet := []
  entries : List (String × Option LogEntry) := []
  root : LogEntry := { level := Weight.warning.level }
  issued : Nat := 0
deriving DecidableEq, Repr, Inhabited

/-- A record on its way to the outlets. -/
structure LogRecord where
  log : String
  level : Int
  text : String
deriving DecidableEq, Repr, Inhabited

/-- When a record was made, and where in the program. -/
structure Stamp where
  time : String
  position : String
deriving Repr, Inhabited

namespace Log

/-- The name by which the root is asked for, if it is not by an empty one. -/
def rootName : String := "root"

/-- The name is one of the root. -/
def isRoot (name : String) : Bool :=
  name = "" || name = rootName

/-- The variable that turns on debugging from outside. -/
def debugVariable : String := "SHELLCOMP_DEBUG"

/-- The words for levels. -/
def levelWords : List (String × Int) :=
  (Weight.all.map fun weight => (weight.name, weight.level)) ++
    [("WARN", Weight.warning.level), ("FATAL", Weight.critical.level), ("NOTSET", 0)]

/-- The level that a word stands for. -/
def levelOf (word : String) : Except Breakdown Int :=
  match levelWords.lookup word with
  | some level => pure level
  | none => throw (.unknownLevel word)

/-- The logs at the start of a run. -/
def start (env : Environment) : Log :=
  { isDebug := (env.filled? debugVariable).isSome }

/-- The entry of a log, if there is such a log. -/
def entry? (log : Log) (name : String) : Option LogEntry :=
  if isRoot name then some log.root else (log.entries.lookup name).join

/-- Entries with one bound to a name: in place when the name is there, at the end otherwise. -/
def setIn (name : String) (entry : Option LogEntry) :
    List (String × Option LogEntry) → List (String × Option LogEntry)
  | [] => [(name, entry)]
  | (other, old) :: rest =>
    if other = name then (name, entry) :: rest else (other, old) :: setIn name entry rest

/-- The logs with an entry bound to a name. -/
def setEntry (log : Log) (name : String) (entry : LogEntry) : Log :=
  if isRoot name then { log with root := entry }
  else { log with entries := setIn name (some entry) log.entries }

/-- The beginnings of a name at its dots, the longest first; the name is given from its end on. A
dot right before another one does not count, and neither does one at the start. -/
def beginnings : (reversed : List Char) → List String
  | [] => []
  | '.' :: d :: rest => String.ofList (d :: rest).reverse :: beginnings rest
  | _ :: rest => beginnings rest

/-- The names above a name, the nearest first. -/
def namesAbove (name : String) : List String :=
  beginnings name.toList.reverse

/-- Entries that go below the log of a name if it is among the names above theirs, except those
whose log above is nearer. -/
def adopted (name : String) (entries : List (String × Option LogEntry)) :
    List (String × Option LogEntry) :=
  entries.map fun (other, entry?) =>
    (other, entry?.map fun entry =>
      if (namesAbove other).contains name && !name.isPrefixOf (entry.above.getD rootName) then
        { entry with above := some name }
      else entry)

/-- The first of the names that is one of a log, and the entries with the names passed over. -/
def seat (entries : List (String × Option LogEntry)) :
    (names : List String) → Option String × List (String × Option LogEntry)
  | [] => (none, entries)
  | name :: rest =>
    match entries.lookup name with
    | some (some _) => (some name, entries)
    | some none => seat entries rest
    | none => seat (entries ++ [(name, none)]) rest

/-- The logs with one of a name, which takes its place among those above and below it. -/
def create (log : Log) (name : String) : Log :=
  if (log.entry? name).isSome then log
  else
    let (above, entries) :=
      seat (adopted name (setIn name (some {}) log.entries)) (namesAbove name)
    { log with entries := setIn name (some { above := above }) entries }

/-- The level of a log for which none is given. -/
def usualLevel (log : Log) : Int :=
  if log.isDebug then Weight.debug.level else Weight.warning.level

/-- Outlets with those of `more` that are not among them. -/
def withOutlets (outlets more : List Outlet) : List Outlet :=
  more.foldl (fun all outlet => if all.contains outlet then all else all ++ [outlet]) outlets

/-- The logs after one of them was asked for: it takes records from a level on and has all outlets
in use. -/
def ask (log : Log) (name : String) (level : Option Int := none) : Log :=
  let log := log.create name
  let entry := (log.entry? name).getD {}
  log.setEntry name
    { entry with
      level := level.getD log.usualLevel
      isAsked := true
      outlets := withOutlets entry.outlets log.outlets }

/-- The logs where the log of a name, made for the purpose, lacks an outlet. -/
def withoutOutlet (outlet : Outlet) (log : Log) (name : String) : Log :=
  let log := log.create name
  let entry := (log.entry? name).getD {}
  log.setEntry name { entry with outlets := entry.outlets.filter (· ≠ outlet) }

/-- The logs without the outlets in use. The root keeps its own unless there is a log below its
name. -/
def clear (log : Log) : Log :=
  let cleared := log.outlets.foldl (fun log outlet =>
    (log.entries.map (·.1)).foldl (withoutOutlet outlet) log) log
  { cleared with outlets := [] }

/-- The logs with one more outlet in use. -/
def addOutlet (log : Log) (kind : OutletKind) : Log :=
  { log with
    outlets := log.outlets ++ [⟨log.issued, kind⟩]
    issued := log.issued + 1 }

/-- The entries of a log and of those above it, the nearest first, the root last. Names get shorter
on the way, so `fuel` is the length of the first. -/
def entriesFrom (log : Log) : (fuel : Nat) → (name : Option String) → List LogEntry
  | fuel + 1, some name =>
    match log.entry? name with
    | some entry => entry :: log.entriesFrom fuel entry.above
    | none => [log.root]
  | _, _ => [log.root]

/-- The entries that a record of a log goes to, one after the other. -/
def entriesFor (log : Log) (name : String) : List LogEntry :=
  if isRoot name then [log.root] else log.entriesFrom name.length (some name)

/-- The least level that a log takes: its own or that of the nearest log above. Level zero does
not count as one. -/
def threshold (log : Log) (name : String) : Int :=
  (((log.entriesFor name).find? fun entry => entry.level ≠ 0).map (·.level)).getD 0

/-- The outlets that a log writes to: those of the nearest log that keeps records to itself, or of
the root. -/
def outletsFor (log : Log) (name : String) : List Outlet :=
  (((log.entriesFor name).find? (·.isAsked)).getD log.root).outlets

/-- The word for a level. -/
def levelName (level : Int) : String :=
  match Weight.ofLevel? level with
  | some weight => weight.name
  | none => s!"Level {level}"

/-- The style of records of a level. -/
def styleOf (level : Int) : Style :=
  match Weight.ofLevel? level with
  | some .warning => [Style.yellow, Style.dim]
  | some .error => [Style.red, Style.dim]
  | some .critical => [Style.red, Style.bold]
  | _ => []

/-- A text with spaces in front, to a width. -/
def padLeft (width : Nat) (text : String) : String :=
  String.ofList (List.replicate (width - text.length) ' ') ++ text

/-- A record as the screen shows it. -/
def screenLine (inDetail inStyles : Bool) (stamp : Stamp) (r : LogRecord) : String :=
  Style.paint (styleOf r.level) inStyles
    (if inDetail then s!"{padLeft 20 r.log} - {r.text} // {stamp.position}" else r.text)

/-- A record as it stands in a file. -/
def fileLine (stamp : Stamp) (r : LogRecord) : String :=
  s!"{stamp.time} [{levelName r.level}] {r.log} :: {r.text} :: {stamp.position}"

/-- What a record adds to an outlet. -/
def line (stamp : Stamp) (r : LogRecord) : OutletKind → String
  | .file _ => fileLine stamp r ++ "\n"
  | .screen inDetail inStyles => screenLine inDetail inStyles stamp r ++ "\n"

/-- What a record adds, outlet by outlet. A record that no outlet takes goes to the screen as it is
if it is at least a warning. -/
def deliveries (log : Log) (stamp : Stamp) (r : LogRecord) : List (OutletKind × String) :=
  if r.level ≤ 0 || r.level < log.threshold r.log then []
  else match log.outletsFor r.log with
    | [] => if r.level < Weight.warning.level then [] else [(.screen false false, r.text ++ "\n")]
    | outlets => outlets.map fun outlet => (outlet.kind, line stamp r outlet.kind)

end Log

end Tabsmith
