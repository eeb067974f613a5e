import Tabsmith.FileTree
import Tabsmith.Log

/-!
What a run leaves behind: the file tree, the logs, and what was printed.
-/

namespace Tabsmith

/-- What a run leaves behind. -/
structure Console where
  files : FileTree := {}
  log : Log := {}
  output : String := ""
  errors : String := ""
deriving Inhabited

namespace Console

/-- The console with a line on its output. -/
def print (c : Console) (line : String) : Console :=
  { c with output := c.output ++ line ++ "\n" }

/-- The console with a line among its errors. -/
def printError (c : Console) (line : String) : Console :=
  { c with errors := c.errors ++ line ++ "\n" }

/-- The tree with text at the end of the file at a place. -/
def appendTo (files : FileTree) (place : Place) (text : String) : FileTree :=
  match files.lookup place with
  | some (.file old) => files.put place (.file (old ++ text.toUTF8))
  | _ => files

/-- The console with what a record adds to an outlet. -/
def deliver (c : Console) (delivery : OutletKind × String) : Console :=
  match delivery.1 with
  | .file place => { c with files := appendTo c.files place delivery.2 }
  | .screen _ _ => { c with errors := c.errors ++ delivery.2 }

/-- The console after a record was made. There is a log of its name from then on. -/
def record (c : Console) (stamp : Stamp) (r : LogRecord) : Console :=
  let c := { c with log := c.log.create r.log }
  (c.log.deliveries stamp r).foldl deliver c

/-- The console after a note was taken: the log of its channel is asked for and gets it. -/
def take (c : Console) (stamp : Stamp) (note : Note) : Console :=
  let c := { c with log := c.log.ask note.channel.name }
  c.record stamp ⟨note.channel.name, note.weight.level, note.text⟩

/-- The console after notes were taken one after the other. -/
def takeAll (c : Console) (stamp : Stamp) (notes : List Note) : Console :=
  notes.foldl (fun c note => c.take stamp note) c

/-- The logs get new outlets: a file, if one is named, and the screen. `debug` turns on debugging
for good. A file that cannot be opened leaves the logs without outlets. -/
def openLog (c : Console) (workFolder : Place) (env : Environment) (terminal : Bool)
    (file : String) (debug : Bool) : Except Breakdown Unit × Console :=
  let log := { c.log with isDebug := c.log.isDebug || debug }.clear
  let screen : OutletKind := .screen log.isDebug (Style.isWanted env terminal)
  if file = "" then (.ok (), { c with log := log.addOutlet screen })
  else
    let path := ((Path.mk .root workFolder).join (Path.ofText file)).collapsed
    let opening : FileTask Place := do
      FileTask.update workFolder path id
      FileTask.place workFolder path
    match opening.run.run c.files with
    | (.error cause, files) => (.error cause, { c with log := log, files := files })
    | (.ok place, files) =>
      (.ok (), { c with log := (log.addOutlet (.file place)).addOutlet screen, files := files })

end Console

end Tabsmith
