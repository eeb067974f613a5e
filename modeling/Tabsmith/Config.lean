import Tabsmith.Document.Toml
import Tabsmith.Note
import Tabsmith.Setting
import Tabsmith.Shell
import Tabsmith.Value.Merge

/-!
The configuration of the user: where the script of each shell goes. The file of the user, if there
is one, is merged over the defaults.
-/

namespace Tabsmith

namespace Config

/-- Where scripts go in the absence of a configuration, by shell. A program's name goes in the place
of `{name}`. -/
def defaultTemplate (env : Environment) : Shell → String
  | .bash =>
    (env.filled? "XDG_DATA_HOME").getD "~/.local/share" ++
      "/bash-completion/completions/\x7bname\x7d"
  | .zsh => "~/.zsh/completions/_\x7bname\x7d"
  | .fish => "~/.config/fish/completions/\x7bname\x7d.fish"
  | .powershell => "~/.config/powershell/completions/\x7bname\x7d.ps1"

/-- The configuration of a user without a file. -/
def default (env : Environment) : Fields :=
  [("paths", .object (Shell.all.map fun shell => (shell.name, .text (defaultTemplate env shell))))]

/-- The path of the configuration file. -/
def file (s : Setting) : Except Fault Path := do
  let folder ← match s.environment.filled? "XDG_CONFIG_HOME" with
    | some folder => pure (Path.ofText folder)
    | none => pure ((← s.home).join (Path.ofText ".config"))
  pure (folder.join (Path.ofText "shellcomp/config.toml"))

/-- The warning that a path is configured for a shell that does not exist. -/
def strayNote (path : Path) (found : Value) : Note :=
  ⟨.warning, s!"[{path.text}] Unknown shell '{found.display}' in [paths] - will be ignored", .main⟩

/-- Takes the notes on configured shells that do not exist, in order. A note cannot show a number
that is too long to be written. -/
def noteStrays (path : Path) (found : List Value) : Noted Unit :=
  found.forM fun value =>
    if value.isUnwritable then throw (.breakdown .unwritable)
    else modify (· ++ [strayNote path value])

/-- The value is the word for a shell. -/
def isShell (value : Value) : Bool :=
  match value with
  | .text word => (Shell.ofName? word).isSome
  | _ => false

/-- The shells for which a configuration has paths, whether they exist or not. -/
def configuredShells (config : Fields) : Noted (List Value) :=
  match List.lookup "paths" config with
  | none => pure []
  | some paths =>
    match paths.elements? with
    | some shells => pure shells
    | none => throw (.breakdown .wrongKind)

/-- The table that the content of a configuration file writes. -/
def parse (path : Path) (content : ByteArray) : Noted Fields :=
  match String.fromUTF8? content with
  | none => throw (.breakdown .undecodable)
  | some text =>
    match Document.Toml.read text with
    | .ok (.object table) => pure table
    | .ok _ => throw (.breakdown .wrongKind)
    | .error (.longNumber digits) => throw (.breakdown (.longNumber digits))
    | .error (.tooDeep stage) => throw (.breakdown (.tooDeep stage))
    | .error (.malformed detail) => do
      let fault : Unusable := .unreadable path.text detail
      Noted.note .critical fault.message
      throw (.unusable fault)

/-- The configuration with the file at a path, if there is one. What stands there depends on the
notes taken before. -/
def loadFrom (s : Setting) (path : Path) : Noted Fields := do
  match ← Noted.ofExcept ((s.after (← get)).find? path) with
  | none => pure (default s.environment)
  | some _ =>
    Noted.note .info s!"Loading {path.text}"
    match ← Noted.ofExcept ((s.after (← get)).find? path) with
    | some (.file content) =>
      let table ← parse path content
      let shells ← configuredShells table
      noteStrays path (shells.filter fun shell => !isShell shell)
      pure ((default s.environment).merge table)
    | _ => throw (.breakdown (.file ⟨.folder, path.text⟩))

/-- The configuration of the user. -/
def load (s : Setting) : Noted Fields := do
  let path ← Noted.ofExcept (file s)
  loadFrom s (← Noted.ofExcept (s.userPath path.text))

end Config

end Tabsmith
