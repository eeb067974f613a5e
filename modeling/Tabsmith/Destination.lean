import Tabsmith.Config

/-!
Where a script goes: the path that the configuration gives, how it is written there, and what is
said afterwards.
-/

namespace Tabsmith

namespace Destination

/-- The place of the program's name in a template. -/
def namePlace : String := "\x7bname\x7d"

/-- The template that a configuration has for a shell. -/
def template (config : Fields) (shell : String) : Except Fault String := do
  match List.lookup "paths" config with
  | none => throw (.breakdown (.noKey "paths"))
  | some (.object paths) =>
    match List.lookup shell paths with
    | none => throw (.breakdown (.noKey shell))
    | some (.text template) => pure template
    | some (.date _) | some (.time _) | some (.moment ..) => throw (.breakdown .wrongKind)
    | some _ => throw (.breakdown .noMember)
  | some _ => throw (.breakdown .wrongKind)

/-- The path that a template gives for a program. -/
def fill (s : Setting) (template name : String) : Except Fault Path :=
  s.userPath (Text.replace template namePlace name)

/-- The path that a configuration gives for the script of a program. -/
def default (s : Setting) (shell name : String) (config : Fields) : Except Fault String := do
  return (← fill s (← template config shell) name).text

/-- The text of a path with a tilde for the home folder of the user. -/
def shorten (home path : String) : String :=
  match Text.afterLead? (home.toList ++ ['/']) path.toList with
  | some rest => "~/" ++ String.ofList rest
  | none => path

/-- What a user of a shell does next after a script was put in its usual place. -/
def advice (shell path : String) : List String :=
  match Shell.ofName? shell with
  | some .bash => ["Reload your shell or run: source ~/.bashrc"]
  | some .zsh =>
    let folder := (Path.ofText path).parent.text
    [s!"Ensure {folder} is in your fpath. Add to ~/.zshrc:", s!"  fpath=({folder} $fpath)",
      "  autoload -Uz compinit && compinit", "Then reload your shell."]
  | some .fish => ["Reload your shell or run: source ~/.config/fish/config.fish"]
  | some .powershell => ["Add this line to your $PROFILE:", s!"  . {path}"]
  | none => []

/-- What is said after a script was written to a path. -/
def success (s : Setting) (shell path : String) (isDefault : Bool) : Except Fault String := do
  let shown := shorten (← s.home).text path
  if isDefault && (Shell.ofName? shell).isSome then
    pure ("\n".intercalate (s!"Completions installed to {shown}" :: advice shell shown))
  else pure s!"Completions written to {shown}"

/-- The note that a script is about to be written. -/
def note (path : String) : Note :=
  ⟨.debug, s!"Writing completions to: {path}", .main⟩

/-- Writes a script to a path, with the folders above it. -/
def write (workFolder : Place) (content path : String) : FileTask Unit := do
  let path := Path.ofText path
  FileTask.needFolders workFolder path.parent
  FileTask.writeText workFolder path content

/-- The message of a refusal to write. -/
def refusal (fault : FileFault) : String :=
  s!"Failed to write completion file: {fault.message}"

/-- Writes a script to a path, and tells why the file tree refused it if it did. -/
def tryWrite (workFolder : Place) (content path : String) (files : FileTree) :
    Except Fault (Option FileFault) × FileTree :=
  match (write workFolder content path).run.run files with
  | (.ok (), files) => (.ok none, files)
  | (.error (.file fault), files) => (.ok (some fault), files)
  | (.error cause, files) => (.error (.breakdown cause), files)

end Destination

end Tabsmith
