import Tabsmith.Proofs.Acceptance.Small
import Tabsmith.Proofs.Configuration
import Tabsmith.Proofs.Generating
import Tabsmith.Proofs.Reading.Parts

/-!
The usual place of a script. The name of a program stands for the last part of the template of its shell,
and what it writes there is read as a path: it is the name of a file in the folder of the template only if
it is a single part.
-/

namespace Tabsmith

namespace Path

theorem ofText_append {s : List Char} (hlength : 3 ≤ s.length) (t : List Char) :
    Anchor.ofText (s ++ t) = Anchor.ofText s := by
  obtain ⟨a, b, c, rest, rfl⟩ : ∃ a b c rest, s = a :: b :: c :: rest := by
    match s, hlength with
    | a :: b :: c :: rest, _ => exact ⟨a, b, c, rest, rfl⟩
  by_cases ha : a = '/' <;> by_cases hb : b = '/' <;> by_cases hc : c = '/' <;>
    simp [Anchor.ofText, ha, hb, hc]

/-- The path of a file or folder below another path. -/
def below (p : Path) (parts : List String) : Path :=
  { p with parts := p.parts ++ parts }

section Below

variable {p q : Path} {homes : Homes}

theorem hasTilde_below_iff (hparts : p.parts ≠ []) (parts : List String) {first : String} :
    (p.below parts).HasTilde first ↔ p.HasTilde first := by
  have hhead : (p.below parts).parts.head? = p.parts.head? := List.head?_append_of_ne_nil _ hparts
  constructor
  · rintro ⟨hrelative, hfirst, htilde⟩
    exact ⟨hrelative, hhead ▸ hfirst, htilde⟩
  · rintro ⟨hrelative, hfirst, htilde⟩
    exact ⟨hrelative, hhead ▸ hfirst, htilde⟩

/-- The path of something in a folder, which two dots are not. -/
def LiesIn (p folder : Path) : Prop :=
  ∃ file, file ≠ ".." ∧ p = folder.below [file]

theorem below_inj {parts others : List String} : p.below parts = p.below others ↔ parts = others := by
  simp [below]

/-- A path below a folder has the folder for its parent if it adds a single part. -/
theorem parent_below_eq_iff (hparts : p.parts ≠ []) (parts : List String) :
    (p.below parts).parent = p ↔ ∃ file, parts = [file] := by
  have hparent : (p.below parts).parent = p ↔ (p.parts ++ parts).dropLast = p.parts := by
    obtain ⟨anchor, names⟩ := p
    simp [below, parent]
  rw [hparent]
  constructor
  · intro hsame
    have hlength := congrArg List.length hsame
    have hpositive := List.length_pos_iff.2 hparts
    rw [List.length_dropLast, List.length_append] at hlength
    exact List.length_eq_one_iff.1 (by omega)
  · rintro ⟨file, rfl⟩
    exact List.dropLast_concat

theorem liesIn_below_iff {parts : List String} :
    (p.below parts).LiesIn p ↔ ∃ file, file ≠ ".." ∧ parts = [file] := by
  simp only [LiesIn, below_inj]

/-- A home folder is filled in for the first part, whatever comes below. -/
theorem expandHome?_below (hparts : p.parts ≠ []) (parts : List String) :
    (p.below parts).expandHome? homes = (p.expandHome? homes).map fun q => q.below parts := by
  by_cases htilde : ∃ first, p.HasTilde first
  · obtain ⟨first, hfirst⟩ := htilde
    rw [((hasTilde_below_iff hparts parts).2 hfirst).expandHome?, hfirst.expandHome?]
    cases homes.of? first with
    | none => rfl
    | some folder =>
      rw [Option.bind_some, Option.bind_some]
      split
      · rfl
      · have htail : (p.below parts).parts.tail = p.parts.tail ++ parts := List.tail_append_of_ne_nil hparts
        rw [htail, Option.map_some, join, join, below]
        simp [isAbsolute]
  · have hnone := not_exists.1 htilde
    have hbelow (first : String) : ¬ (p.below parts).HasTilde first := by
      rw [hasTilde_below_iff hparts]
      exact hnone first
    rw [expandHome?_of_no_tilde hnone, expandHome?_of_no_tilde hbelow]
    rfl

/-- A home folder may be the root, but what lies below it is not. -/
theorem parts_ne_nil_of_expandHome? (hlength : 2 ≤ p.parts.length)
    (hq : p.expandHome? homes = some q) : q.parts ≠ [] := by
  have hparts : p.parts ≠ [] := List.ne_nil_of_length_pos (by omega)
  have habove : p.parent.parts ≠ [] := by
    apply List.ne_nil_of_length_pos
    rw [parent, List.length_dropLast]
    omega
  have hbelow : p.parent.below [p.parts.getLast hparts] = p := by
    rw [below, parent, List.dropLast_append_getLast hparts]
  rw [← hbelow, expandHome?_below habove, Option.map_eq_some_iff] at hq
  obtain ⟨folder, _, rfl⟩ := hq
  exact List.append_ne_nil_of_right_ne_nil _ (List.cons_ne_nil _ _)

end Below

end Path

namespace Destination

/-- The file for a program of some name, in the folder for a shell. -/
def fileName (shell : Shell) (name : String) : String :=
  match shell with
  | .bash => name
  | .zsh => "_" ++ name
  | .fish => name ++ ".fish"
  | .powershell => name ++ ".ps1"

/-- The folder for a shell, as its template gives it. -/
def folderText (env : Environment) : Shell → String
  | .bash => (env.filled? "XDG_DATA_HOME").getD "~/.local/share" ++ "/" ++ "bash-completion/completions"
  | .zsh => "~/.zsh/completions"
  | .fish => "~/.config/fish/completions"
  | .powershell => "~/.config/powershell/completions"

theorem defaultTemplate_eq (env : Environment) (shell : Shell) :
    Config.defaultTemplate env shell = folderText env shell ++ "/" ++ fileName shell namePlace := by
  cases shell with
  | bash =>
    rw [Config.defaultTemplate, folderText, String.append_assoc, String.append_assoc, String.append_assoc]
    rfl
  | _ => rfl

theorem replace_append_slash (s t name : String) :
    Text.replace (s ++ "/" ++ t) namePlace name =
      Text.replace s namePlace name ++ "/" ++ Text.replace t namePlace name := by
  apply String.toList_inj.1
  have hslash : '/' ∉ namePlace.toList := by decide
  have hplace : namePlace.toList ≠ [] := by decide
  have hsplit : Text.replaceFrom namePlace.toList name.toList 0 (s.toList ++ '/' :: t.toList) =
      Text.replaceFrom namePlace.toList name.toList 0 s.toList ++
        '/' :: Text.replaceFrom namePlace.toList name.toList 0 t.toList :=
    Text.replaceFrom_append_cons hslash hplace (Nat.zero_le _) t.toList
  simpa [Text.replace] using hsplit

theorem replace_of_not_infix {s : String} (hplace : ¬ namePlace.toList <:+: s.toList) (name : String) :
    Text.replace s namePlace name = s := by
  rw [Text.replace, Text.replaceFrom_of_not_infix hplace, String.ofList_toList]

theorem replace_fileName (shell : Shell) (name : String) :
    Text.replace (fileName shell namePlace) namePlace name = fileName shell name := by
  apply String.toList_inj.1
  cases shell <;> simp [Text.replace, fileName, namePlace, Text.replaceFrom, Text.afterLead?]

theorem replace_of_no_brace {s : String} (hbrace : '\x7b' ∉ s.toList) (name : String) :
    Text.replace s namePlace name = s := by
  apply replace_of_not_infix
  intro hheld
  exact hbrace (hheld.subset (by decide))

section Places

variable {env : Environment} {s : Setting} {shell : Shell}

/-- The folder for data that the environment gives, if it gives one, has no place for a name in it. -/
def HasFixedData (env : Environment) : Prop :=
  ∀ data, env.filled? "XDG_DATA_HOME" = some data → ¬ namePlace.toList <:+: data.toList

theorem replace_folderText (hdata : shell = .bash → HasFixedData env) (name : String) :
    Text.replace (folderText env shell) namePlace name = folderText env shell := by
  cases shell with
  | bash =>
    have hbelow := replace_of_no_brace (s := "bash-completion/completions") (by decide) name
    rw [folderText, replace_append_slash, hbelow]
    cases hfilled : env.filled? "XDG_DATA_HOME" with
    | none => rw [Option.getD_none, replace_of_no_brace (by decide)]
    | some data => rw [Option.getD_some, replace_of_not_infix (hdata rfl data hfilled)]
  | zsh => exact replace_of_no_brace (s := "~/.zsh/completions") (by decide) name
  | fish => exact replace_of_no_brace (s := "~/.config/fish/completions") (by decide) name
  | powershell => exact replace_of_no_brace (s := "~/.config/powershell/completions") (by decide) name

/-- All folders for scripts have one name, and are in a folder for one program. -/
theorem exists_folderText_eq (env : Environment) (shell : Shell) :
    ∃ above app, Path.IsPart app ∧ folderText env shell = above ++ "/" ++ app ++ "/" ++ "completions" := by
  cases shell with
  | bash =>
    refine ⟨(env.filled? "XDG_DATA_HOME").getD "~/.local/share", "bash-completion", by decide, ?_⟩
    simp only [folderText, String.append_assoc]
    rfl
  | zsh => exact ⟨"~", ".zsh", by decide, rfl⟩
  | fish => exact ⟨"~/.config", "fish", by decide, rfl⟩
  | powershell => exact ⟨"~/.config", "powershell", by decide, rfl⟩

/-- A text below the folder for a shell is the path of that folder with more parts. -/
theorem ofText_below_folderText (env : Environment) (shell : Shell) (file : String) :
    Path.ofText (folderText env shell ++ "/" ++ file) =
      (Path.ofText (folderText env shell ++ "/")).below (Path.partsOf file.toList) := by
  obtain ⟨above, app, _, hfolder⟩ := exists_folderText_eq env shell
  have hlength : 3 ≤ (folderText env shell ++ "/").toList.length := by
    rw [hfolder]
    simp only [String.toList_append, List.length_append]
    have hname : "completions".toList.length = 11 := by decide
    omega
  have hparts : Path.partsOf (folderText env shell ++ "/" ++ file).toList =
      Path.partsOf (folderText env shell ++ "/").toList ++ Path.partsOf file.toList := by
    have hempty : Path.partsOf [] = [] := by decide
    have hfolder := Path.partsOf_append_slash (folderText env shell).toList []
    have hfile := Path.partsOf_append_slash (folderText env shell).toList file.toList
    simp [hfolder, hfile, hempty]
  rw [Path.ofText, Path.ofText, Path.below, hparts, String.toList_append,
    Path.ofText_append hlength]

theorem two_le_length_parts (env : Environment) (shell : Shell) :
    2 ≤ (Path.ofText (folderText env shell ++ "/")).parts.length := by
  obtain ⟨above, app, happ, hfolder⟩ := exists_folderText_eq env shell
  have hname : Path.partsOf ("completions".toList ++ ['/']) = ["completions"] := by decide
  have hchars : (folderText env shell ++ "/").toList =
      above.toList ++ '/' :: (app.toList ++ '/' :: ("completions".toList ++ ['/'])) := by
    simp [hfolder]
  rw [Path.ofText, hchars, Path.partsOf_append_slash, Path.partsOf_append_slash, hname,
    Path.partsOf_of_isPart happ, List.length_append, List.length_append, List.length_singleton,
    List.length_singleton]
  omega

theorem parts_folderText_ne_nil (env : Environment) (shell : Shell) :
    (Path.ofText (folderText env shell ++ "/")).parts ≠ [] := by
  have hlength := two_le_length_parts env shell
  apply List.ne_nil_of_length_pos
  omega

/-- A text below the folder for a shell leads there from the folder, wherever that is. -/
theorem userPath_below_folderText (s : Setting) (shell : Shell) (file : String) :
    s.userPath (folderText s.environment shell ++ "/" ++ file) =
      (s.userPath (folderText s.environment shell ++ "/")).map fun folder =>
        folder.below (Path.partsOf file.toList) := by
  unfold Setting.userPath Path.ofUser?
  rw [ofText_below_folderText, Path.expandHome?_below (parts_folderText_ne_nil s.environment shell)]
  cases (Path.ofText (folderText s.environment shell ++ "/")).expandHome? s.homes <;> rfl

theorem default_builtIn (s : Setting) (shell : Shell) (name : String) :
    default s shell.name name (Config.default s.environment) =
      (fill s (Config.defaultTemplate s.environment shell) name).map Path.text := by
  have htemplate : template (Config.default s.environment) shell.name =
      .ok (Config.defaultTemplate s.environment shell) :=
    Config.template_eq_ok_iff.2 ⟨_, rfl, Config.lookup_builtIns s.environment shell⟩
  have hbind : default s shell.name name (Config.default s.environment) =
      fill s (Config.defaultTemplate s.environment shell) name >>= fun path => pure path.text := by
    rw [default, htemplate]
    rfl
  rw [hbind]
  cases fill s (Config.defaultTemplate s.environment shell) name <;> rfl

theorem fill_defaultTemplate (hdata : shell = .bash → HasFixedData s.environment) (name : String) :
    fill s (Config.defaultTemplate s.environment shell) name =
      (s.userPath (folderText s.environment shell ++ "/")).map fun folder =>
        folder.below (Path.partsOf (fileName shell name).toList) := by
  rw [fill, defaultTemplate_eq, replace_append_slash, replace_folderText hdata, replace_fileName,
    userPath_below_folderText]

theorem isPart_fileName_namePlace (shell : Shell) : Path.IsPart (fileName shell namePlace) := by
  cases shell <;> decide

theorem parts_ne_nil_of_userPath {folder : Path}
    (hfolder : s.userPath (folderText s.environment shell ++ "/") = .ok folder) : folder.parts ≠ [] :=
  Path.parts_ne_nil_of_expandHome? (two_le_length_parts s.environment shell)
    (Setting.userPath_eq_ok_iff.1 hfolder)

/-- The usual place of a program's script, for any name, lies in the folder of the template of the shell exactly
if what the name gives is a single part other than two dots; with a name that is a part of a path it is the file of
that name there. The place is known exactly if the template refers to no unknown home folder. -/
theorem usual_place_liesIn_folder_iff (hdata : shell = .bash → HasFixedData s.environment) (name : String) :
    (∀ usual, s.userPath (Config.defaultTemplate s.environment shell) = .ok usual →
      ∃ path, default s shell.name name (Config.default s.environment) = .ok path.text ∧
        Path.ofText path.text = path ∧
        (path.parent = usual.parent ↔ ∃ file, Path.partsOf (fileName shell name).toList = [file]) ∧
        (path.LiesIn usual.parent ↔
          ∃ file, file ≠ ".." ∧ Path.partsOf (fileName shell name).toList = [file]) ∧
        (Path.IsPart (fileName shell name) → path = usual.parent.below [fileName shell name])) ∧
      ∀ fault, s.userPath (Config.defaultTemplate s.environment shell) = .error fault →
        default s shell.name name (Config.default s.environment) = .error fault := by
  have htemplate : s.userPath (Config.defaultTemplate s.environment shell) =
      (s.userPath (folderText s.environment shell ++ "/")).map fun folder =>
        folder.below [fileName shell namePlace] := by
    rw [defaultTemplate_eq, userPath_below_folderText,
      Path.partsOf_of_isPart (isPart_fileName_namePlace shell)]
  have hfill := fill_defaultTemplate hdata name
  rw [htemplate, default_builtIn]
  cases hfolder : s.userPath (folderText s.environment shell ++ "/") with
  | error fault =>
    rw [hfolder] at hfill
    rw [hfill]
    refine ⟨fun _ husual => (by cases husual), fun _ hfault => ?_⟩
    cases hfault
    rfl
  | ok folder =>
    rw [hfolder] at hfill
    have hne := parts_ne_nil_of_userPath hfolder
    have hparent : (folder.below [fileName shell namePlace]).parent = folder :=
      (Path.parent_below_eq_iff hne _).2 ⟨_, rfl⟩
    refine ⟨fun usual husual => ?_, fun _ hfault => (by cases hfault)⟩
    obtain rfl : folder.below [fileName shell namePlace] = usual := by cases husual; rfl
    rw [hparent]
    refine ⟨folder.below (Path.partsOf (fileName shell name).toList), ?_,
      Setting.ofText_text_of_userPath hfill, Path.parent_below_eq_iff hne _, Path.liesIn_below_iff,
      fun hpart => by rw [Path.partsOf_of_isPart hpart]⟩
    rw [hfill]
    rfl

end Places

/-- The script of a program with a plain name lies in the folder for its shell. -/
theorem usual_place_liesIn_folder_of_tool :
    let folder : Path := ⟨.root, ["home", "me", ".local", "share", "bash-completion", "completions"]⟩
    (Shell.bash = .bash → HasFixedData Setting.ofNotes.environment) ∧
      Setting.ofNotes.userPath (Config.defaultTemplate Setting.ofNotes.environment .bash) =
        .ok (folder.below [namePlace]) ∧
      ∃ path, default .ofNotes "bash" "tool" (Config.default Setting.ofNotes.environment) = .ok path.text ∧
        path.LiesIn folder ∧ path = folder.below ["tool"] := by
  intro folder
  have hdata : Shell.bash = .bash → HasFixedData Setting.ofNotes.environment := by
    intro _ data hfilled
    cases hfilled
  have husual : Setting.ofNotes.userPath (Config.defaultTemplate Setting.ofNotes.environment .bash) =
      .ok (folder.below [namePlace]) := by
    rfl
  obtain ⟨path, hdefault, _, _, hlies, hpart⟩ := (usual_place_liesIn_folder_iff hdata "tool").1 _ husual
  exact ⟨hdata, husual, path, hdefault, hlies.2 ⟨"tool", by decide, by decide⟩, hpart (by decide)⟩

/-- A name that climbs out of the folder: with it, the usual place of a script is that of a file which the shell
of the user runs when it starts. -/
theorem usual_place_of_climbing_name :
    let name := "../../../../.bashrc"
    let run : Fields := [("name", .text "run")]
    let node : Fields := [("name", .text name), ("commands", .list [.object run])]
    let folder : Path := ⟨.root, ["home", "me", ".local", "share", "bash-completion", "completions"]⟩
    let path := folder.below ["..", "..", "..", "..", ".bashrc"]
    let text := "/home/me/.local/share/bash-completion/completions/../../../../.bashrc"
    (checkDocument (.object node)).problems = [] ∧
      Program.ofDocument (.object node) = .ok { name, commands := [{ name := "run" }] } ∧
      Setting.ofNotes.userPath (Config.defaultTemplate Setting.ofNotes.environment .bash) =
        .ok (folder.below [namePlace]) ∧
      default .ofNotes "bash" name (Config.default Setting.ofNotes.environment) = .ok text ∧
      Path.ofText text = path ∧ path.parent ≠ folder ∧ ¬ path.LiesIn folder ∧
      path.collapsed = ⟨.root, ["home", "me", ".bashrc"]⟩ := by
  intro name run node folder path text
  have hrun : IsCommand run := isCommand_of_name (by decide)
  have hnode : IsProgram node :=
    isProgram_of_commands (by decide) (List.forall_mem_singleton.2 hrun) (by decide)
  have hread : Command.ofDocument (.object run) = .ok { name := "run" } := by
    rw [Command.ofDocument_object]
    rfl
  have hdefault : default .ofNotes "bash" "../../../../.bashrc" (Config.default Setting.ofNotes.environment) =
      .ok "/home/me/.local/share/bash-completion/completions/../../../../.bashrc" := by
    rfl
  refine ⟨problems_checkDocument_eq_nil_iff.2 ⟨node, rfl, hnode⟩,
    Program.ofDocument_of_command name (by decide) hread, rfl, hdefault, by decide, by decide, ?_, by decide⟩
  rw [Path.liesIn_below_iff]
  rintro ⟨file, _, hparts⟩
  cases hparts

end Destination

end Tabsmith
