import Tabsmith.Destination
import Tabsmith.Proofs.Document.Toml
import Tabsmith.Proofs.Merge
import Tabsmith.Proofs.Path
import Tabsmith.Source

/-!
The configuration that a user's file gives, for any content of the file. It gives a template for each
shell, the user's own or the built-in one, unless the file sets something that is no text; and the file
can be such that reading it breaks down.
-/

namespace Tabsmith

open Document

namespace Config

/-- The template for a shell that a table of a user's gives: the one that it sets, or the built-in one
if it sets nothing for the shell. -/
inductive GivesTemplate (env : Environment) (table : Fields) (shell : Shell) : String → Prop
  | own {paths : Fields} {template : String} (hpaths : List.lookup "paths" table = some (.object paths))
      (hshell : List.lookup shell.name paths = some (.text template)) :
      GivesTemplate env table shell template
  | builtIn (hpaths : List.lookup "paths" table = none) :
      GivesTemplate env table shell (defaultTemplate env shell)
  | builtInBeside {paths : Fields} (hpaths : List.lookup "paths" table = some (.object paths))
      (hshell : List.lookup shell.name paths = none) :
      GivesTemplate env table shell (defaultTemplate env shell)

/-- What reading a configuration file with some content breaks down for. -/
inductive BreaksDown (content : ByteArray) : Breakdown → Prop
  | undecodable (htext : String.fromUTF8? content = none) : BreaksDown content .undecodable
  | longNumber {text : String} {digits : Nat} (htext : String.fromUTF8? content = some text)
      (hread : Toml.read text = .error (.longNumber digits)) :
      BreaksDown content (.longNumber digits)
  | tooDeep {text stage : String} (htext : String.fromUTF8? content = some text)
      (hread : Toml.read text = .error (.tooDeep stage)) : BreaksDown content (.tooDeep stage)
  | noPaths {text : String} {table : Fields} {paths : Value}
      (htext : String.fromUTF8? content = some text) (hread : Toml.read text = .ok (.object table))
      (hpaths : List.lookup "paths" table = some paths) (helements : paths.elements? = none) :
      BreaksDown content .wrongKind
  | unwritable {text : String} {table : Fields} {paths shell : Value} {shells : List Value}
      (htext : String.fromUTF8? content = some text) (hread : Toml.read text = .ok (.object table))
      (hpaths : List.lookup "paths" table = some paths) (helements : paths.elements? = some shells)
      (hshell : shell ∈ shells) (hunwritable : shell.isUnwritable = true) :
      BreaksDown content .unwritable

/-- A file with some content stands at the path of the configuration when it is read, after some
notes. -/
structure Holds (s : Setting) (notes : List Note) (path : Path) (content : ByteArray) : Prop where
  place : ∃ written, Config.file s = .ok written ∧ s.userPath written.text = .ok path
  found : ∃ entry, (s.after notes).find? path = .ok (some entry)
  content : (s.after (notes ++ [Source.openingNote path])).find? path = .ok (some (.file content))

/-! ## Templates -/

section Templates

variable {env : Environment} {table : Fields} {shell : Shell} {template : String}

/-- The built-in templates by the names of their shells. -/
def builtIns (env : Environment) : Fields :=
  Shell.all.map fun shell => (shell.name, .text (defaultTemplate env shell))

theorem lookup_builtIns (env : Environment) (shell : Shell) :
    List.lookup shell.name (builtIns env) = some (.text (defaultTemplate env shell)) := by
  cases shell <;> rfl

theorem lookup_mergedPaths {paths : Fields} (hkeys : (paths.map Prod.fst).Nodup) :
    List.lookup shell.name (Value.mergeFields (builtIns env) paths) =
      some ((List.lookup shell.name paths).getD (.text (defaultTemplate env shell))) := by
  rw [Value.lookup_mergeFields hkeys, lookup_builtIns]
  cases List.lookup shell.name paths with
  | none => rfl
  | some value => exact congrArg some (Value.mergeInto_of_no_nest (by simp) (by simp) value)

theorem lookup_paths (hkeys : Value.KeysDiffer (.object table)) (env : Environment) :
    List.lookup "paths" ((default env).merge table) =
      some (match List.lookup "paths" table with
        | none => .object (builtIns env)
        | some (.object paths) => .object (Value.mergeFields (builtIns env) paths)
        | some other => other) := by
  rw [Fields.lookup_merge hkeys.nodup]
  cases List.lookup "paths" table with
  | none => rfl
  | some paths => cases paths <;> rfl

theorem template_eq_ok_iff {config : Fields} {name : String} :
    Destination.template config name = .ok template ↔
      ∃ paths, List.lookup "paths" config = some (.object paths) ∧
        List.lookup name paths = some (.text template) := by
  unfold Destination.template
  cases List.lookup "paths" config with
  | none => simp [throw_eq_error]
  | some paths =>
    cases paths with
    | object paths =>
      dsimp only
      cases hname : List.lookup name paths with
      | none => simp [hname, throw_eq_error]
      | some value => cases value <;> simp [hname, throw_eq_error, pure_eq_ok]
    | _ => simp [throw_eq_error]

/-- The template that a merged configuration has for a shell is the one that the user's table gives. -/
theorem template_merge_iff (hkeys : Value.KeysDiffer (.object table)) :
    Destination.template ((default env).merge table) shell.name = .ok template ↔
      GivesTemplate env table shell template := by
  rw [template_eq_ok_iff, lookup_paths hkeys]
  constructor
  · rintro ⟨merged, hmerged, hshell⟩
    cases hpaths : List.lookup "paths" table with
    | none =>
      rw [hpaths] at hmerged
      cases hmerged
      rw [lookup_builtIns] at hshell
      cases hshell
      exact .builtIn hpaths
    | some paths =>
      rw [hpaths] at hmerged
      cases paths with
      | object own =>
        cases hmerged
        rw [lookup_mergedPaths (hkeys.lookup hpaths).nodup] at hshell
        cases hown : List.lookup shell.name own with
        | none =>
          rw [hown] at hshell
          cases hshell
          exact .builtInBeside hpaths hown
        | some value =>
          rw [hown] at hshell
          cases hshell
          exact .own hpaths hown
      | _ => cases hmerged
  · intro hgives
    cases hgives with
    | own hpaths hshell =>
      rw [hpaths]
      exact ⟨_, rfl, by rw [lookup_mergedPaths (hkeys.lookup hpaths).nodup, hshell]; rfl⟩
    | builtIn hpaths =>
      rw [hpaths]
      exact ⟨_, rfl, lookup_builtIns env shell⟩
    | builtInBeside hpaths hshell =>
      rw [hpaths]
      exact ⟨_, rfl, by rw [lookup_mergedPaths (hkeys.lookup hpaths).nodup, hshell]; rfl⟩

end Templates

/-! ## Reading the file -/

/-- The configuration of a user whose file, at `path`, has some content. -/
def ofContent (env : Environment) (path : Path) (content : ByteArray) : Noted Fields := do
  let table ← parse path content
  let shells ← configuredShells table
  noteStrays path (shells.filter fun shell => !isShell shell)
  pure ((default env).merge table)

theorem outcomeFrom_ofExcept {α : Type} (result : Except Fault α) (notes : List Note) :
    outcomeFrom (Noted.ofExcept result) notes = (result, notes) :=
  rfl

theorem outcomeFrom_load {s : Setting} {notes : List Note} {path : Path} {content : ByteArray}
    (hholds : Holds s notes path content) : outcomeFrom (load s) notes =
      outcomeFrom (ofContent s.environment path content) (notes ++ [Source.openingNote path]) := by
  obtain ⟨⟨written, hfile, hpath⟩, ⟨entry, hfound⟩, hcontent⟩ := hholds
  have hnote : outcomeFrom (Noted.note .info s!"Loading {path.text}") notes =
      (.ok (), notes ++ [Source.openingNote path]) :=
    rfl
  simp only [load, loadFrom, ofContent, outcomeFrom_bind, outcomeFrom_ofExcept, outcomeFrom_get,
    hfile, hpath, hfound, hnote, hcontent]

theorem isShell_of_isUnwritable {value : Value} (hvalue : value.isUnwritable = true) :
    isShell value = false := by
  cases value with
  | text word => cases hvalue
  | _ => rfl

theorem outcome_noteStrays (path : Path) (found : List Value) (notes : List Note) :
    (outcomeFrom (noteStrays path found) notes).1 =
      if found.any Value.isUnwritable then .error (.breakdown .unwritable) else .ok () := by
  induction found generalizing notes with
  | nil => rfl
  | cons value rest ih =>
    have hstep : noteStrays path (value :: rest) =
        (if value.isUnwritable then throw (.breakdown .unwritable)
          else modify (· ++ [strayNote path value])) >>= fun _ => noteStrays path rest :=
      rfl
    rw [hstep, outcomeFrom_bind]
    by_cases hvalue : value.isUnwritable = true
    · rw [if_pos hvalue, List.any_cons, hvalue]
      rfl
    · rw [if_neg hvalue, outcomeFrom_modify, ih, List.any_cons, eq_false_of_ne_true hvalue]
      rfl

section Content

variable {env : Environment} {path : Path} {content : ByteArray} {notes : List Note}
variable {text : String} {table : Fields}

theorem outcome_of_undecodable (htext : String.fromUTF8? content = none) :
    (outcomeFrom (ofContent env path content) notes).1 = .error (.breakdown .undecodable) := by
  unfold ofContent parse
  rw [htext]
  rfl

/-- The failure to read a file that is no document. -/
def faultOf (path : Path) : Document.ReadFault → Fault
  | .malformed detail => .unusable (.unreadable path.text detail)
  | .longNumber digits => .breakdown (.longNumber digits)
  | .tooDeep stage => .breakdown (.tooDeep stage)

theorem outcome_of_readFault {fault : Document.ReadFault}
    (htext : String.fromUTF8? content = some text) (hread : Toml.read text = .error fault) :
    (outcomeFrom (ofContent env path content) notes).1 = .error (faultOf path fault) := by
  unfold ofContent parse
  rw [htext]
  dsimp only
  rw [hread]
  cases fault <;> rfl

theorem outcome_of_table (htext : String.fromUTF8? content = some text)
    (hread : Toml.read text = .ok (.object table)) :
    (outcomeFrom (ofContent env path content) notes).1 =
      match List.lookup "paths" table with
      | none => .ok ((default env).merge table)
      | some paths =>
        match paths.elements? with
        | none => .error (.breakdown .wrongKind)
        | some shells =>
          if shells.any Value.isUnwritable then .error (.breakdown .unwritable)
          else .ok ((default env).merge table) := by
  have hstrays (shells : List Value) :
      (shells.filter fun shell => !isShell shell).any Value.isUnwritable =
        shells.any Value.isUnwritable := by
    rw [List.any_filter]
    congr 1
    funext shell
    cases hshell : shell.isUnwritable with
    | true => simp [isShell_of_isUnwritable hshell]
    | false => simp
  simp only [ofContent, parse, configuredShells, htext, hread, outcomeFrom_bind, outcomeFrom_pure]
  cases List.lookup "paths" table with
  | none => rfl
  | some paths =>
    dsimp only
    cases paths.elements? with
    | none => rfl
    | some shells =>
      have hnoted := outcome_noteStrays path (shells.filter fun shell => !isShell shell) notes
      rw [hstrays] at hnoted
      simp only [outcomeFrom_pure]
      rcases hrun : outcomeFrom (noteStrays path (shells.filter fun shell => !isShell shell)) notes
        with ⟨result, after⟩
      rw [hrun] at hnoted
      dsimp only at hnoted
      subst hnoted
      by_cases hany : shells.any Value.isUnwritable = true
      · rw [if_pos hany, if_pos hany]
      · rw [if_neg hany, if_neg hany]

/-- What comes of a file: it breaks reading down, it is no document, or its table is merged over the
built-in configuration. -/
theorem ofContent_cases (env : Environment) (path : Path) (content : ByteArray) (notes : List Note) :
    (∃ cause, BreaksDown content cause ∧
      (outcomeFrom (ofContent env path content) notes).1 = .error (.breakdown cause)) ∨
    (∃ fault, (outcomeFrom (ofContent env path content) notes).1 = .error (.unusable fault)) ∨
    ∃ text table, String.fromUTF8? content = some text ∧ Toml.read text = .ok (.object table) ∧
      (outcomeFrom (ofContent env path content) notes).1 = .ok ((default env).merge table) := by
  cases htext : String.fromUTF8? content with
  | none => exact .inl ⟨_, .undecodable htext, outcome_of_undecodable htext⟩
  | some text =>
    cases hread : Toml.read text with
    | error fault =>
      cases fault with
      | malformed detail => exact .inr (.inl ⟨_, outcome_of_readFault htext hread⟩)
      | longNumber digits => exact .inl ⟨_, .longNumber htext hread, outcome_of_readFault htext hread⟩
      | tooDeep stage => exact .inl ⟨_, .tooDeep htext hread, outcome_of_readFault htext hread⟩
    | ok value =>
      obtain ⟨table, rfl, _⟩ := Toml.keysDiffer_read hread
      rw [outcome_of_table htext hread]
      cases hpaths : List.lookup "paths" table with
      | none => exact .inr (.inr ⟨text, table, rfl, hread, rfl⟩)
      | some paths =>
        dsimp only
        cases helements : paths.elements? with
        | none => exact .inl ⟨_, .noPaths htext hread hpaths helements, rfl⟩
        | some shells =>
          dsimp only
          by_cases hany : shells.any Value.isUnwritable = true
          · obtain ⟨shell, hshell, hunwritable⟩ := List.any_eq_true.1 hany
            rw [if_pos hany]
            exact .inl ⟨_, .unwritable htext hread hpaths helements hshell hunwritable, rfl⟩
          · rw [if_neg hany]
            exact .inr (.inr ⟨text, table, rfl, hread, rfl⟩)

theorem BreaksDown.outcome {cause : Breakdown} (hbreaks : BreaksDown content cause) :
    (outcomeFrom (ofContent env path content) notes).1 = .error (.breakdown cause) := by
  cases hbreaks with
  | undecodable htext => exact outcome_of_undecodable htext
  | longNumber htext hread => exact outcome_of_readFault htext hread
  | tooDeep htext hread => exact outcome_of_readFault htext hread
  | noPaths htext hread hpaths helements =>
    rw [outcome_of_table htext hread, hpaths]
    dsimp only
    rw [helements]
  | unwritable htext hread hpaths helements hshell hunwritable =>
    rw [outcome_of_table htext hread, hpaths]
    dsimp only
    rw [helements]
    exact if_pos (List.any_eq_true.2 ⟨_, hshell, hunwritable⟩)

/-- What a file gives does not depend on the notes taken before. -/
theorem outcome_ofContent (env : Environment) (path : Path) (content : ByteArray)
    (notes others : List Note) :
    (outcomeFrom (ofContent env path content) notes).1 =
      (outcomeFrom (ofContent env path content) others).1 := by
  cases htext : String.fromUTF8? content with
  | none => rw [outcome_of_undecodable htext, outcome_of_undecodable htext]
  | some text =>
    cases hread : Toml.read text with
    | error fault => rw [outcome_of_readFault htext hread, outcome_of_readFault htext hread]
    | ok value =>
      obtain ⟨table, rfl, _⟩ := Toml.keysDiffer_read hread
      rw [outcome_of_table htext hread, outcome_of_table htext hread]

end Content

/-- The configuration is the same whatever notes were taken before it is loaded. -/
def IgnoresNotes (s : Setting) : Prop :=
  ∀ notes, (outcomeFrom (load s) notes).1 = (outcomeFrom (load s) []).1

/-- Notes that are not kept among the files do not get into the configuration. -/
theorem ignoresNotes_of_keep {s : Setting} (hkeep : ∀ notes, s.keep notes s.files = s.files) :
    IgnoresNotes s := by
  have hafter (notes : List Note) : s.after notes = s := by
    rw [Setting.after, hkeep]
  intro notes
  unfold load
  rw [outcomeFrom_bind, outcomeFrom_bind, outcomeFrom_ofExcept, outcomeFrom_ofExcept]
  cases file s with
  | error fault => rfl
  | ok written =>
    dsimp only
    rw [outcomeFrom_bind, outcomeFrom_bind, outcomeFrom_ofExcept, outcomeFrom_ofExcept]
    cases s.userPath written.text with
    | error fault => rfl
    | ok path =>
      dsimp only
      unfold loadFrom
      simp only [outcomeFrom_bind, outcomeFrom_get, outcomeFrom_ofExcept, hafter]
      rcases s.find? path with fault | _ | _ | content
      · rfl
      · rfl
      · rfl
      · exact outcome_ofContent s.environment path content _ _

end Config

theorem Destination.default_eq_ok_iff {s : Setting} {shell name place : String} {config : Fields} :
    Destination.default s shell name config = .ok place ↔
      ∃ template path, Destination.template config shell = .ok template ∧
        Destination.fill s template name = .ok path ∧ place = path.text := by
  constructor
  · intro hdefault
    obtain ⟨template, htemplate, hrest⟩ := bind_eq_ok_iff.1 hdefault
    obtain ⟨path, hfill, hplace⟩ := bind_eq_ok_iff.1 hrest
    cases hplace
    exact ⟨template, path, htemplate, hfill, rfl⟩
  · rintro ⟨template, path, htemplate, hfill, rfl⟩
    exact bind_eq_ok_iff.2 ⟨template, htemplate, bind_eq_ok_iff.2 ⟨path, hfill, rfl⟩⟩

theorem Setting.exists_userPath_iff {s : Setting} {text : String} :
    (∃ path, s.userPath text = .ok path) ↔ ¬ Path.LacksHome s.homes text := by
  simp only [userPath_eq_ok_iff, ← Path.ofUser?_eq_none_iff]
  exact Option.ne_none_iff_exists'.symm

theorem fromUTF8?_toUTF8 (text : String) : String.fromUTF8? text.toUTF8 = some text := by
  unfold String.fromUTF8?
  exact dif_pos text.isValidUTF8

/-- A setting with a configuration file of some content. -/
def Setting.ofConfiguration (content : ByteArray) : Setting :=
  { environment := [("HOME", "/home/me")]
    workFolder := ["work"]
    files := ⟨[(["work"], .folder), (["home"], .folder), (["home", "me"], .folder),
      (["home", "me", ".config"], .folder), (["home", "me", ".config", "shellcomp"], .folder),
      (["home", "me", ".config", "shellcomp", "config.toml"], .file content)]⟩ }

theorem Config.holds_ofConfiguration (content : ByteArray) :
    Config.Holds (.ofConfiguration content) []
      ⟨.root, ["home", "me", ".config", "shellcomp", "config.toml"]⟩ content :=
  ⟨⟨_, rfl, rfl⟩, ⟨_, rfl⟩, rfl⟩

end Tabsmith
