import Tabsmith.Proofs.Generating

/-!
Where generating a script writes. The text that names the destination comes from the user, from the
configuration or from the environment, and its path starts at the root exactly if the text leads from
there. Only the words of an order are asked to do so.
-/

namespace Tabsmith

open FileTree

/-- All files of two trees are the same but the one at a path. -/
def FileTree.SameFilesBeside (workFolder : Place) (p : Path) (before after : FileTree) : Prop :=
  ∀ place content, after.placeOf workFolder p ≠ .ok place →
    (after.lookup place = some (.file content) ↔ before.lookup place = some (.file content))

theorem FileTree.Prepared.sameFilesBeside {workFolder place : Place} {p : Path}
    {before made : FileTree} (hready : Prepared workFolder p before made place)
    (content : ByteArray) :
    SameFilesBeside workFolder p before (made.put place (.file content)) := by
  intro other found hother
  have hdiffers : other ≠ place := by
    rintro rfl
    exact hother (hready.placeOf_put content)
  rw [lookup_put_of_ne made hdiffers]
  exact hready.grown.sameFiles other found

/-- The text of the path that a word for a destination stands for: the word itself, which starts with
a slash or a tilde, or the template of the configuration that is loaded once some notes were taken,
filled in. -/
inductive Destination.Spells (s : Setting) (shell : Shell) (program : Program) (notes : List Note) :
    String → String → Prop
  | own {word : String} (hword : word.toList.head? = some '/' ∨ word.toList.head? = some '~') :
      Spells s shell program notes word word
  | usual {config : Fields} {template : String}
      (hload : (outcomeFrom (Config.load s) notes).1 = .ok config)
      (htemplate : Destination.template config shell.name = .ok template) :
      Spells s shell program notes Order.usualPlace
        (Text.replace template namePlace program.name)

theorem Destination.Names.exists_text {s : Setting} {shell : Shell} {program : Program}
    {notes : List Note} {word : String} {path : Path}
    (hnames : Destination.Names s shell program notes word path)
    (hword : Order.isDestination word = true) :
    ∃ text, Destination.Spells s shell program notes word text ∧ s.userPath text = .ok path := by
  unfold Names at hnames
  by_cases husual : word = Order.usualPlace
  · rw [if_pos husual] at hnames
    obtain ⟨config, template, hload, htemplate, hfill⟩ := hnames
    subst husual
    exact ⟨_, .usual hload htemplate, hfill⟩
  · rw [if_neg husual] at hnames
    have hhead : word.toList.head? = some '/' ∨ word.toList.head? = some '~' := by
      simpa [Order.isDestination, husual] using hword
    exact ⟨word, .own hhead, hnames⟩

theorem Plan.carryOut_install_files (s : Setting) (files : FileTree) (shell : Shell)
    (script path : String) (isUsual : Bool) :
    ((Plan.install shell script path isUsual).carryOut s files).2 =
      (Destination.tryWrite s.workFolder script path files).2 := by
  rw [Plan.carryOut]
  rcases Destination.tryWrite s.workFolder script path files with ⟨fault | refused, after⟩
  · rfl
  · cases refused <;> rfl

namespace Generate

variable {s : Setting}

/-- Only a word that an order takes for a destination makes a plan to write. -/
theorem isDestination_of_plan {name source word script path : String} {rest : List String}
    {shell : Shell} {isUsual : Bool} {after : List Note}
    (hplan : outcomeFrom (plan s (name :: source :: word :: rest)) [] =
      (.ok (.install shell script path isUsual), after)) :
    Order.isDestination word = true := by
  by_contra hword
  have horder : ∃ message, Order.ofWords (name :: source :: word :: rest) = .error message := by
    unfold Order.ofWords
    dsimp only
    cases Shell.ofName? name with
    | none => exact ⟨_, rfl⟩
    | some known => exact ⟨_, if_neg hword⟩
  obtain ⟨message, horder⟩ := horder
  rw [plan, horder] at hplan
  cases hplan

/-- What a run leaves: all files as they were, or all but the one at the path that it planned to
write. -/
theorem run_leaves (s : Setting) (words : List String) :
    SameFiles s.files (run s words).files ∨
      ∃ shell script path isUsual after made place content,
        outcomeFrom (plan s words) [] = (.ok (.install shell script path isUsual), after) ∧
        Prepared s.workFolder (Path.ofText path) s.files made place ∧
        (run s words).files = made.put place (.file content) := by
  rcases hplan : outcomeFrom (plan s words) [] with ⟨fault | found, after⟩
  · have houtcome : (plan s words).outcome = (.error fault, after) := hplan
    unfold run
    rw [houtcome]
    exact .inl fun _ _ => Iff.rfl
  · obtain ⟨_, hfiles⟩ := run_eq hplan
    rw [hfiles]
    cases found with
    | reply code text => exact .inl fun _ _ => Iff.rfl
    | install shell script path isUsual =>
      rw [Plan.carryOut_install_files]
      rcases Destination.tryWrite_leaves s.workFolder script path s.files with
        hsame | ⟨made, place, content, hready, hput⟩
      · exact .inl hsame
      · exact .inr ⟨shell, script, path, isUsual, after, made, place, content, rfl, hready, hput⟩

end Generate

/-- A text with a slash or a tilde in front leads from the root if all home folders do. -/
theorem Setting.isAbsolute_of_userPath {s : Setting} {text : String} {path : Path}
    (htext : text.toList.head? = some '/' ∨ text.toList.head? = some '~')
    (hhomes : ∀ first folder, s.homes.of? first = some folder → folder.toList.head? = some '/')
    (hpath : s.userPath text = .ok path) : path.isAbsolute = true := by
  have hfound := Setting.userPath_eq_ok_iff.1 hpath
  apply (Path.isAbsolute_of_ofUser? hfound).2
  rcases htext with hroot | htilde
  · exact .inl hroot
  · obtain ⟨first, hfirst⟩ := Path.exists_hasTilde htilde
    cases hfolder : s.homes.of? first with
    | none =>
      have hlacks : Path.LacksHome s.homes text := ⟨first, hfirst, by simp [hfolder]⟩
      rw [Path.ofUser?_eq_none_iff.2 hlacks] at hfound
      cases hfound
    | some folder => exact .inr ⟨first, folder, hfirst, hfolder, hhomes first folder hfolder⟩

/-- Whatever a run comes to, it changes no file but the one at the path that its destination spells.
This path starts at the root exactly if the text leads from there, as all do that users write
themselves if the home folders are given from the root. -/
theorem generate_writes_from_root_iff (s : Setting) (words : List String) :
    SameFiles s.files (Generate.run s words).files ∨
      ∃ shell source word rest program text path,
        words = Shell.name shell :: source :: word :: rest ∧
        (Source.load s source).outcome = .ok program ∧
        Destination.Spells s shell program
          ((Source.load s source).notes ++ [Generate.scriptNote shell program]) word text ∧
        s.userPath text = .ok path ∧
        SameFilesBeside s.workFolder path s.files (Generate.run s words).files ∧
        (path.isAbsolute = true ↔ Path.LeadsFromRoot s.homes text) ∧
        (word ≠ Order.usualPlace →
          (∀ first folder, s.homes.of? first = some folder → folder.toList.head? = some '/') →
          path.isAbsolute = true) := by
  rcases Generate.run_leaves s words with hsame |
    ⟨shell, script, written, isUsual, after, made, place, content, hplan, hready, hput⟩
  · exact .inl hsame
  · rcases Generate.plan_cases hplan with ⟨_, _, hreply, _⟩ |
      ⟨shell, source, word, rest, program, path, isUsual, rfl, hload, hnames, hinstall⟩
    · cases hreply
    · cases hinstall
      have hword := Generate.isDestination_of_plan hplan
      obtain ⟨text, hspells, hpath⟩ := hnames.exists_text hword
      rw [hnames.ofText_text] at hready
      rw [hput]
      refine .inr ⟨shell, source, word, rest, program, text, path, rfl, hload, hspells, hpath,
        hready.sameFilesBeside content,
        Path.isAbsolute_of_ofUser? (Setting.userPath_eq_ok_iff.1 hpath), fun hown hhomes => ?_⟩
      cases hspells with
      | own hhead => exact Setting.isAbsolute_of_userPath hhead hhomes hpath
      | usual => exact absurd rfl hown

/-- A setting in which the folder for data is given from the working folder. -/
def Setting.ofRelativeData : Setting :=
  { Setting.ofNotes with environment := [("HOME", "/home/me"), ("XDG_DATA_HOME", "data")] }

/-- A script for the usual place is written in the working folder, even if no byte of it is. -/
theorem generate_writes_in_work_folder :
    let path : Path := ⟨.workFolder, ["data", "bash-completion", "completions", "tool"]⟩
    let done := Generate.run .ofRelativeData ["bash", "m:p", "default"]
    path.isAbsolute = false ∧ Setting.ofRelativeData.files.find ["work"] path = .error .missing ∧
      ∃ content, done.files.find ["work"] path = .ok (.file content) := by
  intro path done
  have hload : (Source.load .ofRelativeData "m:p").outcome = .ok .ofTool := by
    rw [Source.IsReference.load_eq ⟨⟨.workFolder, ["m:p"]⟩, rfl, rfl, by simp⟩]
    rfl
  have hconfig (notes : List Note) : (outcomeFrom (Config.load .ofRelativeData) notes).1 =
      .ok (Config.default Setting.ofRelativeData.environment) := by
    rfl
  have hdefault : Destination.default .ofRelativeData "bash" "tool"
      (Config.default Setting.ofRelativeData.environment) =
        .ok "data/bash-completion/completions/tool" := by
    rfl
  obtain ⟨notes, hplan⟩ := Generate.plan_of_usual .bash [] hload hconfig hdefault
  have hfiles : done.files = _ := (Generate.run_eq hplan).2
  have hwritten (script : String) : ∃ content,
      (Destination.tryWrite ["work"] script "data/bash-completion/completions/tool"
        Setting.ofRelativeData.files).2.find ["work"] path = .ok (.file content) := by
    rw [Destination.tryWrite, Destination.write, FileTask.writeText]
    cases Text.surrogateRun? script with
    | none => exact ⟨_, rfl⟩
    | some run => exact ⟨_, rfl⟩
  refine ⟨rfl, rfl, ?_⟩
  rw [hfiles, Plan.carryOut_install_files]
  exact hwritten (Shell.bash.script .ofTool)

end Tabsmith
