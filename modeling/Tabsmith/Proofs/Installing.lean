import Tabsmith.Proofs.Installing.Choices

/-!
What the dialog to install does to the file tree. If it installs, it wrote the script of the loaded
program to the destination that the user gave, and asked before if the path led to something. If it
does not, or if the user breaks it off, all files are what they were.
-/

namespace Tabsmith

open FileTree

namespace Wizard

variable {s : Setting}

theorem error_of_success {shell path : String} {isDefault : Bool} {fault : Fault}
    (hfails : Destination.success s shell path isDefault = .error fault) :
    fault = .breakdown .noHome := by
  unfold Destination.success Setting.home Setting.userPath at hfails
  cases hhome : Path.ofUser? s.homes "~" with
  | none =>
    rw [hhome] at hfails
    cases hfails
    rfl
  | some home =>
    rw [hhome] at hfails
    dsimp only [bind, Except.bind, pure, Except.pure] at hfails
    split at hfails <;> cases hfails

/-- What a plan to install comes to: the script is written, or the file tree refuses it and keeps
its files, or the run breaks down. -/
theorem carryOut_cases (s : Setting) (files : FileTree) (shell : Shell) (script : String)
    {path : Path} (hpath : Path.ofText path.text = path) (isUsual : Bool) :
    let done := carryOut s files (some (.install shell script path.text isUsual))
    (∃ made place, Prepared s.workFolder path files made place ∧
      done.1 = .ok true ∧ done.2.2 = made.put place (.file script.toUTF8)) ∨
    (done.1 = .ok false ∧ SameFiles files done.2.2) ∨
    ∃ cause, cause ≠ .interrupted ∧ done.1 = .error (.breakdown cause) := by
  have hcases := Destination.tryWrite_cases s.workFolder script path.text files
  rw [hpath] at hcases
  unfold carryOut
  rcases hcases with ⟨cause, after, hcause, hfails⟩ | ⟨refused, after, hsame, hrefused⟩ |
    ⟨made, place, hready, hwritten⟩
  · simp only [hfails]
    refine .inr (.inr ⟨cause, ?_, rfl⟩)
    rintro rfl
    exact hcause
  · simp only [hrefused]
    exact .inr (.inl ⟨rfl, hsame⟩)
  · simp only [hwritten]
    cases hsuccess : Destination.success s shell.name path.text isUsual with
    | ok text => exact .inl ⟨made, place, hready, rfl, rfl⟩
    | error fault =>
      cases error_of_success hsuccess
      exact .inr (.inr ⟨.noHome, by simp, rfl⟩)

/-- A run is a dialog that fails, or one that ends with a plan or without, and what that comes
to. -/
theorem run_cases (s : Setting) (source : Option String) (answers : List Answer) :
    (∃ fault, (run s source answers).outcome = .error fault ∧
      (run s source answers).files = s.files) ∨
    (∃ after, outcomeFrom (dialog s source) { answers := answers } = (.ok none, after) ∧
      (run s source answers).outcome = .ok false ∧ (run s source answers).files = s.files) ∨
    ∃ plan after, outcomeFrom (dialog s source) { answers := answers } = (.ok (some plan), after) ∧
      after.events <+: (run s source answers).events ∧
      (run s source answers).outcome = (carryOut s s.files (some plan)).1 ∧
      (run s source answers).files = (carryOut s s.files (some plan)).2.2 := by
  rcases hdialog : outcomeFrom (dialog s source) { answers := answers } with ⟨result, after⟩
  have hrun : (dialog s source).run.run { answers := answers } = (result, after) := hdialog
  unfold run
  rw [hrun]
  rcases result with fault | plan | plan
  · exact .inl ⟨fault, rfl, rfl⟩
  · exact .inr (.inl ⟨after, rfl, rfl, rfl⟩)
  · exact .inr (.inr ⟨plan, after, rfl, List.prefix_append _ _, rfl, rfl⟩)

/-- The dialog of a source that gives a program without a warning asks for the shell next. -/
theorem outcomeFrom_dialog {s : Setting} {source : String} {program : Program}
    (hsource : source ≠ "") (hload : (Source.load s source).outcome = .ok program)
    (hwarnings : (Source.load s source).warnings = []) (state : DialogState) :
    outcomeFrom (dialog s (some source)) state =
      outcomeFrom (withProgram s program)
        { state with
          events := state.events ++ banner.map fun line => .said line bannerStyle
          notes := state.notes ++ (Source.load s source).notes } := by
  have hbanner : outcomeFrom (banner.forM fun line => Dialog.say line bannerStyle) state =
      (.ok (), { state with
        events := state.events ++ banner.map fun line => .said line bannerStyle }) := by
    simp [banner, Dialog.say, Dialog.happen, outcomeFrom_bind]
  have hloading (before : DialogState) : outcomeFrom (loadProgram s source) before =
      (.ok (some program), { before with
        notes := before.notes ++ (Source.load s source).notes }) := by
    unfold loadProgram
    dsimp only
    rw [hload, hwarnings]
    rfl
  unfold dialog
  rw [outcomeFrom_bind, hbanner]
  dsimp only
  split
  next hnone => cases hnone
  next hempty => exact absurd (Option.some.inj hempty) hsource
  next heq =>
    cases heq
    rw [outcomeFrom_bind, outcomeFrom_pure]
    dsimp only
    rw [outcomeFrom_bind, hloading]

/-- A plan to install that is carried out comes to an installation. -/
theorem run_of_dialog {s : Setting} {source : Option String} {answers : List Answer}
    {after : DialogState} {shell : Shell} {script path text : String} {isUsual : Bool}
    {files : FileTree}
    (hdialog : outcomeFrom (dialog s source) { answers := answers } =
      (.ok (some (.install shell script path isUsual)), after))
    (hwritten : Destination.tryWrite s.workFolder script path s.files = (.ok none, files))
    (hsuccess : Destination.success s shell.name path isUsual = .ok text) :
    run s source answers =
      ⟨.ok true, after.events ++ [.said s!"\n✓ {text}" goodStyle], after.notes, files⟩ := by
  have hrun : (dialog s source).run.run { answers := answers } = _ := hdialog
  rw [run, hrun]
  simp only [carryOut, hwritten, hsuccess]
  rfl

end Wizard

open Wizard in
/-- A dialog that installs wrote the script of the loaded program to the absolute path that the user
gave, and changed nothing else but that folders on the way there may be new. If the path led to
something, the user agreed to replace it. Only where a folder on the way was missing may a file be
replaced unasked, by a path that goes back up with two dots. A dialog that does not install, or that
the user breaks off, leaves all files as they are. -/
theorem install_changes_destination_only (s : Setting) (source : Option String)
    (answers : List Answer) :
    let done := run s source answers
    (done.outcome = .ok false ∨ done.outcome = .error (.breakdown .interrupted) →
      SameFiles s.files done.files) ∧
    (done.outcome = .ok true → ∃ word program shell script path,
      IsSource source answers done.events word ∧ (Source.load s word).outcome = .ok program ∧
      generate (.text (Shell.name shell)) (.inr program) = .ok script ∧
      Chosen s answers done.events shell path ∧
      WrittenAt s.workFolder path script.toUTF8 s.files done.files ∧
      ∀ place entry, done.files.placeOf s.workFolder path = .ok place →
        s.files.lookup place = some entry →
          Agreed answers done.events ∨
            s.files.placeOf s.workFolder path = .error .missing ∧
              (s.files.IsRooted → ".." ∈ path.parts)) := by
  dsimp only
  rcases run_cases s source answers with ⟨fault, houtcome, hfiles⟩ | ⟨_, _, houtcome, hfiles⟩ |
    ⟨plan, after, hdialog, hevents, houtcome, hfiles⟩
  · rw [houtcome, hfiles]
    exact ⟨fun _ _ _ => Iff.rfl, by simp⟩
  · rw [houtcome, hfiles]
    exact ⟨fun _ _ _ => Iff.rfl, by simp⟩
  · have hbefore : DialogState.Follows answers { answers := answers } := rfl
    obtain ⟨_, _, harranged⟩ := dialog_ensures source _ _ _ hbefore hdialog
    obtain ⟨word, program, shell, path, hsource, hload, ⟨isUsual, rfl⟩, hchosen⟩ :=
      harranged _ hevents plan rfl
    obtain ⟨_, _, _, huser, _⟩ := hchosen.destination
    have hpath := Setting.ofText_text_of_userPath huser
    rw [houtcome, hfiles]
    rcases carryOut_cases s s.files shell (shell.script program) hpath isUsual with
      ⟨made, place, hready, htrue, hafter⟩ | ⟨hfalse, hsame⟩ | ⟨cause, hcause, hfails⟩
    · rw [htrue, hafter]
      refine ⟨by simp, fun _ => ⟨word, program, shell, _, path, hsource, hload,
        generate_of_load hload, hchosen, hready.writtenAt _, ?_⟩⟩
      intro other entry hother hstood
      rw [hready.placeOf_put] at hother
      cases hother
      rcases hready.find_cases hstood with hfind | hmissing
      · refine .inl (hchosen.agreed entry ?_)
        unfold Setting.find?
        rw [find?_of_find hready.askable hfind]
        rfl
      · exact .inr hmissing
    · rw [hfalse]
      exact ⟨fun _ => hsame, by simp⟩
    · rw [hfails]
      exact ⟨by simp [hcause], by simp⟩

open Wizard in
/-- An instance: the user agrees, and the notes are replaced. -/
theorem install_changes_destination_of_notes :
    let answers := [.given (.text "fish"), .given (.text "/work/notes"), .given (.bool true)]
    let done := run .ofNotes (some "m:p") answers
    done.outcome = .ok true ∧ Agreed answers done.events ∧ ∃ script,
      WrittenAt ["work"] ⟨.root, ["work", "notes"]⟩ script Setting.ofNotes.files done.files := by
  intro answers done
  obtain ⟨hload, hwarnings⟩ := Source.load_ofTool
  obtain ⟨after, hdialog, hquestions⟩ : ∃ after,
      outcomeFrom (dialog .ofNotes (some "m:p")) { answers := answers } =
        (.ok (some (.install .fish (Shell.fish.script .ofTool) "/work/notes" false)), after) ∧
      questions after.events = [shellPrompt [],
        destinationPrompt "/home/me/.config/fish/completions/tool.fish", overwritePrompt] := by
    rw [outcomeFrom_dialog (by decide) hload hwarnings]
    exact ⟨_, rfl, rfl⟩
  obtain ⟨files, hwritten⟩ : ∃ files, Destination.tryWrite ["work"] (Shell.fish.script .ofTool)
      "/work/notes" Setting.ofNotes.files = (.ok none, files) := by
    rw [Destination.tryWrite, Destination.write, FileTask.writeText, Program.surrogateRun?_ofTool]
    exact ⟨_, rfl⟩
  have hdone : done = _ := run_of_dialog hdialog hwritten rfl
  have hasked : questions done.events = questions after.events := by
    rw [hdone, questions_said]
  have hrun : done.outcome = .ok true := by
    rw [hdone]
  obtain ⟨_, _, _, _, path, _, _, _, hchosen, hwritten, _⟩ :=
    (install_changes_destination_only .ofNotes (some "m:p") answers).2 hrun
  have hpath : path = ⟨.root, ["work", "notes"]⟩ := by
    obtain ⟨usual, answer, ⟨n, hprompt, hanswer⟩, huser, _⟩ := hchosen.destination
    rw [hasked, hquestions] at hprompt
    rcases n with _ | _ | _ | n
    · simp [shellPrompt, destinationPrompt] at hprompt
    · cases hanswer
      exact Except.ok.inj (huser.symm.trans rfl)
    · simp [overwritePrompt, destinationPrompt] at hprompt
    · simp at hprompt
  subst hpath
  exact ⟨hrun, hchosen.agreed _ rfl, _, hwritten⟩

open Wizard in
/-- A folder on the way to `/work/new/../notes` is missing, so that nothing is found there and nobody
is asked. Once the folder is made, the path leads to the notes, and they are lost. -/
theorem install_replaces_notes_unasked :
    let answers := [.given (.text "fish"), .given (.text "/work/new/../notes")]
    let done := run .ofNotes (some "m:p") answers
    done.outcome = .ok true ∧ ¬ Agreed answers done.events ∧
      Setting.ofNotes.files.lookup ["work", "notes"] = some (.file "keep me".toUTF8) ∧
      ∃ script, generate (.text "fish") (.inr .ofTool) = .ok script ∧ script ≠ "keep me" ∧
        done.files.lookup ["work", "notes"] = some (.file script.toUTF8) := by
  intro answers done
  obtain ⟨hload, hwarnings⟩ := Source.load_ofTool
  have hbytes := Program.surrogateRun?_ofTool
  have hscript : generate (.text "fish") (.inr .ofTool) = .ok (Shell.fish.script .ofTool) :=
    @generate_of_load .ofNotes .fish "m:p" _ hload
  obtain ⟨after, hdialog, hquestions⟩ : ∃ after,
      outcomeFrom (dialog .ofNotes (some "m:p")) { answers := answers } =
        (.ok (some (.install .fish (Shell.fish.script .ofTool) "/work/new/../notes" false)),
          after) ∧
      questions after.events =
        [shellPrompt [], destinationPrompt "/home/me/.config/fish/completions/tool.fish"] := by
    rw [outcomeFrom_dialog (by decide) hload hwarnings]
    exact ⟨_, rfl, rfl⟩
  have hdiffers : Shell.fish.script .ofTool ≠ "keep me" := by decide +kernel
  generalize Shell.fish.script .ofTool = script at hbytes hdialog hscript hdiffers
  obtain ⟨files, hwritten, hlookup⟩ : ∃ files,
      Destination.tryWrite ["work"] script "/work/new/../notes" Setting.ofNotes.files =
        (.ok none, files) ∧
      files.lookup ["work", "notes"] = some (.file script.toUTF8) := by
    rw [Destination.tryWrite, Destination.write, FileTask.writeText, hbytes]
    exact ⟨_, rfl, rfl⟩
  have hdone : done = _ := run_of_dialog hdialog hwritten rfl
  rw [hdone]
  refine ⟨rfl, ?_, rfl, script, hscript, hdiffers, hlookup⟩
  rintro ⟨value, ⟨n, hasked, _⟩, _⟩
  rw [questions_said, hquestions] at hasked
  have hmem := List.mem_of_getElem? hasked
  simp [shellPrompt, destinationPrompt, overwritePrompt] at hmem

end Tabsmith
