import Tabsmith.Proofs.Installing

/-!
The dialog to install against the command that writes a script to its usual place. A user who takes the
suggested destination and agrees to replace what is there gets what the command does: the two plan the
same, or both plan to write nothing, and carrying out the same plan leaves the same files.
-/

namespace Tabsmith

/-- The result of an attempt: what cannot be used is told, other failures go on. -/
theorem Noted.outcome_attempt {α : Type} (work : Noted α) (notes : List Note) :
    (outcomeFrom (Noted.attempt work) notes).1 =
      match (outcomeFrom work notes).1 with
      | .ok a => .ok (.ok a)
      | .error (.unusable cause) => .ok (.error cause)
      | .error fault => .error fault := by
  unfold Noted.attempt
  rw [outcomeFrom_tryCatch, outcomeFrom_map]
  rcases outcomeFrom work notes with ⟨fault | a, after⟩
  · cases fault <;> rfl
  · rfl

theorem Config.IgnoresNotes.outcome_attempt {s : Setting} (hignores : Config.IgnoresNotes s)
    (notes : List Note) : (outcomeFrom (Noted.attempt (Config.load s)) notes).1 =
      (outcomeFrom (Noted.attempt (Config.load s)) []).1 := by
  rw [Noted.outcome_attempt, Noted.outcome_attempt, hignores]

theorem Shell.ofValue_name (shell : Shell) : Shell.ofValue (.text shell.name) = .ok shell := by
  rw [ofValue, ofName?_name]
  rfl

/-- The path that the configuration gives for the program of a source and for a shell is absolute, where
there is one. -/
def Destination.UsualIsAbsolute (s : Setting) (shell : Shell) (source : String) : Prop :=
  ∀ program config path, (Source.load s source).outcome = .ok program →
    (outcomeFrom (Config.load s) []).1 = .ok config →
      Destination.default s shell.name program.name config = .ok path →
        (Path.ofText path).isAbsolute = true

namespace Wizard

variable {s : Setting} {shell : Shell} {program : Program} {given : Option String} {source : String}
variable {answers : List Answer}

/-- The user agrees with an answer to replace what is there. -/
def Agrees (answer : Answer) : Prop :=
  ∃ value, answer.value? overwritePrompt = some value ∧ value.isTruthy = true

/-- The user selects a shell, takes the suggested destination, and agrees to replace what is there. -/
inductive Accepts (s : Setting) (shell : Shell) : List Answer → Prop
  | intro {selected agreed : Answer} (rest : List Answer)
      (hselected : selected.value? (shellPrompt s.environment) = some (.text shell.name))
      (hagreed : Agrees agreed) : Accepts s shell (selected :: .usual :: agreed :: rest)

/-- The user names a source, beforehand or when asked for it, and accepts what the dialog suggests for
a shell. A user who is asked and gives none names the empty source. -/
inductive AcceptsFrom (s : Setting) (shell : Shell) :
    (source : String) → (given : Option String) → List Answer → Prop
  | named {source : String} {answers : List Answer} (hsource : source ≠ "")
      (haccepts : Accepts s shell answers) : AcceptsFrom s shell source (some source) answers
  | asked {given : Option String} {answer : Answer} {value : Value} {answers : List Answer}
      (hgiven : given.getD "" = "") (hvalue : answer.value? sourcePrompt = some value)
      (haccepts : Accepts s shell answers) :
      AcceptsFrom s shell (if value.isTruthy then value.display else "") given (answer :: answers)

/-- How the plan of a dialog and that of a command compare. The dialog looks whether something stands
at the destination, which may fail, while the command leaves that to the writing. -/
inductive SamePlan (s : Setting) : Except Fault (Option Plan) → Except Fault Plan → Prop
  | failed (fault : Fault) : SamePlan s (.error fault) (.error fault)
  | unseen {path : Path} {fault : Fault} (plan : Except Fault Plan)
      (hfind : s.find? path = .error fault) : SamePlan s (.error fault) plan
  | nothing {code : ExitCode} (text : String) (hcode : code ≠ .success) :
      SamePlan s (.ok none) (.ok (.reply code text))
  | install (shell : Shell) (script path : String) (isUsual : Bool) :
      SamePlan s (.ok (some (.install shell script path isUsual)))
        (.ok (.install shell script path isUsual))

/-! ## Planning -/

/-- A user who takes a suggested absolute path chooses it. -/
theorem askDestination_gives {usual : String} {left : List Answer}
    (habsolute : (Path.ofText usual).isAbsolute = true)
    (htext : (Path.ofText usual).text = usual) :
    Dialog.Gives (askDestination s usual) (.usual :: left) (.ok (some usual)) left := by
  have hanswer : Answer.usual.value? (destinationPrompt usual) = some (.text usual) := rfl
  refine (Dialog.Gives.ask hanswer).bind ?_
  split
  next hempty =>
    cases hempty
    cases habsolute
  next answer _ heq =>
    cases heq
    refine (Dialog.Gives.known (Setting.userPath_of_isAbsolute habsolute)).bind ?_
    rw [if_pos habsolute, htext]
    exact .pure _
  next hother => exact absurd rfl (hother usual)

/-- A user who agrees to replace what is there may write, unless what is there cannot be told. -/
theorem mayWrite_gives {agreed : Answer} (destination : String) (left : List Answer)
    (hagreed : Agrees agreed) :
    (∃ fault rest, s.find? (Path.ofText destination) = .error fault ∧
      Dialog.Gives (mayWrite s destination) (agreed :: left) (.error fault) rest) ∨
    ∃ rest, Dialog.Gives (mayWrite s destination) (agreed :: left) (.ok true) rest := by
  unfold mayWrite
  cases hfind : s.find? (Path.ofText destination) with
  | error fault => exact .inl ⟨fault, _, rfl, .bind_error _ (.known rfl)⟩
  | ok found =>
    cases found with
    | none => exact .inr ⟨_, (Dialog.Gives.known rfl).bind (.pure _)⟩
    | some entry =>
      obtain ⟨value, hvalue, htruthy⟩ := hagreed
      refine .inr ⟨left, (Dialog.Gives.known rfl).bind
        ((Dialog.Gives.say _ _).bind ((Dialog.Gives.ask hvalue).bind ?_))⟩
      rw [htruthy]
      exact .pure _

theorem chooseDestination_gives {usual : String} {agreed : Answer} (left : List Answer)
    (habsolute : (Path.ofText usual).isAbsolute = true)
    (htext : (Path.ofText usual).text = usual) (hagreed : Agrees agreed) :
    (∃ fault rest, s.find? (Path.ofText usual) = .error fault ∧
      Dialog.Gives (chooseDestination s usual) (.usual :: agreed :: left) (.error fault) rest) ∨
    ∃ rest, Dialog.Gives (chooseDestination s usual) (.usual :: agreed :: left) (.ok (some usual))
      rest := by
  have hchosen : Dialog.Gives (askDestination s usual) (.usual :: agreed :: left) _ _ :=
    askDestination_gives habsolute htext
  rcases mayWrite_gives usual left hagreed with
    ⟨fault, rest, hfind, hfails⟩ | ⟨rest, hallowed⟩
  · exact .inl ⟨fault, rest, hfind, hchosen.bind (.bind_error _ hfails)⟩
  · exact .inr ⟨rest, hchosen.bind (hallowed.bind (.pure _))⟩

/-- The dialog from the configuration on plans what the command plans that writes a script to its usual
place. -/
theorem chooseInstall_samePlan {agreed : Answer} (left : List Answer)
    (hignores : Config.IgnoresNotes s)
    (habsolute : ∀ config path, (outcomeFrom (Config.load s) []).1 = .ok config →
      Destination.default s shell.name program.name config = .ok path →
        (Path.ofText path).isAbsolute = true)
    (hagreed : Agrees agreed) (notes : List Note) :
    ∃ result rest, Dialog.Gives (chooseInstall s program shell.name) (.usual :: agreed :: left)
        result rest ∧
      SamePlan s result
        (outcomeFrom (Generate.installUsual s shell program.name (shell.script program)) notes).1 := by
  -- The two load the configuration after different notes: the command has taken one on the script.
  obtain ⟨attempted, hattempt⟩ : ∃ attempted, ∀ notes,
      (outcomeFrom (Noted.attempt (Config.load s)) notes).1 = attempted :=
    ⟨_, hignores.outcome_attempt⟩
  unfold chooseInstall Generate.installUsual
  rw [outcomeFrom_bind]
  rcases hhere : outcomeFrom (Noted.attempt (Config.load s)) notes with ⟨result, after⟩
  obtain rfl : result = attempted := by rw [← hattempt notes, hhere]
  have hloads : Dialog.Gives _ (.usual :: agreed :: left) _ _ := .ofNoted hattempt
  rcases result with fault | cause | config
  · exact ⟨_, _, hloads.bind_error _, .failed _⟩
  · exact ⟨_, _, hloads.bind ((Dialog.Gives.say _ _).bind (.pure _)), .nothing _ (by decide)⟩
  have hconfig : (outcomeFrom (Config.load s) []).1 = .ok config := by
    rw [← hignores notes, Noted.outcomeFrom_of_attempt hhere]
  dsimp only
  cases hdefault : Destination.default s shell.name program.name config with
  | error fault =>
    exact ⟨_, _, hloads.bind (.bind_error _ (.known hdefault)), .failed _⟩
  | ok usual =>
    have hroot := habsolute config usual hconfig hdefault
    obtain ⟨_, path, _, hfill, rfl⟩ := Destination.default_eq_ok_iff.1 hdefault
    have hpath := Setting.ofText_text_of_userPath hfill
    rcases chooseDestination_gives (s := s) left hroot (by rw [hpath]) hagreed with
      ⟨fault, rest, hfind, hfails⟩ | ⟨rest, hchosen⟩
    · exact ⟨_, rest, hloads.bind ((Dialog.Gives.known hdefault).bind (.bind_error _ hfails)),
        .unseen _ hfind⟩
    · refine ⟨_, rest, hloads.bind ((Dialog.Gives.known hdefault).bind
        (hchosen.bind ?_)), .install shell _ _ _⟩
      refine (Dialog.Gives.known (Shell.ofValue_name shell)).bind ((Dialog.Gives.ofNoted fun _ => rfl).bind
        (.map _ (.ofNoted fun _ => ?_)))
      rw [decide_eq_true rfl]
      rfl

theorem askShell_gives {selected : Answer} {left : List Answer}
    (hselected : selected.value? (shellPrompt s.environment) = some (.text shell.name)) :
    Dialog.Gives (askShell s.environment) (selected :: left) (.ok (some shell.name)) left := by
  have hask : Dialog.Gives (Dialog.ask (shellPrompt s.environment) >>= fun answer =>
      pure (if answer.isNull then none else some answer.display)) (selected :: left)
        (.ok (some shell.name)) left :=
    (Dialog.Gives.ask hselected).bind (.pure _)
  unfold askShell
  dsimp only
  split
  · exact (Dialog.Gives.say _ _).bind hask
  · exact hask

theorem loadProgram_gives {left : List Answer}
    (hload : (Source.load s source).outcome = .ok program) :
    Dialog.Gives (loadProgram s source) left (.ok (some program)) left := by
  unfold loadProgram
  dsimp only
  rw [hload]
  exact (Dialog.Gives.note _).bind ((Dialog.Gives.sayAll _ _ _).bind (.pure _))

/-- The dialog goes on without a program where the command has a reply to the source, and breaks down
where the command does. -/
theorem loadProgram_gives_of_error {fault : Fault} (left : List Answer)
    (hload : (Source.load s source).outcome = .error fault) :
    Dialog.Gives (loadProgram s source) left ((Generate.reply fault).map fun _ => none) left := by
  unfold loadProgram
  dsimp only
  rw [hload]
  refine (Dialog.Gives.note _).bind ?_
  cases fault with
  | invalid cause =>
    exact (Dialog.Gives.say _ _).bind ((Dialog.Gives.sayAll _ _ _).bind (.pure none))
  | unusable cause => exact (Dialog.Gives.say _ _).bind (.pure none)
  | breakdown cause => exact .throw _

/-- The empty source is the path of the working folder, which is no document. -/
theorem load_empty (hwork : ∀ content, s.files.lookup s.workFolder ≠ some (.file content)) :
    ∃ cause, (Source.load s "").outcome = .error (.unusable cause) := by
  have hpath : s.userPath (s.environment.expand "") = .ok (Path.ofText "") := rfl
  have hfind : s.find? (Path.ofText "") = .ok (s.files.lookup s.workFolder) := by
    have hplace : s.files.placeOf s.workFolder (Path.ofText "") = .ok s.workFolder := rfl
    unfold Setting.find? FileTree.find? FileTree.find
    rw [if_neg (by decide), hplace]
    dsimp only [bind, Except.bind]
    cases s.files.lookup s.workFolder <;> rfl
  unfold Source.load
  rw [hpath]
  dsimp only
  rw [hfind]
  rcases hentry : s.files.lookup s.workFolder with _ | _ | content
  · dsimp only
    rw [if_neg (by simp)]
    exact ⟨_, rfl⟩
  · exact ⟨_, rfl⟩
  · exact absurd hentry (hwork content)

/-- The dialog from the source on, if there is one. -/
def fromSource (s : Setting) (source : Option String) : Dialog (Option Plan) :=
  match source with
  | none => pure none
  | some source => do
    match ← loadProgram s source with
    | none => pure none
    | some program => withProgram s program

/-- A user who accepts what the dialog suggests for a source plans what the command plans that writes a
script to its usual place. -/
theorem fromSource_samePlan (haccepts : Accepts s shell answers)
    (hignores : Config.IgnoresNotes s)
    (habsolute : Destination.UsualIsAbsolute s shell source) :
    ∃ result rest, Dialog.Gives (fromSource s (some source)) answers result rest ∧
      SamePlan s result
        (outcomeFrom (Generate.plan s [shell.name, source, Order.usualPlace]) []).1 := by
  obtain @⟨selected, agreed, left, hselected, hagreed⟩ := haccepts
  cases hload : (Source.load s source).outcome with
  | error fault =>
    rw [Generate.plan_of_load_error shell [] hload (by decide)]
    have hloads := loadProgram_gives_of_error (selected :: .usual :: agreed :: left) hload
    cases hreply : Generate.reply fault with
    | error other =>
      rw [hreply] at hloads
      exact ⟨_, _, hloads.bind_error _, .failed _⟩
    | ok plan =>
      rw [hreply] at hloads
      obtain ⟨code, text, rfl, hcode⟩ := Generate.code_of_reply hreply
      exact ⟨_, _, hloads.bind (.pure none), .nothing _ hcode⟩
  | ok program =>
    rw [Generate.plan_of_load shell [] hload (by decide), Generate.placed]
    dsimp only
    rw [if_pos rfl]
    obtain ⟨result, rest, hchoose, hsame⟩ := chooseInstall_samePlan left hignores
      (fun config path => habsolute program config path hload) hagreed
      ((Source.load s source).notes ++ [Generate.scriptNote shell program])
    exact ⟨result, rest, (loadProgram_gives hload).bind ((askShell_gives hselected).bind hchoose),
      hsame⟩

/-- A source that was named beforehand is not asked for. -/
theorem dialog_gives_of_named {left : List Answer} {result : Except Fault (Option Plan)}
    (hsource : source ≠ "") (hfrom : Dialog.Gives (fromSource s (some source)) answers result left) :
    Dialog.Gives (dialog s (some source)) answers result left := by
  refine (Dialog.Gives.sayAll _ _ _).bind ?_
  split
  next hnone => cases hnone
  next hempty => exact absurd (Option.some.inj hempty) hsource
  next heq =>
    cases heq
    exact (Dialog.Gives.pure _).bind hfrom

theorem dialog_gives_of_asked {left : List Answer} {result : Except Fault (Option Plan)}
    {answer : Answer} {value : Value} (hgiven : given.getD "" = "")
    (hvalue : answer.value? sourcePrompt = some value)
    (hfrom : Dialog.Gives (fromSource s (if value.isTruthy then some value.display else none))
      answers result left) :
    Dialog.Gives (dialog s given) (answer :: answers) result left := by
  have hask : Dialog.Gives askSource (answer :: answers) (.ok (if value.isTruthy then _ else _))
      answers := (Dialog.Gives.ask hvalue).bind (.pure _)
  cases given with
  | none => exact (Dialog.Gives.sayAll _ _ _).bind (hask.bind hfrom)
  | some word =>
    obtain rfl : word = "" := hgiven
    exact (Dialog.Gives.sayAll _ _ _).bind (hask.bind hfrom)

/-- A user who accepts what the dialog suggests plans what the command plans that writes a script to its
usual place. -/
theorem dialog_samePlan (haccepts : AcceptsFrom s shell source given answers)
    (hwork : ∀ content, s.files.lookup s.workFolder ≠ some (.file content))
    (hignores : Config.IgnoresNotes s)
    (habsolute : Destination.UsualIsAbsolute s shell source) :
    ∃ result rest, Dialog.Gives (dialog s given) answers result rest ∧
      SamePlan s result
        (outcomeFrom (Generate.plan s [shell.name, source, Order.usualPlace]) []).1 := by
  cases haccepts with
  | named hsource haccepts =>
    obtain ⟨result, rest, hfrom, hsame⟩ := fromSource_samePlan haccepts hignores habsolute
    exact ⟨result, rest, dialog_gives_of_named hsource hfrom, hsame⟩
  | @asked _ answer value _ hgiven hvalue haccepts =>
    by_cases htruthy : value.isTruthy = true
    · rw [if_pos htruthy] at habsolute ⊢
      obtain ⟨result, rest, hfrom, hsame⟩ := fromSource_samePlan haccepts hignores habsolute
      exact ⟨result, rest, dialog_gives_of_asked hgiven hvalue (by rwa [if_pos htruthy]), hsame⟩
    · -- Without a source the dialog ends, and the command finds no document in the working folder.
      rw [if_neg htruthy]
      obtain ⟨cause, hload⟩ := load_empty hwork
      rw [Generate.plan_of_load_error shell [] hload (by decide)]
      exact ⟨_, _, dialog_gives_of_asked hgiven hvalue (by rw [if_neg htruthy]; exact .pure none),
        .nothing _ (by decide)⟩

/-! ## Carrying out -/

/-- Carrying out the same plan writes the same, and the dialog tells an installation where the command
tells a success. -/
theorem carryOut_install (s : Setting) (files : FileTree) (shell : Shell) (script path : String)
    (isUsual : Bool) :
    (carryOut s files (some (.install shell script path isUsual))).1 =
        ((Plan.install shell script path isUsual).carryOut s files).1.map
          (fun reply => decide (reply.1 = .success)) ∧
      (carryOut s files (some (.install shell script path isUsual))).2.2 =
        ((Plan.install shell script path isUsual).carryOut s files).2 := by
  simp only [carryOut, Plan.carryOut]
  rcases Destination.tryWrite s.workFolder script path files with ⟨fault | _ | refused, after⟩
  · exact ⟨rfl, rfl⟩
  · dsimp only
    cases Destination.success s shell.name path isUsual <;> exact ⟨rfl, rfl⟩
  · exact ⟨rfl, rfl⟩

/-- A dialog and a command with the same plan end alike, with the same files. -/
theorem run_of_samePlan {words : List String} {result : Except Fault (Option Plan)}
    {after : DialogState}
    (hdialog : outcomeFrom (dialog s given) { answers := answers } = (result, after))
    (hsame : SamePlan s result (outcomeFrom (Generate.plan s words) []).1) :
    (∃ path fault, s.find? path = .error fault ∧ (run s given answers).outcome = .error fault) ∨
    ((run s given answers).files = (Generate.run s words).files ∧
      (run s given answers).outcome = (Generate.run s words).outcome.map
        fun reply => decide (reply.1 = .success)) := by
  have hrun : (dialog s given).run.run { answers := answers } = (result, after) := hdialog
  rcases hplan : outcomeFrom (Generate.plan s words) [] with ⟨planned, notes⟩
  have houtcome : (Generate.plan s words).outcome = (planned, notes) := hplan
  rw [hplan] at hsame
  unfold run Generate.run
  rw [hrun, houtcome]
  cases hsame with
  | failed fault => exact .inr ⟨rfl, rfl⟩
  | unseen plan hfind => exact .inl ⟨_, _, hfind, rfl⟩
  | nothing text hcode =>
    refine .inr ⟨rfl, ?_⟩
    have hfailed : decide (_ = ExitCode.success) = false := decide_eq_false hcode
    exact congrArg Except.ok hfailed.symm
  | install shell script path isUsual =>
    obtain ⟨hends, hfiles⟩ := carryOut_install s s.files shell script path isUsual
    dsimp only
    rw [hends, hfiles]
    exact .inr ⟨rfl, rfl⟩

end Wizard

open Wizard in
/-- A user who accepts what the dialog suggests gets what the command does that writes the script to its
usual place, if that place is absolute, and if the notes of a run do not get into the configuration.
Apart from what is written into a log, the two leave the same files, and the dialog installs exactly if
the command succeeds. Where the command breaks down, so does the dialog. Where the dialog does, so does
the command, unless it cannot be told what stands at the place. -/
theorem install_agrees_with_generate {s : Setting} {shell : Shell} {source : String}
    {given : Option String} {answers : List Answer}
    (haccepts : AcceptsFrom s shell source given answers)
    (hwork : ∀ content, s.files.lookup s.workFolder ≠ some (.file content))
    (hignores : Config.IgnoresNotes s)
    (habsolute : Destination.UsualIsAbsolute s shell source) :
    let done := Wizard.run s given answers
    let made := Generate.run s [shell.name, source, Order.usualPlace]
    (∀ installed code text, done.outcome = .ok installed → made.outcome = .ok (code, text) →
      done.files = made.files ∧ (installed = true ↔ code = .success)) ∧
    (∀ fault, made.outcome = .error fault → ∃ other, done.outcome = .error other) ∧
    ∀ fault, done.outcome = .error fault →
      made.outcome = .error fault ∨ ∃ path, s.find? path = .error fault := by
  intro done made
  obtain ⟨result, rest, hgives, hsame⟩ := dialog_samePlan haccepts hwork hignores habsolute
  obtain ⟨after, hdialog, _⟩ := hgives { answers := answers } rfl
  have hends : (∃ path fault, s.find? path = .error fault ∧ done.outcome = .error fault) ∨
      (done.files = made.files ∧
        done.outcome = made.outcome.map fun reply => decide (reply.1 = .success)) :=
    run_of_samePlan hdialog hsame
  rcases hends with ⟨path, fault, hfind, hfails⟩ | ⟨hfiles, houtcome⟩
  · rw [hfails]
    refine ⟨by simp, fun _ _ => ⟨fault, rfl⟩, ?_⟩
    rintro _ ⟨⟩
    exact .inr ⟨path, hfind⟩
  · rw [houtcome]
    refine ⟨fun installed code text hinstalled hmade => ⟨hfiles, ?_⟩, fun fault hmade => ?_,
      fun fault hfails => ?_⟩
    · rw [hmade] at hinstalled
      cases hinstalled
      exact decide_eq_true_iff
    · rw [hmade]
      exact ⟨fault, rfl⟩
    · rcases hmade : made.outcome with other | reply
      · rw [hmade] at hfails
        cases hfails
        exact .inl rfl
      · rw [hmade] at hfails
        cases hfails

/-- A setting with the parser of a tool, and with an old script of the tool in its usual place. -/
def Setting.ofOldScript : Setting :=
  { Setting.ofNotes with
    files := ⟨[(["work"], .folder), (["home"], .folder), (["home", "me"], .folder),
      (["home", "me", ".config"], .folder), (["home", "me", ".config", "fish"], .folder),
      (["home", "me", ".config", "fish", "completions"], .folder),
      (["home", "me", ".config", "fish", "completions", "tool.fish"], .file "old".toUTF8)]⟩ }

theorem Source.load_ofOldScript : (Source.load .ofOldScript "m:p").outcome = .ok .ofTool ∧
    (Source.load .ofOldScript "m:p").warnings = [] := by
  have hload : Source.load .ofOldScript "m:p" = Source.loadParser .ofOldScript "m:p" :=
    Source.IsReference.load_eq ⟨⟨.workFolder, ["m:p"]⟩, rfl, rfl, by simp⟩
  rw [hload]
  exact ⟨rfl, rfl⟩

theorem Config.load_ofOldScript (notes : List Note) :
    (outcomeFrom (Config.load .ofOldScript) notes).1 =
      .ok (Config.default Setting.ofOldScript.environment) :=
  rfl

open Wizard in
/-- An instance: the old script is replaced, in either way. -/
theorem install_agrees_with_generate_of_old_script :
    let done := Wizard.run .ofOldScript (some "m:p")
      [.given (.text "fish"), .usual, .given (.bool true)]
    let made := Generate.run .ofOldScript ["fish", "m:p", "default"]
    done.outcome = .ok true ∧ (∃ text, made.outcome = .ok (.success, text)) ∧
      done.files = made.files ∧ ∃ script, generate (.text "fish") (.inr .ofTool) = .ok script ∧
        made.files.lookup ["home", "me", ".config", "fish", "completions", "tool.fish"] =
          some (.file script.toUTF8) := by
  intro done made
  obtain ⟨hload, hwarnings⟩ := Source.load_ofOldScript
  have hplace : Destination.default .ofOldScript "fish" Program.ofTool.name
      (Config.default Setting.ofOldScript.environment) =
        .ok "/home/me/.config/fish/completions/tool.fish" := rfl
  have hbytes := Program.surrogateRun?_ofTool
  have hscript : generate (.text "fish") (.inr .ofTool) = .ok (Shell.fish.script .ofTool) :=
    @generate_of_load .ofOldScript .fish "m:p" _ hload
  obtain ⟨notes, hplan⟩ := Generate.plan_of_usual .fish [] hload Config.load_ofOldScript hplace
  obtain ⟨after, hdialog⟩ : ∃ after, outcomeFrom (dialog .ofOldScript (some "m:p"))
      { answers := [.given (.text "fish"), .usual, .given (.bool true)] } =
        (.ok (some (.install .fish (Shell.fish.script .ofTool)
          "/home/me/.config/fish/completions/tool.fish" true)), after) := by
    rw [outcomeFrom_dialog (by decide) hload hwarnings]
    exact ⟨_, rfl⟩
  generalize Shell.fish.script .ofTool = script at hbytes hscript hplan hdialog
  obtain ⟨files, hwritten, hlookup⟩ : ∃ files,
      Destination.tryWrite ["work"] script "/home/me/.config/fish/completions/tool.fish"
        Setting.ofOldScript.files = (.ok none, files) ∧
      files.lookup ["home", "me", ".config", "fish", "completions", "tool.fish"] =
        some (.file script.toUTF8) := by
    rw [Destination.tryWrite, Destination.write, FileTask.writeText, hbytes]
    exact ⟨_, rfl, rfl⟩
  have hdone : done.outcome = .ok true :=
    congrArg Installation.outcome (run_of_dialog hdialog hwritten rfl)
  obtain ⟨text, hmade, hfiles⟩ : ∃ text, made.outcome = .ok (.success, text) ∧
      made.files = files := by
    obtain ⟨houtcome, hfiles⟩ := Generate.run_eq hplan
    have hcarried : (Plan.install .fish script "/home/me/.config/fish/completions/tool.fish"
        true).carryOut .ofOldScript Setting.ofOldScript.files = (_, files) :=
      Plan.carryOut_of_tryWrite hwritten
    rw [hcarried] at houtcome hfiles
    exact ⟨_, houtcome, hfiles⟩
  have haccepts : AcceptsFrom .ofOldScript .fish "m:p" (some "m:p")
      [.given (.text "fish"), .usual, .given (.bool true)] :=
    .named (by decide) (.intro [] rfl ⟨_, rfl, rfl⟩)
  have hwork : ∀ content, Setting.ofOldScript.files.lookup ["work"] ≠ some (.file content) := by
    rintro _ ⟨⟩
  have habsolute : Destination.UsualIsAbsolute .ofOldScript .fish "m:p" := by
    intro program config path hprogram hconfig hpath
    cases hload.symm.trans hprogram
    cases (Config.load_ofOldScript []).symm.trans hconfig
    cases hplace.symm.trans hpath
    decide
  have hagrees := install_agrees_with_generate haccepts hwork
    (Config.ignoresNotes_of_keep fun _ => rfl) habsolute
  refine ⟨hdone, ⟨text, hmade⟩, (hagrees.1 true .success text hdone hmade).1, script, hscript, ?_⟩
  rw [hfiles]
  exact hlookup

end Tabsmith
