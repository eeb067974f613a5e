import Tabsmith.Proofs.Dialog
import Tabsmith.Proofs.Generating
import Tabsmith.Wizard

/-!
What the dialog to install ensures, step by step: a plan to install is for the shell and the path that
the user gave, and where the path leads to something, the user agreed to replace it.
-/

namespace Tabsmith

namespace Wizard

variable {s : Setting} {answers : List Answer}

/-- The question for the shell. -/
def shellPrompt (env : Environment) : Prompt :=
  .select "Which shell should get the completions?" (choices (detect? env))
    ((detect? env).getD .bash).name

/-- The question for the source. -/
def sourcePrompt : Prompt :=
  .path "Schema file (or module:attribute):" ""

/-- The question for the destination. -/
def destinationPrompt (usual : String) : Prompt :=
  .path "Install completions to:" usual

/-- The question whether a file is to be replaced. -/
def overwritePrompt : Prompt :=
  .confirm "Overwrite it?" false

/-- The user gave a path for the destination. -/
def GaveDestination (s : Setting) (answers : List Answer) (events : List Event) (path : Path) :
    Prop :=
  ∃ usual answer, Answered answers events (destinationPrompt usual) (.text answer) ∧
    s.userPath answer = .ok path ∧ path.isAbsolute = true

/-- The user agreed to replace a file. -/
def Agreed (answers : List Answer) (events : List Event) : Prop :=
  ∃ value, Answered answers events overwritePrompt value ∧ value.isTruthy = true

theorem askShell_ensures (env : Environment) :
    Dialog.Ensures answers (askShell env) fun result events => ∀ word, result = some word →
      ∃ value, Answered answers events (shellPrompt env) value ∧ value.display = word := by
  have hask : Dialog.Ensures answers (Dialog.ask (shellPrompt env) >>= fun answer =>
      pure (if answer.isNull then none else some answer.display)) fun result events =>
        ∀ word, result = some word →
          ∃ value, Answered answers events (shellPrompt env) value ∧ value.display = word := by
    refine (Dialog.Ensures.ask _).bind fun value => .pure _ fun events hvalue word hword => ?_
    split at hword
    · cases hword
    · cases hword
      exact ⟨value, hvalue, rfl⟩
  unfold askShell
  dsimp only
  split
  · exact (Dialog.Ensures.say _ _).bind fun _ => hask.imp fun _ _ h _ => h
  · exact hask

theorem askSource_ensures :
    Dialog.Ensures answers askSource fun result events => ∀ word, result = some word →
      ∃ value, Answered answers events sourcePrompt value ∧ value.isTruthy = true ∧
        value.display = word := by
  refine (Dialog.Ensures.ask _).bind fun value => .pure _ fun events hvalue word hword => ?_
  split at hword
  next htruthy =>
    cases hword
    exact ⟨value, hvalue, htruthy, rfl⟩
  · cases hword

theorem askDestination_ensures (usual : String) :
    Dialog.Ensures answers (askDestination s usual) fun result events =>
      ∀ text, result = some text →
        ∃ path, GaveDestination s answers events path ∧ text = path.text := by
  refine (Dialog.Ensures.ask _).bind fun value => ?_
  split
  · refine .pure _ fun _ _ text htext => ?_
    cases htext
  next answer _ =>
    refine (Dialog.Ensures.known _).bind fun path => ?_
    split
    next habsolute =>
      refine .pure _ fun events hpath hanswer text htext => ?_
      cases htext
      exact ⟨path, ⟨usual, answer, hanswer, hpath, habsolute⟩, rfl⟩
    · refine (Dialog.Ensures.say _ _).bind fun _ => .pure _ fun _ _ _ _ text htext => ?_
      cases htext
  · split
    · exact .throw _
    · refine .pure _ fun _ _ text htext => ?_
      cases htext

theorem mayWrite_ensures (destination : String) :
    Dialog.Ensures answers (mayWrite s destination) fun result events => result = true →
      ∀ entry, s.find? (Path.ofText destination) = .ok (some entry) → Agreed answers events := by
  refine (Dialog.Ensures.known _).bind fun found => ?_
  split
  · refine .pure _ fun _ hfound _ entry hentry => ?_
    rw [hfound] at hentry
    cases hentry
  · refine (Dialog.Ensures.say _ _).bind fun _ => ((Dialog.Ensures.ask _).bind fun value => ?_)
    exact .pure _ fun events hvalue _ _ htruthy _ _ => ⟨value, hvalue, htruthy⟩

theorem chooseDestination_ensures (usual : String) :
    Dialog.Ensures answers (chooseDestination s usual) fun result events =>
      ∀ text, result = some text → ∃ path, GaveDestination s answers events path ∧
        text = path.text ∧
        ∀ entry, s.find? path = .ok (some entry) → Agreed answers events := by
  refine (askDestination_ensures usual).bind fun given => ?_
  split
  · refine .pure _ fun _ _ text htext => ?_
    cases htext
  next destination =>
    refine (mayWrite_ensures destination).bind fun allowed => ?_
    refine .pure _ fun events hallowed hgiven text htext => ?_
    split at htext
    next htrue =>
      cases htext
      obtain ⟨path, hpath, rfl⟩ := hgiven _ rfl
      obtain ⟨usual, answer, hanswer, huser, habsolute⟩ := hpath
      refine ⟨path, ⟨usual, answer, hanswer, huser, habsolute⟩, rfl, fun entry hentry => ?_⟩
      rw [Setting.ofText_text_of_userPath huser] at hallowed
      exact hallowed htrue entry hentry
    · cases htext

theorem loadProgram_ensures (source : String) :
    Dialog.Ensures answers (loadProgram s source) fun result _ =>
      ∀ program, result = some program → (Source.load s source).outcome = .ok program := by
  refine (Dialog.Ensures.note _).bind fun _ => ?_
  split
  next program hload =>
    refine (Dialog.Ensures.sayAll _ _ _).bind fun _ => .pure _ fun _ _ _ found hfound => ?_
    cases hfound
    exact hload
  · refine (Dialog.Ensures.say _ _).bind fun _ => ((Dialog.Ensures.sayAll _ _ _).bind fun _ => ?_)
    refine .pure _ fun _ _ _ _ found hfound => ?_
    cases hfound
  · refine (Dialog.Ensures.say _ _).bind fun _ => .pure _ fun _ _ _ found hfound => ?_
    cases hfound
  · exact .throw _

theorem shell_of_ofValue {word : String} {shell : Shell}
    (hshell : Shell.ofValue (.text word) = .ok shell) : word = shell.name := by
  unfold Shell.ofValue at hshell
  dsimp only at hshell
  split at hshell
  next hknown =>
    cases hshell
    exact Shell.eq_name_of_ofName? hknown
  · cases hshell

/-- A plan is to write the script of a program for a shell to a path. -/
def Installs (program : Program) (shell : Shell) (path : Path) (plan : Plan) : Prop :=
  ∃ isUsual, plan = .install shell (shell.script program) path.text isUsual

theorem chooseInstall_ensures (program : Program) (word : String) :
    Dialog.Ensures answers (chooseInstall s program word) fun result events =>
      ∀ plan, result = some plan → ∃ shell path, word = Shell.name shell ∧
        Installs program shell path plan ∧ GaveDestination s answers events path ∧
        ∀ entry, s.find? path = .ok (some entry) → Agreed answers events := by
  refine (Dialog.Ensures.ofNoted _).bind fun loaded => ?_
  split
  · refine (Dialog.Ensures.say _ _).bind fun _ => .pure _ fun _ _ _ plan hplan => ?_
    cases hplan
  next config =>
    refine (Dialog.Ensures.known _).bind fun usual => ?_
    refine (chooseDestination_ensures usual).bind fun chosen => ?_
    split
    · refine (Dialog.Ensures.say _ _).bind fun _ => .pure _ fun _ _ _ _ _ plan hplan => ?_
      cases hplan
    next destination =>
      refine (Dialog.Ensures.known _).bind fun shell => ?_
      refine (Dialog.Ensures.ofNoted _).bind fun script => ?_
      refine .map ((Dialog.Ensures.ofNoted _).imp fun plan events hplan hscript hshell hgiven => ?_)
      rintro _ _ _ ⟨⟩
      obtain ⟨_, _, hscript⟩ := hscript
      cases hscript
      obtain ⟨_, _, hplan⟩ := hplan
      cases hplan
      obtain ⟨path, hpath, rfl, hagreed⟩ := hgiven destination rfl
      exact ⟨shell, path, shell_of_ofValue hshell, ⟨_, rfl⟩, hpath, hagreed⟩

/-- What the user chose for a program, who lets its script be installed: the shell and the path. If
the path led to something, the user agreed. -/
structure Chosen (s : Setting) (answers : List Answer) (events : List Event) (shell : Shell)
    (path : Path) : Prop where
  shell : ∃ value, Answered answers events (shellPrompt s.environment) value ∧
    value.display = shell.name
  destination : GaveDestination s answers events path
  agreed : ∀ entry, s.find? path = .ok (some entry) → Agreed answers events

theorem withProgram_ensures (program : Program) :
    Dialog.Ensures answers (withProgram s program) fun result events =>
      ∀ plan, result = some plan → ∃ shell path, Installs program shell path plan ∧
        Chosen s answers events shell path := by
  refine (askShell_ensures s.environment).bind fun chosen => ?_
  split
  · refine .pure _ fun _ _ plan hplan => ?_
    cases hplan
  next word =>
    refine (chooseInstall_ensures program word).imp fun result events hinstall hshell plan hplan => ?_
    obtain ⟨shell, path, hname, hwrites, hpath, hagreed⟩ := hinstall plan hplan
    obtain ⟨value, hvalue, hdisplay⟩ := hshell word rfl
    exact ⟨shell, path, hwrites, ⟨value, hvalue, hdisplay.trans hname⟩, hpath, hagreed⟩

/-- The source of a dialog: the one that it was started with, or else the one that the user gave. -/
def IsSource (source : Option String) (answers : List Answer) (events : List Event)
    (word : String) : Prop :=
  source = some word ∧ word ≠ "" ∨
    source.getD "" = "" ∧ ∃ value, Answered answers events sourcePrompt value ∧
      value.isTruthy = true ∧ value.display = word

/-- A dialog ended with a plan that the user arranged: to install the script of the source. -/
def Arranged (s : Setting) (source : Option String) (answers : List Answer) (events : List Event)
    (plan : Plan) : Prop :=
  ∃ word program shell path, IsSource source answers events word ∧
    (Source.load s word).outcome = .ok program ∧ Installs program shell path plan ∧
    Chosen s answers events shell path

theorem dialog_ensures (source : Option String) :
    Dialog.Ensures answers (dialog s source) fun result events =>
      ∀ plan, result = some plan → Arranged s source answers events plan := by
  have hasked (hnone : source.getD "" = "") : Dialog.Ensures answers askSource
      fun result events => ∀ word, result = some word → IsSource source answers events word :=
    askSource_ensures.imp fun _ _ hanswer word hword => .inr ⟨hnone, hanswer word hword⟩
  have hgiven {word : String} (hsource : source = some word) (hne : word ≠ "") :
      Dialog.Ensures answers (pure (some word)) fun result events =>
        ∀ word, result = some word → IsSource source answers events word := by
    refine .pure _ fun _ other hother => .inl ⟨hsource.trans hother, ?_⟩
    cases hother
    exact hne
  unfold dialog
  refine (Dialog.Ensures.sayAll _ _ _).bind fun _ => ?_
  dsimp only
  split
  case' h_1 => refine (hasked rfl).bind fun given => ?_
  case' h_2 => refine (hasked rfl).bind fun given => ?_
  case' h_3 word hne => refine (hgiven rfl hne).bind fun given => ?_
  -- Whichever way the source was chosen, the rest goes on alike.
  all_goals
    split
    · refine .pure _ fun _ _ _ plan hplan => ?_
      cases hplan
    next word =>
      refine (loadProgram_ensures word).bind fun loaded => ?_
      split
      · refine .pure _ fun _ _ _ _ plan hplan => ?_
        cases hplan
      next program =>
        refine (withProgram_ensures program).imp fun _ events hchosen hload hsource _ plan hplan => ?_
        obtain ⟨shell, path, hwrites, hchoice⟩ := hchosen plan hplan
        exact ⟨word, program, shell, path, hsource word rfl, hload program rfl, hwrites, hchoice⟩

end Wizard

end Tabsmith
