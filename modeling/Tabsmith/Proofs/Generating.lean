import Tabsmith.Proofs.Configuration
import Tabsmith.Proofs.FileTree.Writing
import Tabsmith.Proofs.Loading
import Tabsmith.Proofs.Verdict

/-!
What generating a script does to the file tree. A run that succeeds with a destination writes there
the script that it shows without one. Every other run that ends in a reply leaves all files as they
are.
-/

namespace Tabsmith

open FileTree

/-- The word for a destination names a path for the script of a program: it writes the path, or it
is the word for the usual place, and the configuration that is loaded once some notes were taken
gives the path. -/
def Destination.Names (s : Setting) (shell : Shell) (program : Program) (notes : List Note)
    (word : String) (path : Path) : Prop :=
  if word = Order.usualPlace then
    ∃ config template, (outcomeFrom (Config.load s) notes).1 = .ok config ∧
      Destination.template config shell.name = .ok template ∧
      Destination.fill s template program.name = .ok path
  else s.userPath word = .ok path

/-- An attempt that gives a result is work that gives it. -/
theorem Noted.outcomeFrom_of_attempt {α : Type} {work : Noted α} {a : α} {notes after : List Note}
    (hattempt : outcomeFrom (Noted.attempt work) notes = (.ok (.ok a), after)) :
    outcomeFrom work notes = (.ok a, after) := by
  unfold Noted.attempt at hattempt
  rw [outcomeFrom_tryCatch, outcomeFrom_map] at hattempt
  rcases hwork : outcomeFrom work notes with ⟨fault | b, between⟩
  · rw [hwork] at hattempt
    dsimp only [Except.map] at hattempt
    split at hattempt
    · cases hattempt
    · cases hattempt
  · rw [hwork] at hattempt
    cases hattempt
    rfl

theorem Destination.Names.ofText_text {s : Setting} {shell : Shell} {program : Program}
    {notes : List Note} {word : String} {path : Path}
    (hnames : Destination.Names s shell program notes word path) :
    Path.ofText path.text = path := by
  unfold Names at hnames
  split at hnames
  · obtain ⟨_, _, _, _, hfill⟩ := hnames
    exact Setting.ofText_text_of_userPath hfill
  · exact Setting.ofText_text_of_userPath hnames

theorem Shell.eq_name_of_ofName? {word : String} {shell : Shell}
    (hword : Shell.ofName? word = some shell) : word = shell.name := by
  have hname := List.find?_some hword
  exact (of_decide_eq_true hname).symm

/-- The words of an order are its shell, its source, and its destination if it has one. -/
theorem Order.words_of_ofWords {words : List String} {order : Order}
    (hwords : Order.ofWords words = .ok order) :
    ∃ rest, words = order.shell.name :: order.source :: rest ∧ order.destination = rest.head? := by
  unfold ofWords at hwords
  split at hwords
  next word source rest =>
    split at hwords
    · cases hwords
    next known hknown =>
      have hname := Shell.eq_name_of_ofName? hknown
      split at hwords
      · cases hwords
        exact ⟨[], by rw [hname], rfl⟩
      next destination more =>
        split at hwords
        · cases hwords
          exact ⟨destination :: more, by rw [hname], rfl⟩
        · cases hwords
  · cases hwords

theorem Order.ofWords_of_isDestination {shell : Shell} {source word : String} {rest : List String}
    (hword : isDestination word = true) :
    ofWords (shell.name :: source :: word :: rest) = .ok ⟨shell, source, some word⟩ := by
  rw [ofWords, Shell.ofName?_name]
  exact if_pos hword

namespace Generate

variable {s : Setting}

/-- The reply to a source that gives no program is no success. -/
theorem code_of_reply {fault : Fault} {plan : Plan} (hreply : reply fault = .ok plan) :
    ∃ code text, plan = .reply code text ∧ code ≠ .success := by
  cases fault with
  | invalid cause =>
    cases hreply
    exact ⟨_, _, rfl, by decide⟩
  | unusable cause =>
    cases hreply
    exact ⟨_, _, rfl, by decide⟩
  | breakdown cause => cases hreply

/-- The plan for a script that is there: it is shown without a destination, and written to the path
that the destination names, unless the configuration cannot be used. -/
theorem placed_cases {order : Order} {program : Program} {plan : Plan} {notes after : List Note}
    (hplan : outcomeFrom (placed s order program.name (order.shell.script program)) notes =
      (.ok plan, after)) :
    (order.destination = none ∧ plan = .reply .success (order.shell.script program)) ∨
    (∃ text, plan = .reply .failure text) ∨
    ∃ word path isUsual, order.destination = some word ∧
      plan = .install order.shell (order.shell.script program) (Path.text path) isUsual ∧
      Destination.Names s order.shell program notes word path := by
  unfold placed at hplan
  split at hplan
  next hnone =>
    cases hplan
    exact .inl ⟨hnone, rfl⟩
  next word hword =>
    split at hplan
    next husual =>
      unfold installUsual at hplan
      obtain ⟨loaded, between, hload, hplan⟩ := outcomeFrom_bind_eq_ok_iff.1 hplan
      cases loaded with
      | error cause =>
        cases hplan
        exact .inr (.inl ⟨_, rfl⟩)
      | ok config =>
        obtain ⟨text, _, htext, hplan⟩ := outcomeFrom_bind_eq_ok_iff.1 hplan
        cases hplan
        have hdefault : Destination.default s order.shell.name program.name config = .ok text :=
          congrArg Prod.fst htext
        obtain ⟨template, path, htemplate, hfill, rfl⟩ := Destination.default_eq_ok_iff.1 hdefault
        refine .inr (.inr ⟨word, path, true, hword, rfl, ?_⟩)
        rw [Destination.Names, if_pos husual, Noted.outcomeFrom_of_attempt hload]
        exact ⟨config, template, rfl, htemplate, hfill⟩
    next hother =>
      obtain ⟨path, _, hpath, hplan⟩ := outcomeFrom_bind_eq_ok_iff.1 hplan
      cases hplan
      refine .inr (.inr ⟨word, path, false, hword, rfl, ?_⟩)
      rw [Destination.Names, if_neg hother]
      exact congrArg Prod.fst hpath

/-- A plan is a reply, which is no success if there is a destination, or it is to write the script
of the loaded program to the path that the destination names. -/
theorem plan_cases {words : List String} {found : Plan} {after : List Note}
    (hplan : outcomeFrom (plan s words) [] = (.ok found, after)) :
    (∃ code text, found = .reply code text ∧ (words.length ≤ 2 ∨ code ≠ .success)) ∨
    ∃ shell source word rest program path isUsual,
      words = Shell.name shell :: source :: word :: rest ∧
      (Source.load s source).outcome = .ok program ∧
      Destination.Names s shell program
        ((Source.load s source).notes ++ [scriptNote shell program]) word path ∧
      found = .install shell (shell.script program) path.text isUsual := by
  unfold plan at hplan
  split at hplan
  · cases hplan
    exact .inl ⟨_, _, rfl, .inr (by decide)⟩
  next order horder =>
    obtain ⟨rest, hwords, hrest⟩ := Order.words_of_ofWords horder
    unfold planOrder at hplan
    obtain ⟨_, _, hnotes, hplan⟩ := outcomeFrom_bind_eq_ok_iff.1 hplan
    cases hnotes
    split at hplan
    next fault _ =>
      obtain ⟨code, text, rfl, hcode⟩ := code_of_reply (congrArg Prod.fst hplan)
      exact .inl ⟨code, text, rfl, .inr hcode⟩
    next program hload =>
      obtain ⟨_, _, hscript, hplan⟩ := outcomeFrom_bind_eq_ok_iff.1 hplan
      cases hscript
      rcases placed_cases hplan with ⟨hnone, rfl⟩ | ⟨text, rfl⟩ |
        ⟨word, path, isUsual, hword, rfl, hnames⟩
      · have hempty : rest = [] := List.head?_eq_none_iff.1 (hrest ▸ hnone)
        exact .inl ⟨_, _, rfl, .inl (by simp [hwords, hempty])⟩
      · exact .inl ⟨_, _, rfl, .inr (by decide)⟩
      · obtain ⟨more, hmore⟩ := List.head?_eq_some_iff.1 (hrest ▸ hword)
        exact .inr ⟨order.shell, order.source, word, more, program, path, isUsual,
          hmore ▸ hwords, hload, hnames, rfl⟩

/-- With a loaded program, all that is left is to place its script. -/
theorem plan_of_load {s : Setting} {source word : String} {program : Program} (shell : Shell)
    (rest : List String) (hload : (Source.load s source).outcome = .ok program)
    (hword : Order.isDestination word = true) :
    outcomeFrom (plan s (shell.name :: source :: word :: rest)) [] =
      outcomeFrom (placed s ⟨shell, source, some word⟩ program.name (shell.script program))
        ((Source.load s source).notes ++ [scriptNote shell program]) := by
  rw [plan, Order.ofWords_of_isDestination hword]
  dsimp only
  rw [planOrder, hload, outcomeFrom_bind, outcomeFrom_modify]
  dsimp only
  rw [outcomeFrom_bind, script, outcomeFrom_bind, outcomeFrom_modify]
  rfl

/-- Without a program, the plan is the reply to the failure of the source. -/
theorem plan_of_load_error {s : Setting} {source word : String} {fault : Fault} (shell : Shell)
    (rest : List String) (hload : (Source.load s source).outcome = .error fault)
    (hword : Order.isDestination word = true) :
    (outcomeFrom (plan s (shell.name :: source :: word :: rest)) []).1 = reply fault := by
  rw [plan, Order.ofWords_of_isDestination hword]
  dsimp only
  rw [planOrder, hload, outcomeFrom_bind, outcomeFrom_modify]
  rfl

/-- The script of a loaded program is to be written to the path that the user writes. -/
theorem plan_of_userPath {s : Setting} {source word : String} {program : Program}
    {path : Path} (shell : Shell) (rest : List String)
    (hload : (Source.load s source).outcome = .ok program)
    (hword : Order.isDestination word = true) (hother : word ≠ Order.usualPlace)
    (hpath : s.userPath word = .ok path) :
    ∃ notes, outcomeFrom (plan s (shell.name :: source :: word :: rest)) [] =
      (.ok (.install shell (shell.script program) path.text false), notes) := by
  rw [plan_of_load shell rest hload hword, placed]
  dsimp only
  rw [if_neg hother, hpath]
  exact ⟨_, rfl⟩

/-- The script of a loaded program is to be written to the path that the configuration gives. -/
theorem plan_of_usual {s : Setting} {source path : String} {program : Program} {config : Fields}
    (shell : Shell) (rest : List String) (hload : (Source.load s source).outcome = .ok program)
    (hconfig : ∀ notes, (outcomeFrom (Config.load s) notes).1 = .ok config)
    (hpath : Destination.default s shell.name program.name config = .ok path) :
    ∃ notes, outcomeFrom (plan s (shell.name :: source :: Order.usualPlace :: rest)) [] =
      (.ok (.install shell (shell.script program) path true), notes) := by
  rw [plan_of_load shell rest hload (by decide), placed]
  dsimp only
  rw [if_pos rfl, installUsual, Noted.attempt, outcomeFrom_bind, outcomeFrom_tryCatch,
    outcomeFrom_map]
  rw [hconfig]
  dsimp only [Except.map]
  rw [hpath]
  exact ⟨_, rfl⟩

theorem run_eq {words : List String} {found : Plan} {notes : List Note}
    (hplan : outcomeFrom (plan s words) [] = (.ok found, notes)) :
    (run s words).outcome = (found.carryOut s s.files).1 ∧
      (run s words).files = (found.carryOut s s.files).2 := by
  have houtcome : (plan s words).outcome = (.ok found, notes) := hplan
  unfold run
  rw [houtcome]
  exact ⟨rfl, rfl⟩

/-- A run with a reply worked out a plan. -/
theorem exists_plan {words : List String} {reply : ExitCode × String}
    (hrun : (run s words).outcome = .ok reply) :
    ∃ found notes, outcomeFrom (plan s words) [] = (.ok found, notes) := by
  rcases hplan : outcomeFrom (plan s words) [] with ⟨fault | found, notes⟩
  · have houtcome : (plan s words).outcome = (.error fault, notes) := hplan
    unfold run at hrun
    rw [houtcome] at hrun
    cases hrun
  · exact ⟨found, notes, rfl⟩

end Generate

/-- A script that is written is reported. -/
theorem Plan.carryOut_of_tryWrite {s : Setting} {files after : FileTree} {shell : Shell}
    {script path : String} {isUsual : Bool}
    (hwritten : Destination.tryWrite s.workFolder script path files = (.ok none, after)) :
    (Plan.install shell script path isUsual).carryOut s files =
      ((Destination.success s shell.name path isUsual).map fun text => (.success, text),
        after) := by
  rw [carryOut, hwritten]

/-- What writing a script comes to: a success with the script at its path, or a failure that leaves
all files as they are. -/
theorem Plan.carryOut_install_cases {s : Setting} {files : FileTree} {shell : Shell}
    {script : String} {path : Path} {isUsual : Bool} {code : ExitCode} {text : String}
    (hpath : Path.ofText path.text = path)
    (hdone : ((Plan.install shell script path.text isUsual).carryOut s files).1 =
      .ok (code, text)) :
    (code = .success ∧ WrittenAt s.workFolder path script.toUTF8 files
      ((Plan.install shell script path.text isUsual).carryOut s files).2) ∨
    (code ≠ .success ∧ SameFiles files
      ((Plan.install shell script path.text isUsual).carryOut s files).2) := by
  have hcases := Destination.tryWrite_cases s.workFolder script path.text files
  rw [hpath] at hcases
  unfold carryOut at hdone ⊢
  rcases hcases with ⟨cause, after, _, hfails⟩ | ⟨refused, after, hsame, hrefused⟩ |
    ⟨made, place, hready, hwritten⟩
  · simp only [hfails] at hdone
    cases hdone
  · simp only [hrefused] at hdone ⊢
    cases hdone
    exact .inr ⟨by decide, hsame⟩
  · simp only [hwritten] at hdone ⊢
    refine .inl ⟨?_, hready.writtenAt script.toUTF8⟩
    cases hsuccess : Destination.success s shell.name path.text isUsual with
    | error fault =>
      rw [hsuccess] at hdone
      cases hdone
    | ok said =>
      rw [hsuccess] at hdone
      cases hdone
      rfl

/-- A run that succeeds with a destination changes the file tree in one place, where the script
stands afterwards that the run shows without a destination; folders on the way there may be new. A
run without a destination, and one that ends in any other reply, leaves all files as they are. -/
theorem generate_changes_destination_only {s : Setting} {words : List String} {code : ExitCode}
    {text : String} (hrun : (Generate.run s words).outcome = .ok (code, text)) :
    (∀ name source word rest, words = name :: source :: word :: rest → code = .success →
      ∃ shell program script path, name = Shell.name shell ∧
        (Source.load s source).outcome = .ok program ∧
        (Generate.run s [name, source]).outcome = .ok (.success, script) ∧
        Destination.Names s shell program
          ((Source.load s source).notes ++ [Generate.scriptNote shell program]) word path ∧
        WrittenAt s.workFolder path script.toUTF8 s.files (Generate.run s words).files) ∧
    (words.length ≤ 2 ∨ code ≠ .success → SameFiles s.files (Generate.run s words).files) := by
  obtain ⟨found, notes, hplan⟩ := Generate.exists_plan hrun
  obtain ⟨houtcome, hfiles⟩ := Generate.run_eq hplan
  rw [hfiles]
  rw [houtcome] at hrun
  rcases Generate.plan_cases hplan with ⟨_, _, rfl, hreply⟩ |
    ⟨shell, source, word, rest, program, path, isUsual, hwords, hload, hnames, rfl⟩
  · cases hrun
    refine ⟨?_, fun _ _ _ => Iff.rfl⟩
    rintro name source word rest rfl rfl
    rcases hreply with hshort | hcode
    · simp at hshort
    · exact absurd rfl hcode
  · have hwrites := Plan.carryOut_install_cases hnames.ofText_text hrun
    constructor
    · rintro _ _ _ _ hparts rfl
      obtain ⟨rfl, rfl, rfl, rfl⟩ := by simpa using hwords.symm.trans hparts
      refine ⟨shell, program, shell.script program, path, rfl, hload,
        Generate.outcome_of_load_ok hload, hnames, ?_⟩
      rcases hwrites with ⟨_, hwritten⟩ | ⟨hcode, _⟩
      · exact hwritten
      · exact absurd rfl hcode
    · intro hother
      rcases hwrites with ⟨hcode, _⟩ | ⟨_, hsame⟩
      · rcases hother with hshort | hfailed
        · simp [hwords] at hshort
        · exact absurd hcode hfailed
      · exact hsame

/-- A setting with the parser of a tool, and with notes in the working folder. -/
def Setting.ofNotes : Setting :=
  { environment := [("HOME", "/home/me")]
    workFolder := ["work"]
    modules := [("m", [("p", .parser { name := .text "tool" })])]
    files := ⟨[(["work"], .folder), (["work", "notes"], .file "keep me".toUTF8)]⟩ }

/-- The program of that parser. -/
def Program.ofTool : Program :=
  Parser.program { name := .text "tool" } {}

theorem Source.load_ofTool : (Source.load .ofNotes "m:p").outcome = .ok .ofTool ∧
    (Source.load .ofNotes "m:p").warnings = [] := by
  have hload : Source.load .ofNotes "m:p" = Source.loadParser .ofNotes "m:p" :=
    Source.IsReference.load_eq ⟨⟨.workFolder, ["m:p"]⟩, rfl, rfl, by simp⟩
  rw [hload]
  exact ⟨rfl, rfl⟩

theorem Program.surrogateRun?_ofTool : Text.surrogateRun? (Shell.fish.script .ofTool) = none := by
  decide +kernel

/-- An instance: the script is written below a folder of the home folder that is not there yet. -/
theorem generate_changes_destination_of_tool :
    let words := ["fish", "m:p", "~/new/tool.fish"]
    let done := Generate.run .ofNotes words
    done.outcome = .ok (.success, "Completions written to ~/new/tool.fish") ∧
      ∃ script, (Generate.run .ofNotes ["fish", "m:p"]).outcome = .ok (.success, script) ∧
        WrittenAt ["work"] ⟨.root, ["home", "me", "new", "tool.fish"]⟩ script.toUTF8
          Setting.ofNotes.files done.files := by
  intro words done
  have hload := Source.load_ofTool.1
  have hpath : Setting.ofNotes.userPath "~/new/tool.fish" =
      .ok ⟨.root, ["home", "me", "new", "tool.fish"]⟩ := by
    rfl
  have hrun : done.outcome = .ok (.success, "Completions written to ~/new/tool.fish") := by
    obtain ⟨notes, hplan⟩ : ∃ notes, outcomeFrom (Generate.plan .ofNotes words) [] =
        (.ok (.install .fish (Shell.fish.script .ofTool) "/home/me/new/tool.fish" false), notes) :=
      Generate.plan_of_userPath .fish [] hload (by decide) (by decide) hpath
    obtain ⟨after, hwritten⟩ : ∃ after, Destination.tryWrite ["work"] (Shell.fish.script .ofTool)
        "/home/me/new/tool.fish" Setting.ofNotes.files = (.ok none, after) := by
      rw [Destination.tryWrite, Destination.write, FileTask.writeText,
        Program.surrogateRun?_ofTool]
      exact ⟨_, rfl⟩
    rw [(Generate.run_eq hplan).1, Plan.carryOut_of_tryWrite hwritten]
    rfl
  refine ⟨hrun, ?_⟩
  obtain ⟨shell, program, script, path, _, _, hscript, hnames, hwritten⟩ :=
    (generate_changes_destination_only hrun).1 _ _ _ _ rfl rfl
  have hsame : path = ⟨.root, ["home", "me", "new", "tool.fish"]⟩ :=
    Except.ok.inj (hnames.symm.trans hpath)
  subst hsame
  exact ⟨script, hscript, hwritten⟩

end Tabsmith
