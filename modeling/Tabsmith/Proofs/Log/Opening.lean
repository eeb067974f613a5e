import Tabsmith.Proofs.FileTree.Writing
import Tabsmith.Proofs.Log.Calls

/-!
Opening a log file that cannot be opened. The outlets in use are taken away before the file is tried, and
debugging is turned on before that, so that the logs are left as they were only where there was nothing to
take away and nothing to turn on.
-/

namespace Tabsmith

open FileTree

namespace FileTask

variable {workFolder : Place} {p : Path} {files : FileTree}

theorem outcomeFrom_place_of_placeOf {found : Place} (haskable : p.IsAskable)
    (hfound : files.placeOf workFolder p = .ok found) :
    outcomeFrom (place workFolder p) files = (.ok found, files) := by
  obtain ⟨hbytes, hnull⟩ := haskable
  unfold place
  rw [hbytes]
  dsimp only
  rw [hnull, if_neg Bool.false_ne_true, outcomeFrom_bind, outcomeFrom_get]
  dsimp only
  rw [hfound]
  rfl

/-- A file is at the place of a path after it was opened, or nothing is changed. -/
theorem outcomeFrom_opening (workFolder : Place) (p : Path) (files : FileTree) :
    (∃ cause, outcomeFrom (update workFolder p id >>= fun _ => place workFolder p) files =
      (.error cause, files)) ∨
    ∃ found content, outcomeFrom (update workFolder p id >>= fun _ => place workFolder p) files =
      (.ok found, files.put found (.file content)) := by
  rw [outcomeFrom_bind]
  rcases outcomeFrom_update workFolder p id files with ⟨cause, _, hfails⟩ |
    ⟨found, content, haskable, hfound, hfree, hopened⟩
  · rw [hfails]
    exact .inl ⟨cause, rfl⟩
  · rw [hopened]
    have hplace := (keepsFolders_put hfree (.file (id content))).placeOf hfound
    exact .inr ⟨found, content, outcomeFrom_place_of_placeOf haskable hplace⟩

end FileTask

/-- What comes of opening logs: new outlets in place of the old ones, or none if the file cannot be opened.
The file tree is then as it was. -/
theorem Console.openLog_cases (c : Console) (workFolder : Place) (env : Environment) (terminal : Bool)
    (file : String) (debug : Bool) :
    (∃ cause, c.openLog workFolder env terminal file debug =
      (.error cause, { c with log := { c.log with isDebug := c.log.isDebug || debug }.clear })) ∨
    ∃ after, c.openLog workFolder env terminal file debug = (.ok (), after) := by
  unfold openLog
  dsimp only
  split
  · exact .inr ⟨_, rfl⟩
  · rcases FileTask.outcomeFrom_opening workFolder
      ((Path.mk .root workFolder).join (Path.ofText file)).collapsed c.files with
      ⟨cause, hfails⟩ | ⟨found, content, hopened⟩
    · rw [← outcomeFrom, hfails]
      exact .inl ⟨cause, rfl⟩
    · rw [← outcomeFrom, hopened]
      exact .inr ⟨_, rfl⟩

namespace Log

/-- Two states of the logs are the same in what is written: in debugging, in the outlets in use, and in
those of every log. -/
structure WritesLike (log other : Log) : Prop where
  isDebug : log.isDebug = other.isDebug
  outlets : log.outlets = other.outlets
  logs : ∀ name, log.outletsOf? name = other.outletsOf? name

theorem WritesLike.refl (log : Log) : log.WritesLike log :=
  ⟨rfl, rfl, fun _ => rfl⟩

theorem clear_of_outlets_eq_nil {log : Log} (hnone : log.outlets = []) : log.clear = log := by
  rw [clear_eq, hnone, List.foldl_nil, ← hnone]

@[simp] theorem outlets_clear (log : Log) : log.clear.outlets = [] :=
  rfl

theorem isDebug_withoutOutlet (outlet : Outlet) (log : Log) (name : String) :
    (withoutOutlet outlet log name).isDebug = log.isDebug := by
  unfold withoutOutlet setEntry create
  dsimp only
  split <;> split <;> rfl

theorem isDebug_clear (log : Log) : log.clear.isDebug = log.isDebug := by
  rw [clear_eq]
  refine List.foldlRecOn log.outlets stripped (motive := fun after => after.isDebug = log.isDebug) rfl ?_
  intro before hbefore outlet _
  refine List.foldlRecOn (names before.entries) (withoutOutlet outlet)
    (motive := fun after => after.isDebug = log.isDebug) hbefore ?_
  intro between hbetween name _
  rw [isDebug_withoutOutlet, hbetween]

/-- Logs that are cleared have no outlets, but the root may keep some. -/
theorem Sound.outletsOf?_clear {log : Log} (h : log.Sound) {name : String} (hname : isRoot name = false) :
    (log.clear.outletsOf? name).getD [] = [] := by
  have hcleared : log.clear.Sound := h.replaced []
  rcases hcleared.others_getD hname with hnone | hsame
  · exact hnone
  · rw [hsame, outlets_clear]

theorem Sound.root_clear_eq_nil_iff {log : Log} (h : log.Sound) :
    log.clear.root.outlets = [] ↔
      log.root.outlets ⊆ log.outlets ∧ (log.root.outlets = [] ∨ log.ListsRoot) := by
  rw [← h.root_subset_replaced_iff []]
  exact (h.root_subset_replaced_iff_eq_nil []).symm

end Log

/-- Whenever a log file cannot be opened, the logs are the same in what is written exactly if no outlets were
in use and debugging was on already or not asked for. Otherwise debugging stays on, the outlets in use are
gone, and so are those of every log but the root, which loses its own exactly if they were all in use and
it had none or its name was in the table of logs. The file tree is as it was. -/
theorem writesLike_of_failed_opening_iff (env : Environment) (files : FileTree) (calls : List LogCall)
    (workFolder : Place) (current : Environment) (terminal : Bool) (file : String) (debug : Bool)
    {cause : Breakdown} {after : Console} :
    let before := LogCall.runAll { files := files, log := .start env } calls
    before.openLog workFolder current terminal file debug = (.error cause, after) →
      (after.log.WritesLike before.log ↔
        before.log.outlets = [] ∧ (debug = true → before.log.isDebug = true)) ∧
      after.log.isDebug = (before.log.isDebug || debug) ∧ after.log.outlets = [] ∧
      (∀ name, Log.isRoot name = false → (after.log.outletsOf? name).getD [] = []) ∧
      (after.log.root.outlets = [] ↔ before.log.root.outlets ⊆ before.log.outlets ∧
        (before.log.root.outlets = [] ∨ before.log.ListsRoot)) ∧
      after.files = before.files := by
  intro before hfails
  have hsound : before.log.Sound := LogCall.sound_runAll (Log.sound_start env) calls
  rcases before.openLog_cases workFolder current terminal file debug with
    ⟨found, hcleared⟩ | ⟨_, hopened⟩
  · obtain ⟨_, rfl⟩ := Prod.mk.inj (hfails.symm.trans hcleared)
    have hdebugging := hsound.debugging (before.log.isDebug || debug)
    have hflag := Log.isDebug_clear { before.log with isDebug := before.log.isDebug || debug }
    refine ⟨⟨?_, ?_⟩, hflag, rfl, fun name => hdebugging.outletsOf?_clear,
      hdebugging.root_clear_eq_nil_iff, rfl⟩
    · rintro ⟨hdebug, houtlets, _⟩
      refine ⟨houtlets.symm, fun hasked => ?_⟩
      rw [hflag, hasked, Bool.or_true] at hdebug
      exact hdebug.symm
    · rintro ⟨hnone, hasked⟩
      have hsame : (before.log.isDebug || debug) = before.log.isDebug := by
        cases debug with
        | false => rw [Bool.or_false]
        | true => rw [hasked rfl, Bool.true_or]
      dsimp only
      rw [hsame, Log.clear_of_outlets_eq_nil hnone]
      exact .refl before.log
  · cases hfails.symm.trans hopened

/-- An instance: the logs of a server lose the screen, and debugging stays on. -/
theorem writesLike_of_failed_opening_of_server :
    let calls : List LogCall := [.opening [] [] false "" false, .asking "server.http" none]
    let before := LogCall.runAll { log := .start [] } calls
    ∃ cause after, before.openLog [] [] false "missing/log" true = (.error cause, after) ∧
      ¬ after.log.WritesLike before.log ∧ after.log.isDebug = true ∧
      (after.log.outletsOf? "server.http").getD [] = [] := by
  intro calls before
  have hfails : ∃ cause after, before.openLog [] [] false "missing/log" true =
      (.error cause, after) := ⟨_, _, rfl⟩
  obtain ⟨cause, after, hfails⟩ := hfails
  obtain ⟨hsame, hdebug, _, hlogs, _⟩ :=
    writesLike_of_failed_opening_iff [] {} calls [] [] false "missing/log" true hfails
  refine ⟨cause, after, hfails, ?_, ?_, hlogs "server.http" (by decide)⟩
  · rw [hsame]
    decide +kernel
  · rw [hdebug, Bool.or_true]

/-- A log loses the screen that it had, and debugging is turned on, although the log file could not be
opened. -/
theorem failed_opening_takes_outlets_away :
    let calls : List LogCall := [.opening [] [] false "" false, .asking "a" none]
    let before := LogCall.runAll { log := .start [] } calls
    let opened := before.openLog [] [] false "missing/log" true
    opened.1 = .error (.file ⟨.missing, "/missing/log"⟩) ∧
      before.log.isDebug = false ∧ opened.2.log.isDebug = true ∧
      before.log.outlets = [⟨0, .screen false false⟩] ∧ opened.2.log.outlets = [] ∧
      before.log.outletsOf? "a" = some [⟨0, .screen false false⟩] ∧
      opened.2.log.outletsOf? "a" = some [] := by
  intro calls before opened
  have hfails : opened.1 = .error (.file ⟨.missing, "/missing/log"⟩) := rfl
  refine ⟨hfails, ?_⟩
  decide +kernel

end Tabsmith
