import Mathlib.Data.List.Induction
import Tabsmith.Console
import Tabsmith.Proofs.Log

/-!
What the logs of a run write to, whatever was asked of them and in whatever order. New outlets take the
place of the old ones in every log but the root, which is in no table of logs: it keeps the old ones beside
the new, unless a log below its name has put that name into the table.
-/

namespace Tabsmith

/-- Something that is asked of the logs: that they get new outlets, that there is a log of some name, or
that debugging is turned on or off. -/
inductive LogCall where
  | opening (workFolder : Place) (env : Environment) (terminal : Bool) (file : String) (debug : Bool)
  | asking (name : String) (level : Option Int)
  | debugging (isDebug : Bool)
deriving Repr, Inhabited

namespace LogCall

/-- The call puts new outlets in place. -/
def isOpening : LogCall → Bool
  | opening .. => true
  | asking .. | debugging _ => false

/-- The console after a call, which may have failed to open a file. -/
def run (c : Console) : LogCall → Console
  | opening workFolder env terminal file debug => (c.openLog workFolder env terminal file debug).2
  | asking name level => { c with log := c.log.ask name level }
  | debugging isDebug => { c with log := { c.log with isDebug := isDebug } }

/-- The console after calls, one after the other. -/
def runAll (c : Console) (calls : List LogCall) : Console :=
  calls.foldl run c

theorem runAll_concat (c : Console) (calls : List LogCall) (call : LogCall) :
    runAll c (calls ++ [call]) = run (runAll c calls) call := by
  rw [runAll, List.foldl_append]
  rfl

end LogCall

namespace Log

/-- What holds of the logs of every run. Outlets are told by their numbers, and a log other than the root
has none or those in use. The root may have others, but if it has none of these, it is like the others. -/
structure Sound (log : Log) : Prop where
  numbered : ∀ outlet ∈ log.outlets, outlet.number < log.issued
  apart : log.outlets.Nodup
  others : ∀ name, isRoot name = false → ∀ outlets ∈ log.outletsOf? name,
    outlets = [] ∨ outlets = log.outlets
  rootNumbered : ∀ outlet ∈ log.root.outlets, outlet.number < log.issued
  rootApart : log.root.outlets.Nodup
  rootCurrent : log.root.outlets ⊆ log.outlets →
    log.root.outlets = [] ∨ log.root.outlets = log.outlets

theorem sound_start (env : Environment) : (start env).Sound where
  numbered := by simp [start]
  apart := List.nodup_nil
  others name hname outlets h := by
    rw [outletsOf?_of_not_root hname] at h
    cases h
  rootNumbered := by simp [start]
  rootApart := List.nodup_nil
  rootCurrent _ := .inl rfl

/-- The outlets in use of a log that has none or those, once it is asked for. -/
theorem withOutlets_of_current {outlets current : List Outlet} (hcurrent : current.Nodup)
    (h : outlets = [] ∨ outlets = current) : withOutlets outlets current = current := by
  rcases h with rfl | rfl
  · exact withOutlets_of_nodup hcurrent
  · exact withOutlets_of_subset (List.Subset.refl _)

theorem Sound.nodup_getD {log : Log} (h : log.Sound) (name : String) :
    ((log.outletsOf? name).getD []).Nodup := by
  cases houtlets : log.outletsOf? name with
  | none => exact List.nodup_nil
  | some outlets =>
    cases hname : isRoot name with
    | true =>
      rw [outletsOf?_root hname] at houtlets
      exact Option.some.inj houtlets ▸ h.rootApart
    | false =>
      rcases h.others name hname outlets houtlets with rfl | rfl
      · exact List.nodup_nil
      · exact h.apart

theorem Sound.others_getD {log : Log} (h : log.Sound) {name : String} (hname : isRoot name = false) :
    (log.outletsOf? name).getD [] = [] ∨ (log.outletsOf? name).getD [] = log.outlets := by
  cases houtlets : log.outletsOf? name with
  | none => exact .inl rfl
  | some outlets => exact h.others name hname outlets houtlets

/-- A log that has outlets in use only has none or all of them. -/
theorem Sound.getD_cases {log : Log} (h : log.Sound) {name : String}
    (hsubset : (log.outletsOf? name).getD [] ⊆ log.outlets) :
    (log.outletsOf? name).getD [] = [] ∨ (log.outletsOf? name).getD [] = log.outlets := by
  cases hname : isRoot name with
  | false => exact h.others_getD hname
  | true =>
    rw [outletsOf?_root hname, Option.getD_some] at hsubset ⊢
    exact h.rootCurrent hsubset

theorem Sound.debugging {log : Log} (h : log.Sound) (isDebug : Bool) :
    Sound { log with isDebug := isDebug } :=
  ⟨h.numbered, h.apart, h.others, h.rootNumbered, h.rootApart, h.rootCurrent⟩

/-- The root's outlets after a log was asked for. -/
theorem root_ask (log : Log) (name : String) (level : Option Int) :
    (log.ask name level).root.outlets =
      if isRoot name = true then withOutlets log.root.outlets log.outlets else log.root.outlets := by
  have hroot : isRoot rootName = true := by decide
  have houtlets := outletsOf?_ask log name rootName level
  rw [outletsOf?_root hroot] at houtlets
  simp only [sameLog_iff_isRoot hroot] at houtlets
  split at houtlets
  next hname =>
    rw [if_pos hname, Option.some.inj houtlets, outletsOf?_root hname, Option.getD_some]
  next hname => rw [if_neg hname, Option.some.inj (houtlets.trans (outletsOf?_root hroot))]

theorem Sound.ask {log : Log} (h : log.Sound) (name : String) (level : Option Int) :
    (log.ask name level).Sound where
  numbered := by simpa using h.numbered
  apart := by simpa using h.apart
  others other hother outlets houtlets := by
    rw [outletsOf?_ask] at houtlets
    rw [outlets_ask]
    split at houtlets
    next hsame =>
      have hname : isRoot name = false := hsame.isRoot_eq.trans hother
      cases houtlets
      exact .inr (withOutlets_of_current h.apart (h.others_getD hname))
    next => exact h.others other hother outlets houtlets
  rootNumbered := by
    rw [root_ask, issued_ask]
    split
    · intro outlet hmem
      rcases mem_withOutlets.1 hmem with hmem | hmem
      · exact h.rootNumbered outlet hmem
      · exact h.numbered outlet hmem
    · exact h.rootNumbered
  rootApart := by
    rw [root_ask]
    split
    · exact nodup_withOutlets h.rootApart _
    · exact h.rootApart
  rootCurrent := by
    rw [root_ask, outlets_ask]
    split
    · intro hsubset
      have hold := h.rootCurrent fun outlet hmem => hsubset (mem_withOutlets.2 (.inl hmem))
      exact .inr (withOutlets_of_current h.apart hold)
    · exact h.rootCurrent

/-- Asking for a log does not make outlets of the root go out of use. -/
theorem root_subset_ask_iff (log : Log) (name : String) (level : Option Int) :
    (log.ask name level).root.outlets ⊆ (log.ask name level).outlets ↔
      log.root.outlets ⊆ log.outlets := by
  rw [root_ask, outlets_ask]
  split
  · constructor
    · exact fun h outlet hmem => h (mem_withOutlets.2 (.inl hmem))
    · exact fun h outlet hmem => (mem_withOutlets.1 hmem).elim (fun hold => h hold) id
  · rfl

/-! ## New outlets -/

/-- The logs get new outlets in place of those in use, none if a file cannot be opened. -/
theorem exists_kinds_openLog (c : Console) (workFolder : Place) (env : Environment) (terminal : Bool)
    (file : String) (debug : Bool) :
    ∃ kinds : List OutletKind, (c.openLog workFolder env terminal file debug).2.log =
      kinds.foldl addOutlet { c.log with isDebug := c.log.isDebug || debug }.clear := by
  unfold Console.openLog
  dsimp only
  split
  · exact ⟨[_], rfl⟩
  · split
    · exact ⟨[], rfl⟩
    · exact ⟨[_, _], rfl⟩

theorem issued_clear (log : Log) : log.clear.issued = log.issued := by
  rw [clear_eq]
  exact List.foldlRecOn log.outlets stripped (motive := fun after => after.issued = log.issued) rfl
    fun _ h outlet _ => (issued_stripped _ outlet).trans h

/-- New outlets are in use after the old ones were taken away, and no log has them yet. -/
theorem exists_replaced (kinds : List OutletKind) (log : Log) :
    ∃ added : List Outlet, (kinds.foldl addOutlet log.clear).outlets = added ∧ added.Nodup ∧
      (∀ outlet ∈ added, log.issued ≤ outlet.number ∧
        outlet.number < (kinds.foldl addOutlet log.clear).issued) ∧
      log.issued ≤ (kinds.foldl addOutlet log.clear).issued ∧
      ∀ name, (kinds.foldl addOutlet log.clear).outletsOf? name =
        (log.outlets.foldl stripped log).outletsOf? name := by
  obtain ⟨added, hentries, hroot, houtlets, hissued, hapart, hnumbers⟩ := exists_added kinds log.clear
  rw [issued_clear] at hissued hnumbers
  refine ⟨added, houtlets.trans (List.nil_append added), hapart, hnumbers, hissued, fun name => ?_⟩
  unfold outletsOf? entry?
  rw [hentries, hroot]
  rfl

theorem root_replaced (kinds : List OutletKind) (log : Log) :
    (kinds.foldl addOutlet log.clear).root.outlets =
      (log.outlets.foldl stripped log).root.outlets := by
  obtain ⟨_, _, _, _, _, hsame⟩ := exists_replaced kinds log
  have hroot : isRoot rootName = true := by decide
  have hname := hsame rootName
  rw [outletsOf?_root hroot, outletsOf?_root hroot] at hname
  exact Option.some.inj hname

/-- The root has no new outlet before it is asked for. -/
theorem Sound.root_subset_replaced_iff_eq_nil {log : Log} (h : log.Sound) (kinds : List OutletKind) :
    (kinds.foldl addOutlet log.clear).root.outlets ⊆ (kinds.foldl addOutlet log.clear).outlets ↔
      (kinds.foldl addOutlet log.clear).root.outlets = [] := by
  obtain ⟨added, houtlets, _, hnumbers, _⟩ := exists_replaced kinds log
  constructor
  · intro hsubset
    refine List.eq_nil_iff_forall_not_mem.2 fun outlet hmem => ?_
    have hnew := (hnumbers outlet (houtlets ▸ hsubset hmem)).1
    rw [root_replaced] at hmem
    have hold := h.rootNumbered outlet ((root_foldl_stripped_sublist _ _).subset hmem)
    omega
  · intro hnil
    rw [hnil]
    exact List.nil_subset _

/-- Replacing the outlets leaves the root with outlets in use only exactly if it had only such, and had
none or is in the table. -/
theorem Sound.root_subset_replaced_iff {log : Log} (h : log.Sound) (kinds : List OutletKind) :
    (kinds.foldl addOutlet log.clear).root.outlets ⊆ (kinds.foldl addOutlet log.clear).outlets ↔
      log.root.outlets ⊆ log.outlets ∧ (log.root.outlets = [] ∨ log.ListsRoot) := by
  rw [h.root_subset_replaced_iff_eq_nil, root_replaced]
  exact root_foldl_stripped_eq_nil_iff log h.apart h.rootCurrent

theorem Sound.replaced {log : Log} (h : log.Sound) (kinds : List OutletKind) :
    (kinds.foldl addOutlet log.clear).Sound := by
  obtain ⟨added, houtlets, hapart, hnumbers, hissued, hsame⟩ := exists_replaced kinds log
  have hroot := root_foldl_stripped_sublist log.outlets log
  refine ⟨?_, houtlets ▸ hapart, ?_, ?_, ?_, ?_⟩
  · exact fun outlet hmem => (hnumbers outlet (houtlets ▸ hmem)).2
  · intro name hname outlets hmem
    rw [hsame] at hmem
    refine .inl (outletsOf?_foldl_stripped hname log.outlets log (fun before hbefore => ?_) _ hmem)
    rcases h.others name hname before hbefore with rfl | rfl
    · exact List.nil_subset _
    · exact List.Subset.refl _
  · intro outlet hmem
    rw [root_replaced] at hmem
    exact Nat.lt_of_lt_of_le (h.rootNumbered outlet (hroot.subset hmem)) hissued
  · rw [root_replaced]
    exact hroot.nodup h.rootApart
  · exact fun hsubset => .inl ((h.root_subset_replaced_iff_eq_nil kinds).1 hsubset)

/-- A log that is there stays there when the outlets are replaced. -/
theorem isSome_outletsOf?_replaced {log : Log} {name : String} (kinds : List OutletKind)
    (h : (log.outletsOf? name).isSome = true) :
    ((kinds.foldl addOutlet log.clear).outletsOf? name).isSome = true := by
  obtain ⟨_, _, _, _, _, hsame⟩ := exists_replaced kinds log
  rw [hsame]
  exact List.foldlRecOn log.outlets stripped
    (motive := fun after => (after.outletsOf? name).isSome = true) h
    fun _ hbefore outlet _ => isSome_outletsOf?_stripped outlet hbefore

end Log

namespace LogCall

/-! ## Calls -/

theorem sound_run {c : Console} (h : c.log.Sound) (call : LogCall) : (run c call).log.Sound := by
  cases call with
  | opening workFolder env terminal file debug =>
    obtain ⟨kinds, hlog⟩ := Log.exists_kinds_openLog c workFolder env terminal file debug
    rw [run, hlog]
    exact (h.debugging _).replaced kinds
  | asking name level => exact h.ask name level
  | debugging isDebug => exact h.debugging isDebug

theorem sound_runAll {c : Console} (h : c.log.Sound) (calls : List LogCall) :
    (runAll c calls).log.Sound :=
  List.foldlRecOn calls run (motive := fun after => after.log.Sound) h
    fun _ hbefore call _ => sound_run hbefore call

/-- The root goes on with outlets in use only, unless new ones are put in place while it has some and its
name is not in the table. -/
theorem root_subset_run_iff {c : Console} (h : c.log.Sound) (call : LogCall) :
    (run c call).log.root.outlets ⊆ (run c call).log.outlets ↔
      c.log.root.outlets ⊆ c.log.outlets ∧
        (call.isOpening = true → c.log.root.outlets = [] ∨ c.log.ListsRoot) := by
  cases call with
  | opening workFolder env terminal file debug =>
    obtain ⟨kinds, hlog⟩ := Log.exists_kinds_openLog c workFolder env terminal file debug
    rw [run, hlog, (h.debugging _).root_subset_replaced_iff kinds]
    exact and_congr_right fun _ => ⟨fun hclears _ => hclears, fun hclears => hclears rfl⟩
  | asking name level =>
    rw [run, Log.root_subset_ask_iff]
    simp [isOpening]
  | debugging isDebug =>
    rw [run]
    simp [isOpening]

/-- Whenever new outlets are put in place, the root has none, or the table of logs has its name. -/
def ClearsRoot (c : Console) (calls : List LogCall) : Prop :=
  ∀ before call, before ++ [call] <+: calls → call.isOpening = true →
    (runAll c before).log.root.outlets = [] ∨ (runAll c before).log.ListsRoot

theorem clearsRoot_concat_iff {c : Console} {calls : List LogCall} {call : LogCall} :
    ClearsRoot c (calls ++ [call]) ↔ ClearsRoot c calls ∧ (call.isOpening = true →
      (runAll c calls).log.root.outlets = [] ∨ (runAll c calls).log.ListsRoot) := by
  constructor
  · intro h
    exact ⟨fun before other hinitial => h before other (hinitial.trans (List.prefix_append _ _)),
      h calls call (List.prefix_refl _)⟩
  · rintro ⟨hcalls, hlast⟩ before other hinitial
    rcases List.prefix_concat_iff.1 hinitial with heq | hinitial
    · obtain ⟨rfl, hcall⟩ := List.append_inj' heq rfl
      obtain rfl := List.singleton_inj.1 hcall
      exact hlast
    · exact hcalls before other hinitial

theorem root_subset_runAll_iff {c : Console} (h : c.log.Sound)
    (hroot : c.log.root.outlets ⊆ c.log.outlets) (calls : List LogCall) :
    (runAll c calls).log.root.outlets ⊆ (runAll c calls).log.outlets ↔ ClearsRoot c calls := by
  induction calls using List.reverseRecOn with
  | nil =>
    refine iff_of_true hroot fun before call hinitial => ?_
    simp at hinitial
  | append_singleton calls call ih =>
    rw [runAll_concat, root_subset_run_iff (sound_runAll h calls), ih, clearsRoot_concat_iff]

/-- A log that was asked for stays there. -/
theorem isSome_outletsOf?_run {c : Console} {name : String} (call : LogCall)
    (h : (c.log.outletsOf? name).isSome = true) : ((run c call).log.outletsOf? name).isSome = true := by
  cases call with
  | opening workFolder env terminal file debug =>
    obtain ⟨kinds, hlog⟩ := Log.exists_kinds_openLog c workFolder env terminal file debug
    rw [run, hlog]
    exact Log.isSome_outletsOf?_replaced kinds h
  | asking other level =>
    rw [run, Log.outletsOf?_ask]
    split
    · rfl
    · exact h
  | debugging isDebug => exact h

theorem isSome_outletsOf?_runAll {c : Console} {calls : List LogCall} {name : String}
    {level : Option Int} (h : asking name level ∈ calls) :
    ((runAll c calls).log.outletsOf? name).isSome = true := by
  induction calls using List.reverseRecOn with
  | nil => cases h
  | append_singleton calls call ih =>
    rw [runAll_concat]
    rcases List.mem_append.1 h with hbefore | hlast
    · exact isSome_outletsOf?_run call (ih hbefore)
    · rw [← List.mem_singleton.1 hlast, run, Log.outletsOf?_ask, if_pos (.refl name)]
      rfl

/-- After calls from the start of a run, only the root may have outlets that are no longer in use. -/
theorem subset_iff_clearsRoot {env : Environment} {files : FileTree} {calls : List LogCall}
    {log : Log} (hlog : log = (runAll { files := files, log := .start env } calls).log)
    (name : String) :
    (log.outletsOf? name).getD [] ⊆ log.outlets ↔
      (Log.isRoot name = true → ClearsRoot { files := files, log := .start env } calls) := by
  have hstart : Log.Sound { files := files, log := .start env : Console }.log := Log.sound_start env
  cases hname : Log.isRoot name with
  | false =>
    have hsound : log.Sound := hlog ▸ sound_runAll hstart calls
    refine iff_of_true ?_ (by simp)
    rcases hsound.others_getD hname with hnone | hsame
    · rw [hnone]
      exact List.nil_subset _
    · rw [hsame]
      exact List.Subset.refl _
  | true =>
    rw [Log.outletsOf?_root hname, Option.getD_some, hlog,
      root_subset_runAll_iff hstart (List.nil_subset _)]
    simp

end LogCall

/-- Whatever is asked of the logs of a run, the outlets of a log are different from each other, and a log
other than the root has outlets in use only, and all of them right after it is asked for: a record goes
to each once. The root has all of them then too, but it has outlets in use only exactly if, whenever new
ones were put in place before, it had none or its name was in the table of logs. -/
theorem outlets_in_use_iff (env : Environment) (files : FileTree) (calls : List LogCall)
    (name : String) :
    let start : Console := { files := files, log := .start env }
    let log := (LogCall.runAll start calls).log
    (∀ level, .asking name level ∈ calls → ∃ entry, log.entry? name = some entry ∧
      entry.outlets.Nodup ∧
      (entry.outlets ⊆ log.outlets ↔ (Log.isRoot name = true → LogCall.ClearsRoot start calls))) ∧
    ∀ level, ∃ entry, Log.entry? (log.ask name level) name = some entry ∧ entry.outlets.Nodup ∧
      log.outlets ⊆ entry.outlets ∧ (log.ask name level).outlets = log.outlets ∧
      (entry.outlets = log.outlets ↔ (Log.isRoot name = true → LogCall.ClearsRoot start calls)) ∧
      (log.ask name level).outletsFor name = entry.outlets := by
  intro start log
  have hsound : log.Sound := LogCall.sound_runAll (Log.sound_start env) calls
  have hapart := hsound.nodup_getD name
  have hcurrent : (log.outletsOf? name).getD [] ⊆ log.outlets ↔ _ :=
    LogCall.subset_iff_clearsRoot rfl name
  constructor
  · intro level hasked
    obtain ⟨outlets, houtlets⟩ := Option.isSome_iff_exists.1
      (LogCall.isSome_outletsOf?_runAll (c := start) hasked)
    change log.outletsOf? name = some outlets at houtlets
    obtain ⟨entry, hentry, rfl⟩ := Option.map_eq_some_iff.1 houtlets
    rw [houtlets, Option.getD_some] at hapart hcurrent
    exact ⟨entry, hentry, hapart, hcurrent⟩
  · intro level
    have houtlets := Log.outletsOf?_ask log name name level
    rw [if_pos (.refl name)] at houtlets
    obtain ⟨entry, hentry, hadded⟩ := Option.map_eq_some_iff.1 houtlets
    refine ⟨entry, hentry, ?_, ?_, Log.outlets_ask log name level, ?_, ?_⟩
    · rw [hadded]
      exact Log.nodup_withOutlets hapart _
    · intro outlet hmem
      rw [hadded]
      exact Log.mem_withOutlets.2 (.inr hmem)
    · rw [hadded, ← hcurrent]
      constructor
      · intro hsame outlet hmem
        rw [← hsame]
        exact Log.mem_withOutlets.2 (.inl hmem)
      · exact fun hsubset => Log.withOutlets_of_current hsound.apart (hsound.getD_cases hsubset)
    · rw [Log.outletsFor_ask, hadded]

/-- An instance: outlets are put in place three times, once in vain, as a folder is missing. -/
theorem outlets_in_use_of_server :
    let opening (file : String) : LogCall := .opening [] [] false file true
    let calls := [opening "", .asking "server.http" none, opening "missing/log", opening "log",
      .asking "server.http" none]
    let log := (LogCall.runAll { log := .start [] } calls).log
    log.outlets.map (·.kind) = [.file ["log"], .screen true false] ∧
      ∃ entry, log.entry? "server.http" = some entry ∧ entry.outlets.Nodup ∧
        entry.outlets ⊆ log.outlets := by
  intro opening calls log
  have hasked : LogCall.asking "server.http" none ∈ calls := .tail _ (.head _)
  obtain ⟨entry, hentry, hapart, hcurrent⟩ :=
    (outlets_in_use_iff [] {} calls "server.http").1 none hasked
  have hother : Log.isRoot "server.http" = false := by decide
  exact ⟨by decide +kernel, entry, hentry, hapart, hcurrent.2 fun hroot => by simp [hother] at hroot⟩

/-- The root keeps the screen that it was given when the outlets are replaced, and once it is asked for
again a record goes to the old screen and to the new one. -/
theorem root_keeps_replaced_outlet :
    let opening : LogCall := .opening [] [] false "" false
    let calls := [opening, .asking "root" none, opening]
    let log := (LogCall.runAll { log := .start [] } calls).log
    log.outlets = [⟨1, .screen false false⟩] ∧
      (log.entry? "root").map (·.outlets) = some [⟨0, .screen false false⟩] ∧
      (log.ask "root").outletsFor "root" = [⟨0, .screen false false⟩, ⟨1, .screen false false⟩] := by
  decide +kernel

end Tabsmith
