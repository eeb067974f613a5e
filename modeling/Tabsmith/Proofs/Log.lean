import Mathlib.Data.List.Basic
import Tabsmith.Log

/-!
What the operations on logs do to the outlets of each log. The root goes by two names and stands apart
from the table of the other logs; no operation but asking for a log and taking its outlets away changes
what a log writes to.
-/

namespace Tabsmith

namespace Log

/-! ## The table of logs -/

theorem lookup_setIn_self (name : String) (entry : Option LogEntry)
    (entries : List (String × Option LogEntry)) :
    (setIn name entry entries).lookup name = some entry := by
  induction entries with
  | nil => simp [setIn]
  | cons head rest ih =>
    obtain ⟨other, old⟩ := head
    by_cases h : other = name
    · simp [setIn, h]
    · rw [setIn, if_neg h, List.lookup_cons]
      have hne : (name == other) = false := by simpa using Ne.symm h
      simpa only [hne] using ih

theorem lookup_setIn_of_ne {name other : String} (h : other ≠ name) (entry : Option LogEntry)
    (entries : List (String × Option LogEntry)) :
    (setIn name entry entries).lookup other = entries.lookup other := by
  have hne : (other == name) = false := by simpa using h
  induction entries with
  | nil => simp [setIn, List.lookup_cons, hne]
  | cons head rest ih =>
    obtain ⟨third, old⟩ := head
    by_cases hthird : third = name
    · subst hthird
      simp [setIn, List.lookup_cons, hne]
    · rw [setIn, if_neg hthird, List.lookup_cons, List.lookup_cons, ih]

/-- The names in a table of logs, those without a log of their own counted. -/
def names (entries : List (String × Option LogEntry)) : List String :=
  entries.map (·.1)

theorem mem_names_of_lookup {entries : List (String × Option LogEntry)} {name : String}
    {entry : Option LogEntry} (h : entries.lookup name = some entry) : name ∈ names entries := by
  obtain ⟨before, after, rfl, _⟩ := List.lookup_eq_some_iff.1 h
  simp [names]

theorem names_subset_setIn (name : String) (entry : Option LogEntry)
    (entries : List (String × Option LogEntry)) : names entries ⊆ names (setIn name entry entries) := by
  induction entries with
  | nil => exact List.nil_subset _
  | cons head rest ih =>
    obtain ⟨other, old⟩ := head
    rw [setIn]
    split
    next heq => simp [names, heq]
    next => exact List.cons_subset_cons _ ih

theorem names_adopted (name : String) (entries : List (String × Option LogEntry)) :
    names (adopted name entries) = names entries := by
  simp [names, adopted]

theorem names_subset_seat (entries : List (String × Option LogEntry)) (above : List String) :
    names entries ⊆ names (seat entries above).2 := by
  induction above generalizing entries with
  | nil => exact List.Subset.refl _
  | cons name rest ih =>
    rw [seat]
    split
    · exact List.Subset.refl _
    · exact ih entries
    · refine List.Subset.trans ?_ (ih _)
      rw [names, names, List.map_append]
      exact List.subset_append_left _ _

/-- The outlets that a table has for a name, if there is a log of that name. -/
def outletsIn (entries : List (String × Option LogEntry)) (name : String) : Option (List Outlet) :=
  (entries.lookup name).join.map (·.outlets)

theorem outletsIn_setIn_self (name : String) (entry : Option LogEntry)
    (entries : List (String × Option LogEntry)) :
    outletsIn (setIn name entry entries) name = entry.map (·.outlets) := by
  rw [outletsIn, lookup_setIn_self, Option.join_some]

theorem outletsIn_setIn_of_ne {name other : String} (h : other ≠ name) (entry : Option LogEntry)
    (entries : List (String × Option LogEntry)) :
    outletsIn (setIn name entry entries) other = outletsIn entries other := by
  rw [outletsIn, lookup_setIn_of_ne h, outletsIn]

/-- Adopting logs changes what is above them and nothing else. -/
theorem outletsIn_adopted (name other : String) (entries : List (String × Option LogEntry)) :
    outletsIn (adopted name entries) other = outletsIn entries other := by
  unfold outletsIn adopted
  induction entries with
  | nil => rfl
  | cons head rest ih =>
    obtain ⟨third, entry?⟩ := head
    rw [List.map_cons, List.lookup_cons, List.lookup_cons]
    split
    · cases entry? with
      | none => rfl
      | some entry =>
        dsimp only [Option.map_some, Option.join_some]
        split <;> rfl
    · exact ih

theorem outletsIn_seat (entries : List (String × Option LogEntry)) (above : List String)
    (other : String) : outletsIn (seat entries above).2 other = outletsIn entries other := by
  induction above generalizing entries with
  | nil => rfl
  | cons name rest ih =>
    rw [seat]
    split
    · rfl
    · exact ih entries
    next hnone =>
      rw [ih, outletsIn, outletsIn, List.lookup_append]
      cases hother : entries.lookup other with
      | some entry? => rfl
      | none =>
        rw [Option.none_or, List.lookup_cons]
        split <;> rfl

/-! ## The outlets of a log -/

/-- Two names are those of one log. -/
def SameLog (name other : String) : Prop :=
  name = other ∨ isRoot name = true ∧ isRoot other = true

instance (name other : String) : Decidable (SameLog name other) :=
  inferInstanceAs (Decidable (_ ∨ _))

theorem SameLog.refl (name : String) : SameLog name name :=
  .inl rfl

theorem SameLog.isRoot_eq {name other : String} (h : SameLog name other) :
    isRoot name = isRoot other := by
  rcases h with rfl | ⟨hname, hother⟩
  · rfl
  · rw [hname, hother]

theorem sameLog_iff_eq {name other : String} (hother : isRoot other = false) :
    SameLog name other ↔ name = other := by
  simp [SameLog, hother]

theorem sameLog_iff_isRoot {name other : String} (hother : isRoot other = true) :
    SameLog name other ↔ isRoot name = true := by
  constructor
  · exact fun h => h.isRoot_eq.trans hother
  · exact fun h => .inr ⟨h, hother⟩

/-- The outlets of the log of a name, if there is such a log. -/
def outletsOf? (log : Log) (name : String) : Option (List Outlet) :=
  (log.entry? name).map (·.outlets)

theorem outletsOf?_root {log : Log} {name : String} (h : isRoot name = true) :
    log.outletsOf? name = some log.root.outlets := by
  rw [outletsOf?, entry?, if_pos h, Option.map_some]

theorem outletsOf?_of_not_root {log : Log} {name : String} (h : isRoot name = false) :
    log.outletsOf? name = outletsIn log.entries name := by
  rw [outletsOf?, entry?, if_neg (by simp [h]), outletsIn]

theorem SameLog.outletsOf?_eq {name other : String} (h : SameLog name other) (log : Log) :
    log.outletsOf? name = log.outletsOf? other := by
  rcases h with rfl | ⟨hname, hother⟩
  · rfl
  · rw [outletsOf?_root hname, outletsOf?_root hother]

/-- A log that is in no table is the root. -/
theorem mem_names_of_outletsOf? {log : Log} {name : String} {outlets : List Outlet}
    (hname : isRoot name = false) (h : log.outletsOf? name = some outlets) :
    name ∈ names log.entries := by
  rw [outletsOf?_of_not_root hname] at h
  obtain ⟨entry, hentry, _⟩ := Option.map_eq_some_iff.1 h
  exact mem_names_of_lookup (Option.join_eq_some_iff.1 hentry)

/-! ## Operations -/

theorem outletsOf?_setEntry (log : Log) (name other : String) (entry : LogEntry) :
    (log.setEntry name entry).outletsOf? other =
      if SameLog name other then some entry.outlets else log.outletsOf? other := by
  unfold setEntry
  cases hname : isRoot name with
  | true =>
    cases hother : isRoot other with
    | true =>
      rw [if_pos rfl, if_pos ((sameLog_iff_isRoot hother).2 hname), outletsOf?_root hother]
    | false =>
      have hne : ¬ SameLog name other := fun h => by simp [h.isRoot_eq, hother] at hname
      rw [if_neg hne, if_pos rfl, outletsOf?_of_not_root hother, outletsOf?_of_not_root hother]
  | false =>
    rw [if_neg Bool.false_ne_true]
    by_cases hsame : SameLog name other
    · rw [if_pos hsame]
      have hother : isRoot other = false := hsame.isRoot_eq.symm.trans hname
      rw [outletsOf?_of_not_root hother, (sameLog_iff_eq hother).1 hsame, outletsIn_setIn_self]
      rfl
    · rw [if_neg hsame]
      cases hother : isRoot other with
      | true => rw [outletsOf?_root hother, outletsOf?_root hother]
      | false =>
        have hne : other ≠ name := fun heq => hsame (.inl heq.symm)
        rw [outletsOf?_of_not_root hother, outletsOf?_of_not_root hother,
          outletsIn_setIn_of_ne hne]

theorem entry?_setEntry_self (log : Log) (name : String) (entry : LogEntry) :
    Log.entry? (log.setEntry name entry) name = some entry := by
  unfold setEntry entry?
  split
  · rfl
  · rw [lookup_setIn_self, Option.join_some]

/-- A log that is made has no outlets. One that is there stays as it is. -/
theorem outletsOf?_create (log : Log) (name other : String) :
    (log.create name).outletsOf? other =
      if SameLog name other then some ((log.outletsOf? name).getD []) else log.outletsOf? other := by
  unfold create
  cases hentry : log.entry? name with
  | some entry =>
    have houtlets : log.outletsOf? name = some entry.outlets := by
      rw [outletsOf?, hentry, Option.map_some]
    rw [if_pos Option.isSome_some, houtlets, Option.getD_some]
    split
    next hsame => rw [← houtlets, hsame.outletsOf?_eq]
    next => rfl
  | none =>
    have hname : isRoot name = false := by
      cases hroot : isRoot name with
      | false => rfl
      | true => simp [hroot, entry?] at hentry
    have houtlets : log.outletsOf? name = none := by rw [outletsOf?, hentry, Option.map_none]
    rw [if_neg (by simp), houtlets, Option.getD_none]
    dsimp only
    cases hother : isRoot other with
    | true =>
      have hne : ¬ SameLog name other := fun h => by simp [h.isRoot_eq, hother] at hname
      rw [if_neg hne, outletsOf?_root hother, outletsOf?_root hother]
    | false =>
      rw [outletsOf?_of_not_root hother]
      by_cases hsame : SameLog name other
      · rw [if_pos hsame, (sameLog_iff_eq hother).1 hsame, outletsIn_setIn_self]
        rfl
      · have hne : other ≠ name := fun heq => hsame (.inl heq.symm)
        rw [if_neg hsame, outletsIn_setIn_of_ne hne, outletsIn_seat, outletsIn_adopted,
          outletsIn_setIn_of_ne hne, outletsOf?_of_not_root hother]

theorem names_subset_create (log : Log) (name : String) :
    names log.entries ⊆ names (log.create name).entries := by
  unfold create
  split
  · exact List.Subset.refl _
  · refine List.Subset.trans ?_ (names_subset_setIn _ _ _)
    refine List.Subset.trans ?_ (names_subset_seat _ _)
    rw [names_adopted]
    exact names_subset_setIn _ _ _

theorem names_subset_setEntry (log : Log) (name : String) (entry : LogEntry) :
    names log.entries ⊆ names (log.setEntry name entry).entries := by
  unfold setEntry
  split
  · exact List.Subset.refl _
  · exact names_subset_setIn _ _ _

@[simp] theorem outlets_create (log : Log) (name : String) :
    (log.create name).outlets = log.outlets := by
  unfold create
  split <;> rfl

@[simp] theorem issued_create (log : Log) (name : String) :
    (log.create name).issued = log.issued := by
  unfold create
  split <;> rfl

@[simp] theorem outlets_setEntry (log : Log) (name : String) (entry : LogEntry) :
    (log.setEntry name entry).outlets = log.outlets := by
  unfold setEntry
  split <;> rfl

@[simp] theorem issued_setEntry (log : Log) (name : String) (entry : LogEntry) :
    (log.setEntry name entry).issued = log.issued := by
  unfold setEntry
  split <;> rfl

/-- A log that is asked for gets the outlets in use that it lacks, and no other log changes its own. -/
theorem outletsOf?_ask (log : Log) (name other : String) (level : Option Int) :
    (log.ask name level).outletsOf? other =
      if SameLog name other then some (withOutlets ((log.outletsOf? name).getD []) log.outlets)
      else log.outletsOf? other := by
  have hself : (log.create name).outletsOf? name = some ((log.outletsOf? name).getD []) := by
    rw [outletsOf?_create, if_pos (.refl name)]
  obtain ⟨entry, hentry, houtlets⟩ := Option.map_eq_some_iff.1 hself
  unfold ask
  dsimp only
  rw [outletsOf?_setEntry, outletsOf?_create, hentry, outlets_create, Option.getD_some, houtlets]
  split <;> rfl

@[simp] theorem outlets_ask (log : Log) (name : String) (level : Option Int) :
    (log.ask name level).outlets = log.outlets := by
  simp [ask]

@[simp] theorem issued_ask (log : Log) (name : String) (level : Option Int) :
    (log.ask name level).issued = log.issued := by
  simp [ask]

theorem outletsOf?_withoutOutlet (log : Log) (outlet : Outlet) (name other : String) :
    (withoutOutlet outlet log name).outletsOf? other =
      if SameLog name other then some (((log.outletsOf? name).getD []).filter (· ≠ outlet))
      else log.outletsOf? other := by
  have hself : (log.create name).outletsOf? name = some ((log.outletsOf? name).getD []) := by
    rw [outletsOf?_create, if_pos (.refl name)]
  obtain ⟨entry, hentry, houtlets⟩ := Option.map_eq_some_iff.1 hself
  unfold withoutOutlet
  dsimp only
  rw [outletsOf?_setEntry, outletsOf?_create, hentry, Option.getD_some, houtlets]
  split <;> rfl

/-- A log that was asked for writes to its own outlets. -/
theorem outletsFor_of_isAsked {log : Log} {name : String} {entry : LogEntry}
    (hentry : log.entry? name = some entry) (hasked : entry.isAsked = true) :
    log.outletsFor name = entry.outlets := by
  have hfirst : ∃ rest, log.entriesFor name = entry :: rest := by
    unfold entriesFor
    by_cases hname : isRoot name = true
    · unfold entry? at hentry
      rw [if_pos hname] at hentry
      exact ⟨[], by rw [if_pos hname, Option.some.inj hentry]⟩
    · have hlength : name.length ≠ 0 := fun hzero =>
        hname (by simp [isRoot, String.length_eq_zero_iff.1 hzero])
      obtain ⟨fuel, hfuel⟩ := Nat.exists_eq_succ_of_ne_zero hlength
      rw [if_neg hname, hfuel, entriesFrom, hentry]
      exact ⟨_, rfl⟩
  obtain ⟨rest, hrest⟩ := hfirst
  rw [outletsFor, hrest, List.find?_cons_of_pos hasked, Option.getD_some]

theorem outletsFor_ask (log : Log) (name : String) (level : Option Int) :
    (log.ask name level).outletsFor name =
      withOutlets ((log.outletsOf? name).getD []) log.outlets := by
  have houtlets := outletsOf?_ask log name name level
  rw [if_pos (.refl name)] at houtlets
  have hentry : ∃ entry, Log.entry? (log.ask name level) name = some entry ∧ entry.isAsked = true :=
    ⟨_, entry?_setEntry_self _ _ _, rfl⟩
  obtain ⟨entry, hentry, hasked⟩ := hentry
  rw [outletsOf?, hentry, Option.map_some] at houtlets
  rw [outletsFor_of_isAsked hentry hasked, Option.some.inj houtlets]

theorem names_subset_withoutOutlet (log : Log) (outlet : Outlet) (name : String) :
    names log.entries ⊆ names (withoutOutlet outlet log name).entries :=
  List.Subset.trans (names_subset_create log name) (names_subset_setEntry _ _ _)

/-! ## Adding outlets -/

theorem mem_withOutlets {outlets more : List Outlet} {outlet : Outlet} :
    outlet ∈ withOutlets outlets more ↔ outlet ∈ outlets ∨ outlet ∈ more := by
  unfold withOutlets
  induction more generalizing outlets with
  | nil => simp
  | cons other rest ih =>
    rw [List.foldl_cons, ih]
    by_cases hmem : other ∈ outlets
    · rw [if_pos (List.contains_iff_mem.2 hmem), List.mem_cons]
      constructor
      · exact Or.imp_right .inr
      · rintro (h | rfl | h)
        · exact .inl h
        · exact .inl hmem
        · exact .inr h
    · rw [if_neg (by simpa using hmem), List.mem_append, List.mem_singleton, List.mem_cons, or_assoc]

theorem nodup_withOutlets {outlets : List Outlet} (h : outlets.Nodup) (more : List Outlet) :
    (withOutlets outlets more).Nodup := by
  unfold withOutlets
  induction more generalizing outlets with
  | nil => exact h
  | cons other rest ih =>
    refine ih ?_
    dsimp only
    split
    · exact h
    next hmem =>
      refine List.nodup_append.2 ⟨h, List.nodup_cons.2 ⟨List.not_mem_nil, List.nodup_nil⟩, ?_⟩
      rintro outlet houtlet _ hother rfl
      rw [List.mem_singleton.1 hother] at houtlet
      exact hmem (List.contains_iff_mem.2 houtlet)

theorem withOutlets_of_subset {outlets more : List Outlet} (h : more ⊆ outlets) :
    withOutlets outlets more = outlets := by
  unfold withOutlets
  induction more with
  | nil => rfl
  | cons other rest ih =>
    obtain ⟨hmem, hrest⟩ := List.cons_subset.1 h
    rw [List.foldl_cons, if_pos (List.contains_iff_mem.2 hmem)]
    exact ih hrest

theorem withOutlets_of_nodup {outlets more : List Outlet} (h : (outlets ++ more).Nodup) :
    withOutlets outlets more = outlets ++ more := by
  unfold withOutlets
  induction more generalizing outlets with
  | nil => simp
  | cons other rest ih =>
    have hmem : other ∉ outlets := fun hmem =>
      (List.nodup_append.1 h).2.2 other hmem other List.mem_cons_self rfl
    rw [List.append_cons] at h ⊢
    rw [List.foldl_cons, if_neg (by simpa using hmem), ih h]

/-- New outlets differ from each other and from those made before. -/
theorem exists_added (kinds : List OutletKind) (log : Log) :
    ∃ added : List Outlet, (kinds.foldl addOutlet log).entries = log.entries ∧
      (kinds.foldl addOutlet log).root = log.root ∧
      (kinds.foldl addOutlet log).outlets = log.outlets ++ added ∧
      log.issued ≤ (kinds.foldl addOutlet log).issued ∧ added.Nodup ∧
      ∀ outlet ∈ added, log.issued ≤ outlet.number ∧
        outlet.number < (kinds.foldl addOutlet log).issued := by
  induction kinds generalizing log with
  | nil => exact ⟨[], rfl, rfl, (List.append_nil _).symm, Nat.le_refl _, List.nodup_nil, by simp⟩
  | cons kind rest ih =>
    obtain ⟨added, hentries, hroot, houtlets, hissued, hapart, hnumbers⟩ := ih (log.addOutlet kind)
    have hnext : (log.addOutlet kind).issued = log.issued + 1 := rfl
    rw [hnext] at hissued hnumbers
    refine ⟨⟨log.issued, kind⟩ :: added, hentries, hroot, ?_, ?_, ?_, ?_⟩
    · rw [List.foldl_cons, houtlets, addOutlet, List.append_assoc, List.singleton_append]
    · rw [List.foldl_cons]
      omega
    · refine List.nodup_cons.2 ⟨fun hmem => ?_, hapart⟩
      have hlarger := (hnumbers _ hmem).1
      exact Nat.not_succ_le_self _ hlarger
    · intro outlet hmem
      rw [List.foldl_cons]
      rcases List.mem_cons.1 hmem with rfl | hmem
      · exact ⟨Nat.le_refl _, hissued⟩
      · obtain ⟨hlarger, hsmaller⟩ := hnumbers _ hmem
        exact ⟨by omega, hsmaller⟩

/-! ## Taking outlets away -/

/-- Some of the logs lack an outlet: those that a list of names speaks of. -/
theorem outletsOf?_foldl_withoutOutlet (outlet : Outlet) (wanted : List String) (log : Log)
    (other : String) :
    (wanted.foldl (withoutOutlet outlet) log).outletsOf? other =
      if ∃ name ∈ wanted, SameLog name other then
        some (((log.outletsOf? other).getD []).filter (· ≠ outlet))
      else log.outletsOf? other := by
  induction wanted generalizing log with
  | nil => simp
  | cons name rest ih =>
    rw [List.foldl_cons, ih, outletsOf?_withoutOutlet]
    by_cases hsame : SameLog name other
    · have hany : ∃ wanted ∈ name :: rest, SameLog wanted other :=
        ⟨name, List.mem_cons_self, hsame⟩
      rw [if_pos hsame, hsame.outletsOf?_eq, if_pos hany]
      split <;> simp
    · simp only [hsame, List.mem_cons, exists_eq_or_imp, false_or, if_false]

/-- The logs where each one in the table lacks an outlet. -/
def stripped (log : Log) (outlet : Outlet) : Log :=
  (names log.entries).foldl (withoutOutlet outlet) log

theorem clear_eq (log : Log) : log.clear = { log.outlets.foldl stripped log with outlets := [] } :=
  rfl

theorem names_subset_stripped (log : Log) (outlet : Outlet) :
    names log.entries ⊆ names (log.stripped outlet).entries :=
  List.foldlRecOn (names log.entries) (withoutOutlet outlet)
    (motive := fun after => names log.entries ⊆ names after.entries) (List.Subset.refl _)
    fun _ h name _ => List.Subset.trans h (names_subset_withoutOutlet _ _ name)

theorem issued_stripped (log : Log) (outlet : Outlet) : (log.stripped outlet).issued = log.issued :=
  List.foldlRecOn (names log.entries) (withoutOutlet outlet)
    (motive := fun after => after.issued = log.issued) rfl
    fun _ h _ _ => by rw [← h]; simp [withoutOutlet]

/-- A log that lacks an outlet is there if it was. -/
theorem isSome_outletsOf?_stripped {log : Log} {name : String} (outlet : Outlet)
    (h : (log.outletsOf? name).isSome = true) : ((log.stripped outlet).outletsOf? name).isSome = true := by
  rw [stripped, outletsOf?_foldl_withoutOutlet]
  split
  · rfl
  · exact h

theorem outletsOf?_stripped {log : Log} {outlet : Outlet} {name : String} {outlets : List Outlet}
    (hname : isRoot name = false) (h : (log.stripped outlet).outletsOf? name = some outlets) :
    outlets = ((log.outletsOf? name).getD []).filter (· ≠ outlet) := by
  rw [stripped, outletsOf?_foldl_withoutOutlet] at h
  split at h
  · exact (Option.some.inj h).symm
  next hnone =>
    exact absurd ⟨name, mem_names_of_outletsOf? hname h, .refl name⟩ hnone

/-- A log that writes to outlets of `used` at most is left without any. -/
theorem outletsOf?_foldl_stripped {name : String} (hname : isRoot name = false) (used : List Outlet)
    (log : Log) (hused : ∀ outlets ∈ log.outletsOf? name, outlets ⊆ used) :
    ∀ outlets ∈ (used.foldl stripped log).outletsOf? name, outlets = [] := by
  induction used generalizing log with
  | nil => exact fun outlets h => List.subset_nil.1 (hused outlets h)
  | cons outlet rest ih =>
    refine ih _ fun outlets h other hother => ?_
    rw [outletsOf?_stripped hname h] at hother
    obtain ⟨hold, hne⟩ := List.mem_filter.1 hother
    cases hbefore : log.outletsOf? name with
    | none =>
      rw [hbefore] at hold
      cases hold
    | some before =>
      rw [hbefore] at hold
      exact (List.mem_cons.1 (hused before hbefore hold)).resolve_left (of_decide_eq_true hne)

/-- The table of logs has a name of the root. The root lacks an outlet after it is taken away only
then. -/
def ListsRoot (log : Log) : Prop :=
  ∃ name ∈ names log.entries, isRoot name = true

instance (log : Log) : Decidable log.ListsRoot :=
  inferInstanceAs (Decidable (∃ name ∈ names log.entries, isRoot name = true))

theorem root_stripped (log : Log) (outlet : Outlet) :
    (log.stripped outlet).root.outlets =
      if log.ListsRoot then log.root.outlets.filter (· ≠ outlet) else log.root.outlets := by
  have hroot : isRoot rootName = true := by decide
  have hnames : (∃ name ∈ names log.entries, SameLog name rootName) ↔ log.ListsRoot := by
    simp only [sameLog_iff_isRoot hroot, ListsRoot]
  have houtlets := outletsOf?_foldl_withoutOutlet outlet (names log.entries) log rootName
  simp only [hnames, outletsOf?_root hroot, Option.getD_some] at houtlets
  split at houtlets
  next hlists => rw [if_pos hlists, stripped, Option.some.inj houtlets]
  next hlists => rw [if_neg hlists, stripped, Option.some.inj houtlets]

theorem root_foldl_stripped_sublist (used : List Outlet) (log : Log) :
    List.Sublist (used.foldl stripped log).root.outlets log.root.outlets := by
  induction used generalizing log with
  | nil => exact List.Sublist.refl _
  | cons outlet rest ih =>
    refine (ih _).trans ?_
    rw [root_stripped]
    split
    · exact List.filter_sublist
    · exact List.Sublist.refl _

/-- The root keeps an outlet that is not taken away. -/
theorem mem_root_foldl_stripped {outlet : Outlet} (used : List Outlet) (log : Log)
    (hmem : outlet ∈ log.root.outlets) (hused : outlet ∉ used) :
    outlet ∈ (used.foldl stripped log).root.outlets := by
  induction used generalizing log with
  | nil => exact hmem
  | cons other rest ih =>
    rw [List.mem_cons, not_or] at hused
    refine ih _ ?_ hused.2
    rw [root_stripped]
    split
    · exact List.mem_filter.2 ⟨hmem, decide_eq_true hused.1⟩
    · exact hmem

/-- Where the table has a name of the root, the root loses the outlets like any other log. -/
theorem not_mem_root_foldl_stripped {outlet : Outlet} (used : List Outlet) (log : Log)
    (hlists : log.ListsRoot) (hused : outlet ∈ used) :
    outlet ∉ (used.foldl stripped log).root.outlets := by
  induction used generalizing log with
  | nil => cases hused
  | cons other rest ih =>
    obtain ⟨name, hname, hroot⟩ := hlists
    have hlists' : (log.stripped other).ListsRoot := ⟨name, names_subset_stripped log other hname, hroot⟩
    rcases List.mem_cons.1 hused with rfl | hrest
    · intro hmem
      have hstripped := (root_foldl_stripped_sublist rest _).subset hmem
      rw [root_stripped, if_pos ⟨name, hname, hroot⟩] at hstripped
      exact of_decide_eq_true (List.mem_filter.1 hstripped).2 rfl
    · exact ih _ hlists' hrest

/-- Taking away all outlets in use leaves the root without any exactly if it had none, or if it only had
outlets in use and the table has its name. Otherwise the first of them stays. -/
theorem root_foldl_stripped_eq_nil_iff (log : Log) (hused : log.outlets.Nodup)
    (hroot : log.root.outlets ⊆ log.outlets →
      log.root.outlets = [] ∨ log.root.outlets = log.outlets) :
    (log.outlets.foldl stripped log).root.outlets = [] ↔
      log.root.outlets ⊆ log.outlets ∧ (log.root.outlets = [] ∨ log.ListsRoot) := by
  constructor
  · intro hnil
    have hsubset : log.root.outlets ⊆ log.outlets := fun outlet hmem => by
      by_contra hnot
      have hkept := mem_root_foldl_stripped log.outlets log hmem hnot
      rw [hnil] at hkept
      cases hkept
    refine ⟨hsubset, ?_⟩
    rcases hroot hsubset with hempty | hsame
    · exact .inl hempty
    · refine or_iff_not_imp_right.2 fun hlists => ?_
      cases houtlets : log.outlets with
      | nil => rw [hsame, houtlets]
      | cons outlet rest =>
        -- The first outlet is taken from the table only, and the others are not it.
        rw [houtlets, List.foldl_cons] at hnil
        have hstripped : outlet ∈ (log.stripped outlet).root.outlets := by
          rw [root_stripped, if_neg hlists, hsame, houtlets]
          exact List.mem_cons_self
        rw [houtlets] at hused
        have hkept := mem_root_foldl_stripped rest _ hstripped (List.nodup_cons.1 hused).1
        rw [hnil] at hkept
        cases hkept
  · rintro ⟨hsubset, hempty | hlists⟩
    · exact List.eq_nil_of_subset_nil (hempty ▸ (root_foldl_stripped_sublist log.outlets log).subset)
    · refine List.eq_nil_iff_forall_not_mem.2 fun outlet hmem => ?_
      have hold := (root_foldl_stripped_sublist log.outlets log).subset hmem
      exact not_mem_root_foldl_stripped log.outlets log hlists (hsubset hold) hmem

end Log

end Tabsmith
