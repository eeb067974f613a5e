import Mathlib.Data.List.Forall2
import Tabsmith.Proofs.Sites

/-!
What a program shows: its visible commands and options. Two programs that show the same give the
same on every walk over their sites that looks at visible parts only.
-/

namespace Tabsmith

section Lists

variable {α β γ : Type} {R : α → β → Prop} {as : List α} {bs : List β}

theorem map_eq_of_forall₂ {f : α → γ} {g : β → γ} (hlists : List.Forall₂ R as bs)
    (hfg : ∀ a b, R a b → f a = g b) : as.map f = bs.map g := by
  induction hlists with
  | nil => rfl
  | cons hab _ ih => rw [List.map_cons, List.map_cons, hfg _ _ hab, ih]

theorem flatMap_eq_of_forall₂ {f : α → List γ} {g : β → List γ}
    (hlists : List.Forall₂ R as bs) (hfg : ∀ a b, R a b → f a = g b) :
    as.flatMap f = bs.flatMap g := by
  rw [List.flatMap_def, List.flatMap_def, map_eq_of_forall₂ hlists hfg]

theorem all_eq_of_forall₂ {f : α → Bool} {g : β → Bool} (hlists : List.Forall₂ R as bs)
    (hfg : ∀ a b, R a b → f a = g b) : as.all f = bs.all g := by
  induction hlists with
  | nil => rfl
  | cons hab _ ih => rw [List.all_cons, List.all_cons, hfg _ _ hab, ih]

theorem all_eq_isEmpty_flatMap (p : α → Bool) (l : List α) :
    l.all p = (l.flatMap fun a => if p a then [] else [()]).isEmpty := by
  induction l with
  | nil => rfl
  | cons a rest ih => cases h : p a <;> simp [h, ih]

end Lists

/-- Two commands that show the same: they agree on the name, the description and the visible options,
and their visible subcommands show the same in order. A description that is no text is among the
strays. `agree` is what else every two corresponding commands agree on. -/
inductive Command.SameView (agree : Command → Command → Prop) : Command → Command → Prop
  | intro {c d : Command} (hname : c.name = d.name) (hdescription : c.description = d.description)
      (hstrays : c.strays = d.strays) (hoptions : visibleOptions c.options = visibleOptions d.options)
      (hagree : agree c d)
      (hbelow : List.Forall₂ (SameView agree) (visibleCommands c.subcommands)
        (visibleCommands d.subcommands)) : SameView agree c d

/-- Two programs that show the same, where every two corresponding commands agree on `agree` too. -/
structure Program.SameView (agree : Command → Command → Prop) (p q : Program) : Prop where
  name : p.name = q.name
  description : p.description = q.description
  version : p.version = q.version
  strays : p.strays = q.strays
  options : visibleOptions p.globalOptions = visibleOptions q.globalOptions
  commands : List.Forall₂ (Command.SameView agree) (visibleCommands p.commands)
    (visibleCommands q.commands)

/-- What can be told about a command apart from what it shows: whether it is a leaf, and whether it
has subcommands, hidden ones counted. -/
def Command.SameShape (c d : Command) : Prop :=
  c.isLeaf = d.isLeaf ∧ c.subcommands.isEmpty = d.subcommands.isEmpty

/-- Both commands have no argument, or their first arguments are completed alike. -/
def Command.SameDriver (c d : Command) : Prop :=
  c.drivingArgument?.map (·.completion) = d.drivingArgument?.map (·.completion)

/-! ## Walks over what is visible -/

/-- What a site contributes, a leaf contributing nothing. -/
def unlessLeaf {β : Type} (f : Site → List β) (site : Site) : List β :=
  if site.command.isLeaf then [] else f site

theorem unlessLeaf_eq_self {β : Type} {f : Site → List β} {site : Site}
    (hleaf : site.command.isLeaf = true → f site = []) : unlessLeaf f site = f site := by
  unfold unlessLeaf
  split
  · exact (hleaf ‹_›).symm
  · rfl

theorem Command.subcommands_eq_nil_of_isLeaf {c : Command} (hleaf : c.isLeaf = true) :
    c.subcommands = [] := by
  simp [Command.isLeaf] at hleaf
  exact hleaf.1.1

theorem Command.options_eq_nil_of_isLeaf {c : Command} (hleaf : c.isLeaf = true) :
    c.options = [] := by
  simp [Command.isLeaf] at hleaf
  exact hleaf.1.2

theorem Command.arguments_eq_nil_of_isLeaf {c : Command} (hleaf : c.isLeaf = true) :
    c.arguments = [] := by
  simp [Command.isLeaf] at hleaf
  exact hleaf.2

theorem visibleCommands_cons (c : Command) (rest : List Command) :
    visibleCommands (c :: rest) =
      if c.hidden then visibleCommands rest else c :: visibleCommands rest := by
  unfold visibleCommands
  cases hhidden : c.hidden <;> simp [hhidden]

/-- A walk from the top down goes over all visible commands of a level, since a leaf contributes
nothing and has nothing below it. -/
theorem flatMap_sitesDown {β : Type} (f : Site → List β) (above : List String)
    (commands : List Command) :
    (sitesDown above commands).flatMap f = (visibleCommands commands).flatMap fun c =>
      unlessLeaf f ⟨above ++ [c.name], c⟩ ++
        (sitesDown (above ++ [c.name]) c.subcommands).flatMap f := by
  induction commands with
  | nil => rfl
  | cons c rest ih =>
    rw [sitesDown, List.flatMap_append, ih, visibleCommands_cons, Command.sites_eq]
    cases hhidden : c.hidden with
    | true => simp
    | false =>
      cases hleaf : c.isLeaf with
      | true => simp [unlessLeaf, hleaf, c.subcommands_eq_nil_of_isLeaf hleaf, sitesDown]
      | false => simp [unlessLeaf, hleaf]

/-- A walk from the bottom up goes over all visible commands of a level too. -/
theorem flatMap_sitesUp {β : Type} (f : Site → List β) (above : List String)
    (commands : List Command) :
    (sitesUp above commands).flatMap f = (visibleCommands commands).flatMap fun c =>
      (sitesUp (above ++ [c.name]) c.subcommands).flatMap f ++
        unlessLeaf f ⟨above ++ [c.name], c⟩ := by
  induction commands with
  | nil => rfl
  | cons c rest ih =>
    rw [sitesUp, List.flatMap_append, ih, visibleCommands_cons, Command.sitesUp_eq]
    cases hhidden : c.hidden with
    | true => simp
    | false =>
      cases hleaf : c.isLeaf with
      | true => simp [unlessLeaf, hleaf, c.subcommands_eq_nil_of_isLeaf hleaf, sitesUp]
      | false => simp [unlessLeaf, hleaf]

section Walks

variable {β : Type} {agree : Command → Command → Prop} {f : Site → List β}
  {above : List String} {cs ds : List Command}

/-- Walks over commands that show the same give the same, if each visible command combines what it
contributes itself with the walk below it, and corresponding commands contribute the same. -/
theorem walk_eq (walk : List String → List Command → List β) (own : Site → List β)
    (combine : List β → List β → List β)
    (hwalk : ∀ above commands, walk above commands = (visibleCommands commands).flatMap fun c =>
      combine (own ⟨above ++ [c.name], c⟩) (walk (above ++ [c.name]) c.subcommands))
    (hown : ∀ path c d, Command.SameView agree c d → own ⟨path, c⟩ = own ⟨path, d⟩)
    (hview : List.Forall₂ (Command.SameView agree) (visibleCommands cs) (visibleCommands ds)) :
    walk above cs = walk above ds := by
  -- Only the left side is followed down: the views say which commands stand on the right.
  induction cs using forestInduction generalizing above ds with
  | step cs ih =>
    rw [hwalk, hwalk]
    have hmem : ∀ c ∈ visibleCommands cs, c ∈ cs := fun c hc => (mem_visibleCommands.1 hc).1
    refine flatMap_eq_of_forall₂ ((List.forall₂_and_left _ _).2 ⟨hmem, hview⟩) ?_
    rintro c d ⟨hc, hcd⟩
    rw [hown _ c d hcd]
    cases hcd with
    | intro hname _ _ _ _ hbelow => rw [hname, ih c hc hbelow]

theorem flatMap_sitesDown_eq
    (hf : ∀ path c d, Command.SameView agree c d →
      unlessLeaf f ⟨path, c⟩ = unlessLeaf f ⟨path, d⟩)
    (hview : List.Forall₂ (Command.SameView agree) (visibleCommands cs) (visibleCommands ds)) :
    (sitesDown above cs).flatMap f = (sitesDown above ds).flatMap f :=
  walk_eq (fun above cs => (sitesDown above cs).flatMap f) (unlessLeaf f) (· ++ ·)
    (flatMap_sitesDown f) hf hview

theorem flatMap_sitesUp_eq
    (hf : ∀ path c d, Command.SameView agree c d →
      unlessLeaf f ⟨path, c⟩ = unlessLeaf f ⟨path, d⟩)
    (hview : List.Forall₂ (Command.SameView agree) (visibleCommands cs) (visibleCommands ds)) :
    (sitesUp above cs).flatMap f = (sitesUp above ds).flatMap f :=
  walk_eq (fun above cs => (sitesUp above cs).flatMap f) (unlessLeaf f)
    (fun own below => below ++ own) (flatMap_sitesUp f) hf hview

end Walks

/-! ## Lists of one level -/

theorem branchingCommands_eq_filter (commands : List Command) :
    branchingCommands commands = (visibleCommands commands).filter fun c => !c.isLeaf :=
  rfl

section Options

variable {options others : List Opt}

/-- What hidden options contribute nothing to depends on the visible ones only. -/
theorem flatMap_options_eq {β : Type} {f : Opt → List β}
    (hhidden : ∀ o : Opt, o.hidden = true → f o = [])
    (hoptions : visibleOptions options = visibleOptions others) :
    options.flatMap f = others.flatMap f := by
  have hvisible : ∀ os : List Opt, os.flatMap f = (visibleOptions os).flatMap f := by
    intro os
    induction os with
    | nil => rfl
    | cons o rest ih =>
      unfold visibleOptions at ih ⊢
      cases h : o.hidden with
      | true => simp [h, ih, hhidden o h]
      | false => simp [h, ih]
  rw [hvisible options, hvisible others, hoptions]

/-- What holds of hidden options anyway depends on the visible ones only. -/
theorem all_options_eq {f : Opt → Bool} (hhidden : ∀ o : Opt, o.hidden = true → f o = true)
    (hoptions : visibleOptions options = visibleOptions others) :
    options.all f = others.all f := by
  rw [all_eq_isEmpty_flatMap, all_eq_isEmpty_flatMap, flatMap_options_eq ?_ hoptions]
  intro o h
  rw [hhidden o h, if_pos rfl]

end Options

section Levels

variable {agree : Command → Command → Prop} {c d : Command} {cs ds : List Command}

theorem Command.SameView.name_eq (hview : Command.SameView agree c d) : c.name = d.name := by
  cases hview
  assumption

theorem Command.SameView.description_eq (hview : Command.SameView agree c d) :
    c.description = d.description := by
  cases hview
  assumption

theorem Command.SameView.strays_eq (hview : Command.SameView agree c d) : c.strays = d.strays := by
  cases hview
  assumption

theorem Command.SameView.agrees (hview : Command.SameView agree c d) : agree c d := by
  cases hview
  assumption

/-- Visible commands that show the same and agree on being leaves branch alike. -/
theorem branchingCommands_of_sameView (hleaf : ∀ c d, agree c d → c.isLeaf = d.isLeaf)
    (hview : List.Forall₂ (Command.SameView agree) (visibleCommands cs) (visibleCommands ds)) :
    List.Forall₂ (Command.SameView agree) (branchingCommands cs) (branchingCommands ds) := by
  rw [branchingCommands_eq_filter, branchingCommands_eq_filter]
  refine List.rel_filter (fun c d hcd => ?_) hview
  simp [hleaf c d hcd.agrees]

end Levels

end Tabsmith
