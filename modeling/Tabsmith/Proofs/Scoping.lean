import Mathlib.Logic.Function.Basic
import Tabsmith.Proofs.Calls.Reach

/-!
The variables of bash functions. A variable that a function does not declare is the one of its caller, so a
function that used it would offer the flags or the commands of its caller. Each function declares the variables
that it uses before it uses them.
-/

namespace Tabsmith.Bash

/-! ## Statements that use declared variables only -/

/-- The variables whose words a reply offers. -/
def Reply.used : Reply → List Variable
  | held names => names
  | _ => []

/-- The variables whose words the replies of a statement offer. -/
def Statement.used : Statement → List Variable
  | atWord _ r => r.used
  | atFlag r => r.used
  | afterFlag branches => branches.flatMap fun branch => branch.reply.used
  | dispatch _ _ otherwise => otherwise.used
  | reply r => r.used
  | _ => []

/-- The variable that a statement declares. -/
def Statement.target? : Statement → Option Variable
  | declare target _ => some target
  | _ => none

/-- Statements use no variables but those that are declared already and those that they declare before. -/
def Scoped : (declared : List Variable) → List Statement → Prop
  | _, [] => True
  | declared, s :: rest => s.used ⊆ declared ∧ Scoped (s.target?.toList ++ declared) rest

theorem Scoped.of_subset {declared : List Variable} {body : List Statement}
    (hbody : ∀ s ∈ body, s.used ⊆ declared) : Scoped declared body := by
  induction body generalizing declared with
  | nil => trivial
  | cons s rest ih =>
    obtain ⟨hs, hrest⟩ := List.forall_mem_cons.1 hbody
    exact ⟨hs, ih fun other hother => List.Subset.trans (hrest other hother) (List.subset_append_right _ _)⟩

/-! ## The functions of a program -/

theorem used_hintReply (hint : Option Hint) : (hintReply hint).used = [] := by
  cases hint with
  | none => rfl
  | some hint =>
    rw [hintReply]
    cases hint.kind <;> rfl

theorem used_valueReply (o : Opt) : (valueReply o).used = [] := by
  rw [valueReply]
  split
  · exact used_hintReply _
  · rfl

theorem used_valueStatements (options : List Opt) :
    ∀ s ∈ valueStatements options, s.used = [] := by
  intro s hs
  rw [valueStatements] at hs
  split at hs
  · cases hs
  · obtain rfl | rfl : s = _ ∨ s = _ := by simpa only [List.mem_cons, List.not_mem_nil, or_false] using hs
    · rw [Statement.used, List.flatMap_map]
      exact List.flatMap_eq_nil_iff.2 fun o _ => used_valueReply o
    · rfl

/-- The variables that the function of a command declares. -/
def ownVariables (c : Command) : List Variable :=
  (if (visibleOptions c.options).isEmpty then [] else [.options]) ++
    if c.subcommands.isEmpty then [] else [.subcommands]

/-- A reply with the flags of a command, which has none to offer if there are none. -/
theorem used_heldOptions (c : Command) :
    (if (visibleOptions c.options).isEmpty then Reply.none else .held [.options]).used ⊆ ownVariables c := by
  rw [ownVariables]
  split
  · exact List.nil_subset _
  · exact List.subset_append_left _ _

theorem used_descendStatements (program : String) {site : Site}
    (hsubs : site.command.subcommands.isEmpty = false) :
    ∀ s ∈ descendStatements program site, s.used ⊆ ownVariables site.command := by
  have hoffered : (.subcommands :: if (visibleOptions site.command.options).isEmpty then [] else [.options]) ⊆
      ownVariables site.command := by
    rw [ownVariables, hsubs]
    split <;> simp
  intro s hs
  obtain rfl | rfl | rfl | rfl : s = _ ∨ s = _ ∨ s = _ ∨ s = _ := by
    simpa only [descendStatements, List.mem_cons, List.not_mem_nil, or_false] using hs
  · exact List.nil_subset _
  · exact hoffered
  · exact List.nil_subset _
  · exact used_heldOptions site.command

theorem used_argumentStatements (c : Command) (first : Argument) :
    ∀ s ∈ argumentStatements c first, s.used ⊆ ownVariables c := by
  have hflags : ∀ s ∈ (if (visibleOptions c.options).isEmpty then []
      else [Statement.atFlag (.held [.options]), .blank]), s.used ⊆ ownVariables c := by
    have hheld := used_heldOptions c
    split
    next => exact List.forall_mem_nil _
    next hsome =>
      rw [if_neg hsome] at hheld
      exact List.forall_mem_cons.2 ⟨hheld, List.forall_mem_singleton.2 (List.nil_subset _)⟩
  rw [argumentStatements]
  simp only [List.forall_mem_append, List.forall_mem_singleton]
  refine ⟨⟨⟨List.nil_subset _, fun s hs => ?_⟩, hflags⟩, ?_⟩
  · rw [used_valueStatements _ s hs]
    exact List.nil_subset _
  · rw [Statement.used, used_hintReply]
    exact List.nil_subset _

theorem used_optionStatements (c : Command) :
    ∀ s ∈ optionStatements c, s.used ⊆ ownVariables c := by
  rw [optionStatements]
  simp only [List.forall_mem_append, List.forall_mem_singleton]
  refine ⟨⟨List.nil_subset _, fun s hs => ?_⟩, used_heldOptions c⟩
  rw [used_valueStatements _ s hs]
  exact List.nil_subset _

/-- The declarations at the start of the function of a command are those of its own variables. -/
theorem scoped_declarations {c : Command} {body : List Statement} (hbody : Scoped (ownVariables c) body) :
    Scoped [] ((if c.subcommands.isEmpty then []
        else [.declare .subcommands (commandWords c.subcommands)]) ++
      (if (visibleOptions c.options).isEmpty then [] else [.declare .options (flagWords c.options)]) ++ body) := by
  rw [ownVariables] at hbody
  split at hbody <;> split at hbody
  all_goals simpa [Scoped, Statement.used, Statement.target?, *] using hbody

theorem scoped_siteFunction (program : String) (site : Site) :
    Scoped [] (siteFunction program site).body := by
  rw [siteFunction]
  apply scoped_declarations
  apply Scoped.of_subset
  cases hsubs : site.command.subcommands.isEmpty with
  | false => exact used_descendStatements program hsubs
  | true =>
    cases site.command.drivingArgument? with
    | some first => exact used_argumentStatements _ first
    | none => exact used_optionStatements _

theorem scoped_entryFunction (p : Program) : Scoped [] (entryFunction p).body := by
  simp [entryFunction, Scoped, Statement.used, Statement.target?, Reply.used]

theorem scoped_of_mem_definitions {p : Program} {f : Function} (hf : f ∈ (script p).definitions) :
    Scoped [] f.body := by
  rw [definitions_script, List.mem_cons, List.mem_map] at hf
  obtain rfl | ⟨site, _, rfl⟩ := hf
  · exact scoped_entryFunction p
  · exact scoped_siteFunction p.name site

/-! ## What functions offer -/

/-- What is offered for the word at the cursor: nothing, files, folders, the words of a text, or those that a
command prints. -/
inductive Offered where
  | nothing
  | files
  | folders
  | wordsOf (text : String)
  | printedBy (command : String)
deriving DecidableEq, Repr, Inhabited

/-- What a reply offers where variables have values. -/
def Reply.offered (values : Variable → String) : Reply → Offered
  | none => .nothing
  | files => .files
  | folders => .folders
  | words ws => .wordsOf (" ".intercalate ws)
  | output command => .printedBy command
  | held names => .wordsOf (" ".intercalate (names.map values))

/-- The words typed so far, and the index of the word at the cursor. -/
structure Typed where
  words : List String
  cursor : Nat
deriving DecidableEq, Repr, Inhabited

/-- The word at the cursor. -/
def Typed.current (typed : Typed) : String :=
  typed.words.getD typed.cursor ""

/-- The word before the one at the cursor. -/
def Typed.previous (typed : Typed) : String :=
  typed.words.getD (typed.cursor - 1) ""

/-- What statements offer that are run with the variables of a caller. A declaration hides the variable of the
caller, and a function that is called sees the variables as they are by then. -/
def offeredBy (call : String → (Variable → String) → Offered) (typed : Typed) :
    (Variable → String) → List Statement → Offered
  | _, [] => .nothing
  | values, .declare target words :: rest =>
    offeredBy call typed (Function.update values target (" ".intercalate words)) rest
  | values, .atWord index r :: rest =>
    if typed.cursor = index then r.offered values else offeredBy call typed values rest
  | values, .atFlag r :: rest =>
    if typed.current.toList.head? = some '-' then r.offered values else offeredBy call typed values rest
  | values, .afterFlag branches :: rest =>
    match branches.find? fun branch => typed.previous ∈ branch.flags with
    | some branch => branch.reply.offered values
    | none => offeredBy call typed values rest
  | values, .dispatch index branches otherwise :: _ =>
    match branches.find? fun branch => branch.word = typed.words.getD index "" with
    | some branch => call branch.target values
    | none => otherwise.offered values
  | values, .reply r :: _ => r.offered values
  | values, .blank :: rest => offeredBy call typed values rest
  | values, .prepare :: rest => offeredBy call typed values rest

/-- What the functions of a script offer that are called with the variables of a caller, down to a number of
calls. -/
def Script.offered (s : Script) (typed : Typed) : (calls : Nat) → String → (Variable → String) → Offered
  | 0, _, _ => .nothing
  | calls + 1, name, values =>
    match lastNamed (·.name) s.definitions name with
    | some f => offeredBy (s.offered typed calls) typed values f.body
    | none => .nothing

theorem Reply.offered_congr {r : Reply} {values others : Variable → String}
    (hagree : ∀ v ∈ r.used, values v = others v) : r.offered values = r.offered others := by
  cases r with
  | held names => exact congrArg (fun texts => Offered.wordsOf (" ".intercalate texts)) (List.map_congr_left hagree)
  | _ => rfl

/-- Statements offer the same to two callers if they use declared variables only. -/
theorem offeredBy_congr {call : String → (Variable → String) → Offered}
    (hcall : ∀ name values others, call name values = call name others) (typed : Typed)
    {declared : List Variable} {body : List Statement} (hscoped : Scoped declared body)
    {values others : Variable → String} (hagree : ∀ v ∈ declared, values v = others v) :
    offeredBy call typed values body = offeredBy call typed others body := by
  induction body generalizing declared values others with
  | nil => rfl
  | cons s rest ih =>
    obtain ⟨hs, hrest⟩ := hscoped
    have hreply : ∀ r : Reply, r.used ⊆ s.used → r.offered values = r.offered others :=
      fun r hr => Reply.offered_congr fun v hv => hagree v (hs (hr hv))
    cases s with
    | declare target words =>
      refine ih hrest fun v hv => ?_
      by_cases hv' : v = target
      · rw [hv', Function.update_self, Function.update_self]
      · rw [Function.update_of_ne hv', Function.update_of_ne hv']
        exact hagree v ((List.mem_cons.1 hv).resolve_left hv')
    | atWord index r =>
      rw [offeredBy, offeredBy, hreply r (List.Subset.refl _), ih hrest hagree]
    | atFlag r =>
      rw [offeredBy, offeredBy, hreply r (List.Subset.refl _), ih hrest hagree]
    | afterFlag branches =>
      rw [offeredBy, offeredBy]
      split
      next branch hfind =>
        have hbranch : branch ∈ branches := List.mem_of_find?_eq_some hfind
        exact hreply branch.reply fun v hv => List.mem_flatMap.2 ⟨branch, hbranch, hv⟩
      next => exact ih hrest hagree
    | dispatch index branches otherwise =>
      rw [offeredBy, offeredBy]
      split
      next branch _ => exact hcall _ _ _
      next => exact hreply otherwise (List.Subset.refl _)
    | reply r => exact hreply r (List.Subset.refl _)
    | blank => exact ih hrest hagree
    | prepare => exact ih hrest hagree

/-- What a function of a program offers does not depend on who calls it. -/
theorem offered_congr (p : Program) (typed : Typed) (calls : Nat) (name : String)
    (values others : Variable → String) :
    (script p).offered typed calls name values = (script p).offered typed calls name others := by
  induction calls generalizing name values others with
  | zero => rfl
  | succ calls ih =>
    rw [Script.offered, Script.offered]
    split
    next f hfound =>
      have hf : f ∈ (script p).definitions :=
        List.mem_reverse.1 (List.mem_of_find?_eq_some hfound)
      exact offeredBy_congr ih typed (scoped_of_mem_definitions hf) (List.forall_mem_nil _)
    next => rfl

end Tabsmith.Bash
