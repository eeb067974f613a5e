import Tabsmith.Proofs.Acceptance.Small
import Tabsmith.Proofs.Reading.Parts
import Tabsmith.Proofs.Specs

/-!
The specifications of positional arguments, read by the rules of zsh's completion system. The message of an
argument goes up to a colon, but nothing is put before the colons of the message itself.
-/

namespace Tabsmith.Zsh

/-! ## Reading a specification -/

/-- The parts of an argument's specification: the place, whether the argument is required, the message that
describes it, and the action that completes it. -/
structure ArgumentParts where
  place : List Char
  required : Bool
  message : List Char
  action : List Char
deriving DecidableEq, Repr

namespace ArgumentParts

/-- A second colon marks an argument that is not required. -/
def markRead : List Char → Bool × List Char
  | ':' :: s => (false, s)
  | s => (true, s)

/-- The parts of a specification without its quotes. The action is all that follows the message. -/
def ofText? (s : List Char) : Option ArgumentParts := do
  let (place, rest) ← upTo? ':' s
  let (required, rest) := markRead rest
  let (message, action) ← fieldUpTo? ':' rest
  return { place, required, message, action }

end ArgumentParts

/-- The parts of a quoted specification. -/
def readArgument? (spec : String) : Option ArgumentParts :=
  (unquoted? spec).bind ArgumentParts.ofText?

/-- The message for an argument, on one line. -/
def messageText (a : Argument) : List Char :=
  oneLine (caption a).toList

/-- The parts that the specification of an argument at a position is meant to have. -/
def argumentParts (a : Argument) (position : Nat) : ArgumentParts where
  place := placeText a position
  required := a.required
  message := messageText a
  action := actionText a.completion

/-! ## Parts of a text -/

namespace ArgumentParts

theorem markRead_of_head?_ne {s : List Char} (hs : s.head? ≠ some ':') : markRead s = (true, s) := by
  rw [markRead]
  rintro rest rfl
  exact hs rfl

theorem eq_of_markRead {s : List Char} (hrequired : (markRead s).1 = true) : markRead s = (true, s) := by
  apply markRead_of_head?_ne
  intro hhead
  obtain ⟨rest, rfl⟩ := List.head?_eq_some_iff.1 hhead
  cases hrequired

theorem ofText?_eq_some_iff {place rest : List Char} (hplace : ':' ∉ place) {parts : ArgumentParts} :
    ofText? (place ++ ':' :: rest) = some parts ↔
      parts.place = place ∧ (markRead rest).1 = parts.required ∧
        fieldUpTo? ':' (markRead rest).2 = some (parts.message, parts.action) := by
  have hupTo : upTo? ':' (place ++ ':' :: rest) = some (place, rest) := upTo?_eq_some_iff.2 ⟨rfl, hplace⟩
  rw [ofText?, hupTo, Option.bind_eq_bind, Option.bind_some, Option.bind_eq_some_iff]
  constructor
  · rintro ⟨⟨message, action⟩, hfield, hparts⟩
    obtain rfl := Option.some.inj hparts
    exact ⟨rfl, rfl, hfield⟩
  · rintro ⟨rfl, hrequired, hfield⟩
    exact ⟨(parts.message, parts.action), hfield, by rw [hrequired]; rfl⟩

end ArgumentParts

theorem readArgument?_argumentSpec (a : Argument) (position : Nat) :
    readArgument? (argumentSpec a (toString position)) =
      ArgumentParts.ofText? (argumentText a position) := by
  rw [readArgument?, unquoted?_of_toList (toList_argumentSpec a position), Option.bind_some]

/-- The message of an argument with its backslashes, the colon that ends it, and the action. -/
def messageField (a : Argument) : List Char :=
  guarded isBracket (messageText a) ++ ':' :: actionText a.completion

/-- What follows the colon behind the place. -/
def markedField (a : Argument) : List Char :=
  if a.required then messageField a else ':' :: messageField a

theorem argumentText_eq (a : Argument) (position : Nat) :
    argumentText a position = placeText a position ++ ':' :: markedField a := by
  rw [argumentText, markedField, messageField, messageText, descriptionText]
  split <;> simp

theorem fieldUpTo?_messageField_iff (a : Argument) :
    fieldUpTo? ':' (messageField a) = some (messageText a, actionText a.completion) ↔
      ':' ∉ messageText a ∧ BackslashesBefore isBracket (messageText a) := by
  have hclass : (fun c => isBracket c && !(c == ':')) = isBracket := by
    funext c
    cases hc : c == ':' with
    | true =>
      rw [eq_of_beq hc]
      rfl
    | false => simp
  rw [messageField, fieldUpTo?_guarded_eq_some_iff rfl (by decide), hclass]
  exact and_congr_left' ⟨fun h hmem => absurd (h hmem) (by decide), fun h hmem => absurd hmem h⟩

theorem messageField_of_eq_nil {a : Argument} (hmessage : messageText a = []) :
    messageField a = ':' :: actionText a.completion := by
  rw [messageField, hmessage]
  rfl

theorem head?_messageField_ne {a : Argument} (hmessage : messageText a ≠ []) (hcolon : ':' ∉ messageText a) :
    (messageField a).head? ≠ some ':' := by
  obtain ⟨c, rest, hfirst⟩ := List.exists_cons_of_ne_nil hmessage
  rw [hfirst, List.mem_cons, not_or] at hcolon
  rw [messageField, hfirst]
  cases hc : isBracket c with
  | true =>
    rw [guarded_of_pos hc]
    simp
  | false =>
    rw [guarded_of_neg hc]
    simpa using Ne.symm hcolon.1

/-- Without a message the colon that should end it is taken for the second one before it. -/
theorem markRead_markedField_iff (a : Argument) :
    (ArgumentParts.markRead (markedField a)).1 = a.required ∧
        fieldUpTo? ':' (ArgumentParts.markRead (markedField a)).2 =
          some (messageText a, actionText a.completion) ↔
      fieldUpTo? ':' (messageField a) = some (messageText a, actionText a.completion) ∧
        (a.required = true → messageText a ≠ []) := by
  cases hrequired : a.required with
  | false =>
    have hmark : ArgumentParts.markRead (markedField a) = (false, messageField a) := by
      rw [markedField, hrequired]
      rfl
    simp [hmark]
  | true =>
    have hmarked : markedField a = messageField a := if_pos hrequired
    rw [hmarked]
    constructor
    · rintro ⟨hmark, hfield⟩
      rw [ArgumentParts.eq_of_markRead hmark] at hfield
      refine ⟨hfield, fun _ hnil => ?_⟩
      rw [messageField_of_eq_nil hnil] at hmark
      cases hmark
    · rintro ⟨hfield, hmessage⟩
      have hcolon := ((fieldUpTo?_messageField_iff a).1 hfield).1
      rw [ArgumentParts.markRead_of_head?_ne (head?_messageField_ne (hmessage rfl) hcolon)]
      exact ⟨rfl, hfield⟩

/-- The specification of an argument at a position is read back as what it is meant to say, the place, whether
the argument is required, the message on one line and the action, exactly if there is no colon in the message,
each of its backslashes stands before a bracket, and it is not empty where the argument is required: a message
gets backslashes before its brackets, but neither before its colons nor before its own backslashes. -/
theorem argument_spec_reads_back_iff (a : Argument) (position : Nat) :
    readArgument? (argumentSpec a (toString position)) = some (argumentParts a position) ↔
      ':' ∉ messageText a ∧ BackslashesBefore isBracket (messageText a) ∧
        (a.required = true → messageText a ≠ []) := by
  have hcolon : ':' ∉ placeText a position := notMem_placeText (by decide) (by decide)
  have hplace : (argumentParts a position).place = placeText a position := rfl
  rw [readArgument?_argumentSpec, argumentText_eq, ArgumentParts.ofText?_eq_some_iff hcolon,
    and_iff_right hplace, ← and_assoc, ← fieldUpTo?_messageField_iff]
  exact markRead_markedField_iff a

/-- The first colon in the message of an argument ends it, and the rest of the message is read as an action. -/
theorem colon_in_message_ends_it :
    let path : Fields := [("name", .text "path"), ("description", .text "Path: the file")]
    let run : Fields := [("name", .text "run"), ("arguments", .list [.object path])]
    let node : Fields := [("name", .text "tool"), ("commands", .list [.object run])]
    let a : Argument := { name := "path", description := "Path: the file" }
    (checkDocument (.object node)).problems = [] ∧
      Program.ofDocument (.object node) =
        .ok { name := "tool", commands := [{ name := "run", arguments := [a] }] } ∧
      readArgument? (argumentSpec a (toString 1)) =
        some ⟨"1".toList, true, "Path".toList, " the file:_files".toList⟩ ∧
      readArgument? (argumentSpec a (toString 1)) ≠ some (argumentParts a 1) := by
  intro path run node a
  have hpath : IsArgument path := isArgument_of_description (by decide) "Path: the file"
  have hrun : IsCommand run :=
    isCommand_of_arguments (by decide) (List.forall_mem_singleton.2 hpath)
  have hnode : IsProgram node :=
    isProgram_of_commands (by decide) (List.forall_mem_singleton.2 hrun) (by decide)
  have hreadRun : Command.ofDocument (.object run) = .ok { name := "run", arguments := [a] } := by
    rw [Command.ofDocument_object]
    rfl
  exact ⟨problems_checkDocument_eq_nil_iff.2 ⟨node, rfl, hnode⟩,
    Program.ofDocument_of_command "tool" (by decide) hreadRun, by decide, by decide⟩

end Tabsmith.Zsh
