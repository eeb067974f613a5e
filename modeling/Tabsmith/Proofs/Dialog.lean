import Mathlib.Data.List.Basic
import Tabsmith.Dialog
import Tabsmith.Proofs.Outcome

/-!
What a dialog ensures when it gives a result, and the result it gives for some answers. The user is
known by the answers, given one by one to the questions in the order in which they are asked; what was
asked once stays among the events.
-/

namespace Tabsmith

/-- The question that an event asks. -/
def Event.prompt? : Event → Option Prompt
  | .said .. => none
  | .asked prompt => some prompt

/-- The value that an answer gives to a question, unless it breaks off the dialog. -/
def Answer.value? (prompt : Prompt) : Answer → Option Value
  | .given value => some value
  | .usual => some prompt.usual
  | .interrupt => none

/-- The questions among some events, in order. -/
def questions (events : List Event) : List Prompt :=
  events.filterMap Event.prompt?

theorem questions_said (events : List Event) (text style : String) :
    questions (events ++ [.said text style]) = questions events := by
  simp [questions, List.filterMap_append, Event.prompt?]

theorem questions_asked (events : List Event) (prompt : Prompt) :
    questions (events ++ [.asked prompt]) = questions events ++ [prompt] := by
  simp [questions, List.filterMap_append, Event.prompt?]

/-- A user with some answers gave a value to a question that was asked. A user without any more
answers cancels. -/
def Answered (answers : List Answer) (events : List Event) (prompt : Prompt) (value : Value) :
    Prop :=
  ∃ n, (questions events)[n]? = some prompt ∧
    (answers.getD n (.given .null)).value? prompt = some value

/-- The answers left are those that the questions so far have not taken. -/
def DialogState.Follows (answers : List Answer) (state : DialogState) : Prop :=
  state.answers = answers.drop (questions state.events).length

namespace Dialog

variable {α β : Type} {answers : List Answer}

/-- A question takes one of the answers that are left. -/
theorem outcomeFrom_ask (prompt : Prompt) (state : DialogState) :
    outcomeFrom (ask prompt) state =
      (match (state.answers.headD (.given .null)).value? prompt with
        | some value => .ok value
        | none => .error (.breakdown .interrupted),
      { state with answers := state.answers.tail, events := state.events ++ [.asked prompt] }) := by
  obtain ⟨left, events, notes⟩ := state
  cases left with
  | nil => rfl
  | cons answer rest => cases answer <;> rfl

/-- Whenever a dialog gives a result, it holds of the result and of what happened, then and later
on. -/
def Ensures (answers : List Answer) (dialog : Dialog α) (post : α → List Event → Prop) : Prop :=
  ∀ before a after, before.Follows answers → outcomeFrom dialog before = (.ok a, after) →
    after.Follows answers ∧ before.events <+: after.events ∧
      ∀ events, after.events <+: events → post a events

namespace Ensures

theorem imp {dialog : Dialog α} {post weaker : α → List Event → Prop}
    (hdialog : Ensures answers dialog post) (himp : ∀ a events, post a events → weaker a events) :
    Ensures answers dialog weaker := by
  intro before a after hbefore hrun
  obtain ⟨hafter, hevents, hpost⟩ := hdialog before a after hbefore hrun
  exact ⟨hafter, hevents, fun events hlater => himp a events (hpost events hlater)⟩

theorem pure {post : α → List Event → Prop} (a : α) (hpost : ∀ events, post a events) :
    Ensures answers (pure a : Dialog α) post := by
  intro before b after hbefore hrun
  cases hrun
  exact ⟨hbefore, List.prefix_refl _, fun events _ => hpost events⟩

theorem throw {post : α → List Event → Prop} (fault : Fault) :
    Ensures answers (throw fault : Dialog α) post := by
  intro before b after hbefore hrun
  cases hrun

/-- What the first part ensures can be used for the second one. -/
theorem bind {dialog : Dialog α} {next : α → Dialog β} {mid : α → List Event → Prop}
    {post : β → List Event → Prop} (hdialog : Ensures answers dialog mid)
    (hnext : ∀ a, Ensures answers (next a) fun b events => mid a events → post b events) :
    Ensures answers (dialog >>= next) post := by
  intro before b after hbefore hrun
  obtain ⟨a, between, hfirst, hsecond⟩ := outcomeFrom_bind_eq_ok_iff.1 hrun
  obtain ⟨hbetween, hearly, hmid⟩ := hdialog before a between hbefore hfirst
  obtain ⟨hafter, hlate, hpost⟩ := hnext a between b after hbetween hsecond
  exact ⟨hafter, hearly.trans hlate, fun events hlater =>
    hpost events hlater (hmid events (hlate.trans hlater))⟩

theorem map {dialog : Dialog α} {f : α → β} {post : β → List Event → Prop}
    (hdialog : Ensures answers dialog fun a => post (f a)) : Ensures answers (f <$> dialog) post := by
  rw [← bind_pure_comp]
  exact hdialog.bind fun a => .pure _ fun _ h => h

/-- A result that is known beforehand. -/
theorem known (result : Except Fault α) :
    Ensures answers (ExceptT.mk (Pure.pure result) : Dialog α) fun a _ => result = .ok a := by
  intro before a after hbefore hrun
  cases hrun
  exact ⟨hbefore, List.prefix_refl _, fun _ _ => rfl⟩

theorem say (text style : String) :
    Ensures answers (Dialog.say text style) fun _ _ => True := by
  intro before a after hbefore hrun
  cases hrun
  refine ⟨?_, List.prefix_append _ _, fun _ _ => trivial⟩
  simpa only [DialogState.Follows, questions_said] using hbefore

theorem sayAll (texts : List α) (line : α → String) (style : String) :
    Ensures answers (texts.forM fun text => Dialog.say (line text) style) fun _ _ => True := by
  induction texts with
  | nil => exact .pure _ fun _ => trivial
  | cons text rest ih => exact (say _ style).bind fun _ => ih.imp fun _ _ _ _ => trivial

theorem note (notes : List Note) : Ensures answers (Dialog.note notes) fun _ _ => True := by
  intro before a after hbefore hrun
  cases hrun
  exact ⟨hbefore, List.prefix_refl _, fun _ _ => trivial⟩

/-- Work that takes notes gives its result. -/
theorem ofNoted (work : Noted α) : Ensures answers (Dialog.ofNoted work) fun a _ =>
    ∃ notes after, outcomeFrom work notes = (.ok a, after) := by
  intro before a after hbefore hrun
  rcases hwork : outcomeFrom work before.notes with ⟨result, notes⟩
  have hdone : outcomeFrom (Dialog.ofNoted work) before =
      (result, { before with notes := notes }) := by
    change ((outcomeFrom work before.notes).1,
      { before with notes := (outcomeFrom work before.notes).2 }) = _
    rw [hwork]
  rw [hdone] at hrun
  cases hrun
  exact ⟨hbefore, List.prefix_refl _, fun _ _ => ⟨_, _, hwork⟩⟩

/-- The value of a question is the one that the user gave. -/
theorem ask (prompt : Prompt) : Ensures answers (Dialog.ask prompt) fun value events =>
    Answered answers events prompt value := by
  intro before value after hbefore hrun
  rw [outcomeFrom_ask] at hrun
  cases hvalue : (before.answers.headD (.given .null)).value? prompt with
  | none =>
    rw [hvalue] at hrun
    cases hrun
  | some given =>
    rw [hvalue] at hrun
    cases hrun
    refine ⟨?_, List.prefix_append _ _, fun events hlater =>
      ⟨(questions before.events).length, ?_, ?_⟩⟩
    · simp only [DialogState.Follows, questions_asked, List.length_append]
      rw [hbefore, List.tail_drop]
      rfl
    · obtain ⟨more, rfl⟩ := hlater
      simp [questions, List.filterMap_append, Event.prompt?]
    · rw [← hvalue, hbefore, List.headD_eq_head?_getD, List.head?_drop, List.getD_eq_getElem?_getD]

end Ensures

/-- With such answers left, a dialog comes to a result and leaves others, whatever happened before. -/
def Gives (dialog : Dialog α) (given : List Answer) (result : Except Fault α) (left : List Answer) :
    Prop :=
  ∀ before, before.answers = given →
    ∃ after, outcomeFrom dialog before = (result, after) ∧ after.answers = left

namespace Gives

variable {given mid left : List Answer}

theorem pure (a : α) : Gives (pure a : Dialog α) given (.ok a) given :=
  fun before hbefore => ⟨before, rfl, hbefore⟩

theorem throw (fault : Fault) : Gives (throw fault : Dialog α) given (.error fault) given :=
  fun before hbefore => ⟨before, rfl, hbefore⟩

theorem bind {dialog : Dialog α} {next : α → Dialog β} {a : α} {result : Except Fault β}
    (hdialog : Gives dialog given (.ok a) mid) (hnext : Gives (next a) mid result left) :
    Gives (dialog >>= next) given result left := by
  intro before hbefore
  obtain ⟨between, hfirst, hbetween⟩ := hdialog before hbefore
  obtain ⟨after, hsecond, hafter⟩ := hnext between hbetween
  exact ⟨after, by rw [outcomeFrom_bind, hfirst]; exact hsecond, hafter⟩

theorem bind_error {dialog : Dialog α} {fault : Fault} (next : α → Dialog β)
    (hdialog : Gives dialog given (.error fault) left) :
    Gives (dialog >>= next) given (.error fault) left := by
  intro before hbefore
  obtain ⟨after, hfirst, hafter⟩ := hdialog before hbefore
  exact ⟨after, by rw [outcomeFrom_bind, hfirst], hafter⟩

theorem map {dialog : Dialog α} {a : α} (f : α → β) (hdialog : Gives dialog given (.ok a) left) :
    Gives (f <$> dialog) given (.ok (f a)) left := by
  rw [← bind_pure_comp]
  exact hdialog.bind (.pure _)

/-- A result that is known beforehand. -/
theorem known {found result : Except Fault α} (hfound : found = result) :
    Gives (ExceptT.mk (Pure.pure found) : Dialog α) given result given :=
  fun before hbefore => ⟨before, by rw [hfound]; rfl, hbefore⟩

theorem say (text style : String) : Gives (Dialog.say text style) given (.ok ()) given :=
  fun _ hbefore => ⟨_, rfl, hbefore⟩

theorem sayAll (texts : List α) (line : α → String) (style : String) :
    Gives (texts.forM fun text => Dialog.say (line text) style) given (.ok ()) given := by
  induction texts with
  | nil => exact .pure ()
  | cons text rest ih => exact (say _ style).bind ih

theorem note (notes : List Note) : Gives (Dialog.note notes) given (.ok ()) given :=
  fun _ hbefore => ⟨_, rfl, hbefore⟩

/-- Work whose result does not depend on the notes taken so far. -/
theorem ofNoted {work : Noted α} {result : Except Fault α}
    (hwork : ∀ notes, (outcomeFrom work notes).1 = result) :
    Gives (Dialog.ofNoted work) given result given := by
  intro before hbefore
  refine ⟨{ before with notes := (outcomeFrom work before.notes).2 }, ?_, hbefore⟩
  rw [← hwork before.notes]
  rfl

theorem ask {prompt : Prompt} {answer : Answer} {value : Value}
    (hvalue : answer.value? prompt = some value) :
    Gives (Dialog.ask prompt) (answer :: left) (.ok value) left := by
  rintro ⟨_, events, notes⟩ rfl
  refine ⟨⟨left, events ++ [.asked prompt], notes⟩, ?_, rfl⟩
  rw [outcomeFrom_ask, List.headD_cons, hvalue]
  rfl

end Gives

end Dialog

end Tabsmith
