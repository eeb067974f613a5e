/-!
Work on a state that may fail: its result and the state that it leaves, step by step. What was done
before a failure stays done, so that a failed step leaves a state too.
-/

namespace Tabsmith

variable {ε σ α β : Type}

theorem throw_eq_error (e : ε) : (throw e : Except ε α) = .error e :=
  rfl

theorem pure_eq_ok (a : α) : (pure a : Except ε α) = .ok a :=
  rfl

/-- Two steps succeed if the first one does, and then the second one. -/
theorem bind_eq_ok_iff {first : Except ε α} {next : α → Except ε β} {b : β} :
    first >>= next = .ok b ↔ ∃ a, first = .ok a ∧ next a = .ok b := by
  cases first with
  | error e =>
    constructor
    · rintro ⟨⟩
    · rintro ⟨_, ⟨⟩, _⟩
  | ok a =>
    constructor
    · exact fun hnext => ⟨a, rfl, hnext⟩
    · rintro ⟨_, ⟨⟩, hnext⟩
      exact hnext

/-- The result of work that starts in a state, and the state that it leaves. -/
def outcomeFrom (work : ExceptT ε (StateM σ) α) (s : σ) : Except ε α × σ :=
  work.run.run s

@[simp] theorem outcomeFrom_pure (a : α) (s : σ) :
    outcomeFrom (pure a : ExceptT ε (StateM σ) α) s = (.ok a, s) :=
  rfl

@[simp] theorem outcomeFrom_get (s : σ) :
    outcomeFrom (get : ExceptT ε (StateM σ) σ) s = (.ok s, s) :=
  rfl

@[simp] theorem outcomeFrom_modify (f : σ → σ) (s : σ) :
    outcomeFrom (modify f : ExceptT ε (StateM σ) Unit) s = (.ok (), f s) :=
  rfl

theorem outcomeFrom_bind (work : ExceptT ε (StateM σ) α) (next : α → ExceptT ε (StateM σ) β)
    (s : σ) :
    outcomeFrom (work >>= next) s =
      match outcomeFrom work s with
      | (.ok a, s') => outcomeFrom (next a) s'
      | (.error e, s') => (.error e, s') := by
  change (match outcomeFrom work s with
    | (result, s') => (ExceptT.bindCont next result).run s') = _
  rcases outcomeFrom work s with ⟨e | a, s'⟩ <;> rfl

theorem outcomeFrom_tryCatch (work : ExceptT ε (StateM σ) α)
    (rescue : ε → ExceptT ε (StateM σ) α) (s : σ) :
    outcomeFrom (tryCatch work rescue) s =
      match outcomeFrom work s with
      | (.ok a, s') => (.ok a, s')
      | (.error e, s') => outcomeFrom (rescue e) s' := by
  change (match outcomeFrom work s with
    | (result, s') => StateT.run (match result with
      | .ok a => pure (.ok a)
      | .error e => (rescue e).run : StateM σ (Except ε α)) s') = _
  rcases outcomeFrom work s with ⟨e | a, s'⟩ <;> rfl

theorem outcomeFrom_map (f : α → β) (work : ExceptT ε (StateM σ) α) (s : σ) :
    outcomeFrom (f <$> work) s = ((outcomeFrom work s).1.map f, (outcomeFrom work s).2) := by
  rw [← bind_pure_comp, outcomeFrom_bind]
  rcases outcomeFrom work s with ⟨e | a, s'⟩ <;> rfl

/-- Work that succeeds has steps that succeed one after the other. -/
theorem outcomeFrom_bind_eq_ok_iff {work : ExceptT ε (StateM σ) α}
    {next : α → ExceptT ε (StateM σ) β} {b : β} {s s' : σ} :
    outcomeFrom (work >>= next) s = (.ok b, s') ↔
      ∃ a between, outcomeFrom work s = (.ok a, between) ∧
        outcomeFrom (next a) between = (.ok b, s') := by
  rw [outcomeFrom_bind]
  rcases outcomeFrom work s with ⟨e | a, between⟩
  · simp
  · constructor
    · exact fun hnext => ⟨a, between, rfl, hnext⟩
    · rintro ⟨_, _, ⟨⟩, hnext⟩
      exact hnext

end Tabsmith
