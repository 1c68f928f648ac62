import Stepwise.Effect

/-!
# Running effects

An effect run on a state comes to a result and a changed state. These laws say what each way of
building an effect comes to, so that the operations of the engine can be followed without opening
the layers that effects are made of. A bind goes on from the state that its first part leaves, and
it stops at the first fault with what was done until then.
-/

namespace Stepwise

/-- A chain of results that ends in a fault met it in its first part or, after a value, later. -/
theorem Result.bind_error {α β : Type} {first : Except Fault α} {next : α → Except Fault β}
    {f : Fault} (met : first >>= next = .error f) :
    first = .error f ∨ ∃ a, first = .ok a ∧ next a = .error f := by
  cases first with
  | error other =>
    have same : other = f := Except.error.inj met
    exact .inl (same ▸ rfl)
  | ok a => exact .inr ⟨a, rfl, met⟩

/-- A chain of results that ends in a value has values all along. -/
theorem Result.bind_ok {ε α β : Type} {first : Except ε α} {next : α → Except ε β}
    {b : β} (succeeded : first >>= next = .ok b) : ∃ a, first = .ok a ∧ next a = .ok b := by
  cases first with
  | error other => cases succeeded
  | ok a => exact ⟨a, rfl, succeeded⟩

theorem Result.exists_ok {ε α : Type} {result : Except ε α} (ok : result.isOk = true) :
    ∃ a, result = .ok a := by
  cases result with
  | error f => cases ok
  | ok a => exact ⟨a, rfl⟩

/-- A mapped result is a value only when it was one before. -/
theorem Result.map_ok {α β : Type} {change : α → β} {result : Except Fault α} {b : β}
    (succeeded : result.map change = .ok b) : ∃ a, result = .ok a ∧ change a = b := by
  cases result with
  | error f => cases succeeded
  | ok a => exact ⟨a, rfl, Except.ok.inj succeeded⟩

namespace Effect

variable {σ τ α β : Type}

@[simp] theorem runOn_pure (state : σ) (a : α) :
    (pure a : Effect σ α).runOn state = (.ok a, state) := rfl

@[simp] theorem runOn_throw (state : σ) (f : Fault) :
    (throw f : Effect σ α).runOn state = (.error f, state) := rfl

/-- A lifted result leaves the state alone, whether it is a fault or not. -/
@[simp] theorem runOn_lift (state : σ) (result : Except Fault α) :
    (lift result : Effect σ α).runOn state = (result, state) := by
  cases result <;> rfl

@[simp] theorem runOn_get (state : σ) : (get : Effect σ σ).runOn state = (.ok state, state) := rfl

@[simp] theorem runOn_set (state changed : σ) :
    (set changed : Effect σ PUnit).runOn state = (.ok ⟨⟩, changed) := rfl

@[simp] theorem runOn_modify (state : σ) (change : σ → σ) :
    (modify change : Effect σ PUnit).runOn state = (.ok ⟨⟩, change state) := rfl

/-- A fault of an attempted effect is its value, so what follows the attempt always runs. -/
@[simp] theorem runOn_attempt (state : σ) (effect : Effect σ α) :
    effect.attempt.runOn state = (.ok (effect.runOn state).1, (effect.runOn state).2) := rfl

@[simp] theorem runOn_onPart (state : σ) (part : σ → τ) (replace : τ → σ → σ)
    (effect : Effect τ α) :
    (onPart part replace effect).runOn state =
      ((effect.runOn (part state)).1, replace (effect.runOn (part state)).2 state) := rfl

/-- The second part of a bind sees the state that the first part left. After a fault it does not
run, and what the first part did stays done. -/
theorem runOn_bind (state : σ) (effect : Effect σ α) (next : α → Effect σ β) :
    (effect >>= next).runOn state =
      match effect.runOn state with
      | (.ok a, changed) => (next a).runOn changed
      | (.error f, changed) => (.error f, changed) := by
  unfold runOn
  change ExceptT.bindCont next (effect state).1 (effect state).2 = _
  rcases effect state with ⟨_ | _, _⟩ <;> rfl

/-- A handler sees the state in which the fault was met. -/
theorem runOn_tryCatch (state : σ) (effect : Effect σ α) (handle : Fault → Effect σ α) :
    (tryCatch effect handle).runOn state =
      match effect.runOn state with
      | (.ok a, changed) => (.ok a, changed)
      | (.error f, changed) => (handle f).runOn changed := by
  unfold runOn
  simp only [tryCatch, tryCatchThe, MonadExcept.tryCatch, MonadExceptOf.tryCatch,
    ExceptT.tryCatch, ExceptT.mk, bind, StateT.bind, pure]
  rcases effect state with ⟨_ | _, _⟩ <;> rfl

/-- A lifted result in front of an effect either stops it or hands its value on. -/
@[simp] theorem runOn_lift_bind (state : σ) (result : Except Fault α) (next : α → Effect σ β) :
    (lift result >>= next).runOn state =
      match result with
      | .ok a => (next a).runOn state
      | .error f => (.error f, state) := by
  rw [runOn_bind, runOn_lift]
  cases result <;> rfl

@[simp] theorem runOn_get_bind (state : σ) (next : σ → Effect σ β) :
    (get >>= next).runOn state = (next state).runOn state := by
  rw [runOn_bind, runOn_get]

@[simp] theorem runOn_modify_bind (state : σ) (change : σ → σ) (next : PUnit → Effect σ β) :
    (modify change >>= next).runOn state = (next ⟨⟩).runOn (change state) := by
  rw [runOn_bind, runOn_modify]

@[simp] theorem runOn_set_bind (state changed : σ) (next : PUnit → Effect σ β) :
    (set changed >>= next).runOn state = (next ⟨⟩).runOn changed := by
  rw [runOn_bind, runOn_set]

@[simp] theorem runOn_attempt_bind (state : σ) (effect : Effect σ α)
    (next : Except Fault α → Effect σ β) :
    (effect.attempt >>= next).runOn state =
      (next (effect.runOn state).1).runOn (effect.runOn state).2 := by
  rw [runOn_bind, runOn_attempt]

/-- A bind that succeeds has a first part that succeeds, and goes on from where that ended. -/
theorem bind_ok {state final : σ} {effect : Effect σ α} {next : α → Effect σ β} {b : β}
    (succeeded : (effect >>= next).runOn state = (.ok b, final)) :
    ∃ a changed, effect.runOn state = (.ok a, changed) ∧
      (next a).runOn changed = (.ok b, final) := by
  rw [runOn_bind] at succeeded
  rcases first : effect.runOn state with ⟨f | a, changed⟩
  · simp [first] at succeeded
  · exact ⟨a, changed, rfl, by simpa only [first] using succeeded⟩

end Effect

end Stepwise
