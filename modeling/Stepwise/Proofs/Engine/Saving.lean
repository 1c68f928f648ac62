import Stepwise.Engine.Run
import Stepwise.Proofs.Effect

/-!
# Saving a record

Saving makes a snapshot of the record and hands it to the store within the limit of the engine.
Whatever comes of it, only the store and the trace of the engine change. A save that succeeds has
kept the snapshot and leaves a trace of it; one that fails may have been made too late, but that
takes a limit which leaves the store no time to answer.
-/

namespace Stepwise

namespace Execution

/-- What can be copied has its copy for a snapshot, and nothing else has a snapshot. -/
theorem snapshot_eq_ok {execution snapshot : Execution} :
    execution.snapshot = .ok snapshot ↔
      execution.obstacle? = none ∧ snapshot = execution.copied := by
  unfold Execution.snapshot Fault.barring
  cases execution.obstacle? with
  | none => simp [eq_comm]
  | some f => simp

end Execution

namespace Engine

variable {η α : Type}

/-- The engine with another store and one more event. -/
def stored (engine : Engine η) (store : Store) (event : Event η) : Engine η :=
  { engine with store, trace := engine.trace ++ [event] }

/-- A save reaches the store once and is noted, whether it was kept or not. -/
theorem save_eq (execution : Execution) (engine : Engine η) :
    (save execution).runOn engine =
      (((Store.save execution).runOn engine.store).1,
        engine.stored ((Store.save execution).runOn engine.store).2
          (.saved execution ((Store.save execution).runOn engine.store).1.isOk)) := by
  rw [save, Effect.runOn_attempt_bind, Effect.runOn_modify_bind, Effect.runOn_lift, onStore,
    Effect.runOn_onPart]
  rfl

/-- What a call of the store comes to when it meets a fault. -/
def storeRefusal (name : String) (limit : Value) (f : Fault) : Except Fault α := do
  let wrapped ← persistenceFault name limit f
  throw wrapped

/-- The refusal is a fault, whatever the call would have come to. -/
theorem storeRefusal_eq (name : String) (limit : Value) (f : Fault) :
    ∃ g, ∀ α : Type, (storeRefusal name limit f : Except Fault α) = .error g := by
  unfold storeRefusal
  cases persistenceFault name limit f with
  | ok wrapped => exact ⟨wrapped, fun _ => rfl⟩
  | error g => exact ⟨g, fun _ => rfl⟩

theorem storeRefusal_ne_ok {name : String} {limit : Value} {f : Fault} {a : α} :
    storeRefusal name limit f ≠ .ok a := by
  obtain ⟨g, refused⟩ := storeRefusal_eq name limit f
  rw [refused]
  nofun

/-- A call of the store is made when its limit leaves it any time, and its answer is heard when
the limit leaves it all. -/
theorem callStore_eq (name : String) (effect : Effect (Engine η) α) (engine : Engine η) :
    (callStore name effect).runOn engine =
      let limit := engine.options.persistTimeout
      match limit.allowance with
      | .ok .all =>
        match effect.runOn engine with
        | (.ok a, left) => (.ok a, left)
        | (.error f, left) => (storeRefusal name limit f, left)
      | .ok .start =>
        (storeRefusal name limit (.machinery "TimeoutError" ""), (effect.runOn engine).2)
      | .ok .nothing => (storeRefusal name limit (.machinery "TimeoutError" ""), engine)
      | .error f => (storeRefusal name limit f, engine) := by
  have wrapping (f : Fault) (state : Engine η) :
      (lift (persistenceFault name engine.options.persistTimeout f) >>= fun wrapped =>
        throw wrapped : Effect (Engine η) α).runOn state =
        (storeRefusal name engine.options.persistTimeout f, state) := by
    rw [Effect.runOn_lift_bind, storeRefusal]
    cases persistenceFault name engine.options.persistTimeout f <;> rfl
  rw [callStore, Effect.runOn_get_bind]
  cases limit : engine.options.persistTimeout.allowance with
  | error f =>
    simp only [limit, pure_bind]
    exact wrapping f engine
  | ok allowance =>
    cases allowance with
    | nothing =>
      simp only [limit, pure_bind]
      exact wrapping _ engine
    | start =>
      simp only [limit, pure_bind, Effect.runOn_attempt_bind]
      exact wrapping _ _
    | all =>
      simp only [limit, Effect.runOn_attempt_bind]
      rcases effect.runOn engine with ⟨f | a, left⟩
      · exact wrapping f left
      · rfl

/-- A call of the store that is not made leaves everything as it was. -/
theorem callStore_left (name : String) (effect : Effect (Engine η) α) (engine : Engine η) :
    ((callStore name effect).runOn engine).2 = engine ∨
      ((callStore name effect).runOn engine).2 = (effect.runOn engine).2 := by
  rw [callStore_eq]
  dsimp only
  split
  · rcases effect.runOn engine with ⟨f | a, left⟩ <;> exact .inr rfl
  · exact .inr rfl
  · exact .inl rfl
  · exact .inl rfl

/-- A call of the store that succeeds is the call itself. -/
theorem callStore_ok {name : String} {effect : Effect (Engine η) α} {engine left : Engine η}
    {a : α} (succeeded : (callStore name effect).runOn engine = (.ok a, left)) :
    effect.runOn engine = (.ok a, left) := by
  rw [callStore_eq] at succeeded
  dsimp only at succeeded
  split at succeeded
  · rcases called : effect.runOn engine with ⟨f | b, reached⟩
    · rw [called] at succeeded
      exact absurd (Prod.mk.inj succeeded).1 storeRefusal_ne_ok
    · rw [called] at succeeded
      exact succeeded
  all_goals exact absurd (Prod.mk.inj succeeded).1 storeRefusal_ne_ok

/-- Only a limit that leaves a call of the store all the time it takes lets it succeed. -/
theorem callStore_timely {name : String} {effect : Effect (Engine η) α} {engine left : Engine η}
    {a : α} (succeeded : (callStore name effect).runOn engine = (.ok a, left)) :
    engine.options.persistTimeout.allowance = .ok .all := by
  rw [callStore_eq] at succeeded
  dsimp only at succeeded
  split at succeeded
  · assumption
  all_goals exact absurd (Prod.mk.inj succeeded).1 storeRefusal_ne_ok

/-- Without a limit there is all the time it takes. -/
theorem allowance_of_isNull {limit : Value} (unlimited : limit.isNull = true) :
    limit.allowance = .ok .all := by
  cases limit with
  | null => rfl
  | _ => cases unlimited

/-- A call of the store that succeeds in time is heard. -/
theorem callStore_of_ok {name : String} {effect : Effect (Engine η) α} {engine left : Engine η}
    {a : α} (timely : engine.options.persistTimeout.allowance = .ok .all)
    (called : effect.runOn engine = (.ok a, left)) :
    (callStore name effect).runOn engine = (.ok a, left) := by
  rw [callStore_eq]
  simp only [timely, called]

/-! ## Saving -/

/-- The record is saved, and this is where it leaves the engine. -/
def Saves (engine : Engine η) (execution : Execution) (left : Engine η) : Prop :=
  (persist execution).runOn engine = (.ok (), left)

/-- A record that is saved could be copied, and its copy is kept by the store and noted. -/
theorem Saves.kept {engine left : Engine η} {execution : Execution}
    (saved : engine.Saves execution left) :
    execution.obstacle? = none ∧
      ∃ store, (Store.save execution.copied).runOn engine.store = (.ok (), store) ∧
        left = engine.stored store (.saved execution.copied true) := by
  obtain ⟨snapshot, reached, taken, called⟩ := Effect.bind_ok saved
  rw [Effect.runOn_lift] at taken
  obtain ⟨made, rfl⟩ := Prod.mk.inj taken
  obtain ⟨free, rfl⟩ := Execution.snapshot_eq_ok.mp made
  have kept := callStore_ok called
  rw [save_eq] at kept
  obtain ⟨succeeded, rfl⟩ := Prod.mk.inj kept
  rcases stored : (Store.save execution.copied).runOn engine.store with ⟨result, store⟩
  rw [stored] at succeeded
  dsimp only at succeeded
  subst succeeded
  exact ⟨free, store, rfl, rfl⟩

/-- A record that is saved leaves everything but the store and the trace as it was. -/
theorem Saves.ownership {engine left : Engine η} {execution : Execution}
    (saved : engine.Saves execution left) : left.ownership = engine.ownership := by
  obtain ⟨-, store, -, rfl⟩ := saved.kept
  rfl

theorem Saves.timely {engine left : Engine η} {execution : Execution}
    (saved : engine.Saves execution left) :
    engine.options.persistTimeout.allowance = .ok .all := by
  obtain ⟨snapshot, reached, taken, called⟩ := Effect.bind_ok saved
  rw [Effect.runOn_lift] at taken
  obtain ⟨-, rfl⟩ := Prod.mk.inj taken
  exact callStore_timely called

/-- Whatever comes of saving, the engine keeps everything but its store and its trace. -/
theorem persist_left (execution : Execution) (engine : Engine η) :
    ∃ store trace, ((persist execution).runOn engine).2 = { engine with store, trace } := by
  rw [persist, Effect.runOn_lift_bind]
  cases execution.snapshot with
  | error f => exact ⟨engine.store, engine.trace, rfl⟩
  | ok snapshot =>
    have called : ∃ store trace,
        ((save snapshot).runOn engine).2 = { engine with store, trace } := by
      rw [save_eq]
      exact ⟨_, _, rfl⟩
    simp only [callStore_eq]
    split
    · rcases made : (save snapshot).runOn engine with ⟨f | _, left⟩
      · simpa [made] using called
      · simpa [made] using called
    · exact called
    · exact ⟨engine.store, engine.trace, rfl⟩
    · exact ⟨engine.store, engine.trace, rfl⟩

end Engine

end Stepwise
