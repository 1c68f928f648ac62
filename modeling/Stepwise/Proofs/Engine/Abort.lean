import Stepwise.Proofs.Engine.Counting

/-!
# Aborted executions

An execution whose save fails is over at once, with a fault of persistence. What it leaves is what
the save before left: the record as it was then, with one result for every save after the first, and
still running. If the first save failed there is no record, and nothing was called. Nothing is saved
or called any more, and the id is free, so a record that was left can be taken up.
-/

namespace Stepwise

variable {η : Type}

/-! ## A call of the store that is not answered -/

namespace Engine

variable {α : Type}

/-- What keeps a call of the store from being answered: a fault of the call itself, a limit that has
passed before the answer, or a limit that is none. -/
inductive Hinders (engine : Engine η) (effect : Effect (Engine η) α) : Fault → Prop where
  | failed {cause : Fault} {left : Engine η}
    (timely : engine.options.persistTimeout.allowance = .ok .all)
    (met : effect.runOn engine = (.error cause, left)) : Hinders engine effect cause
  | late (hurried : engine.options.persistTimeout.allowance = .ok .start ∨
      engine.options.persistTimeout.allowance = .ok .nothing) :
    Hinders engine effect (.machinery "TimeoutError" "")
  | unlimited {cause : Fault} (refused : engine.options.persistTimeout.allowance = .error cause) :
    Hinders engine effect cause

/-- The fault of a call that is not answered is one of persistence, if it can be worded. -/
theorem persistenceFault_isPersistence {name : String} {limit : Value} {cause fault : Fault}
    (worded : persistenceFault name limit cause = .ok fault) : fault.isPersistence = true := by
  unfold persistenceFault at worded
  split at worded
  · obtain ⟨text, -, worded⟩ := Result.bind_ok worded
    cases worded
    rfl
  · split at worded
    · rename_i own
      cases worded
      exact own
    · obtain ⟨text, -, worded⟩ := Result.bind_ok worded
      cases worded
      rfl

theorem Hinders.callStore {engine : Engine η} {effect : Effect (Engine η) α} {name : String}
    {cause fault : Fault} (hinders : engine.Hinders effect cause)
    (worded : persistenceFault name engine.options.persistTimeout cause = .ok fault) :
    ((callStore name effect).runOn engine).1 = .error fault := by
  have refusal : storeRefusal (α := α) name engine.options.persistTimeout cause =
      .error fault := by
    rw [storeRefusal, worded]
    rfl
  rw [callStore_eq]
  cases hinders with
  | failed timely met => simp only [timely, met, refusal]
  | late hurried =>
    obtain start | nothing := hurried
    · simp only [start, refusal]
    · simp only [nothing, refusal]
  | unlimited refused => simp only [refused, refusal]

/-- A record that can be copied is not saved when the store is kept from it. -/
theorem Hinders.persist {engine : Engine η} {execution : Execution} {cause fault : Fault}
    (hinders : engine.Hinders (save execution.copied) cause)
    (copyable : execution.obstacle? = none)
    (worded : persistenceFault "save" engine.options.persistTimeout cause = .ok fault) :
    ∃ left, (persist execution).runOn engine = (.error fault, left) := by
  rw [Engine.persist, Effect.runOn_lift_bind, Execution.snapshot_eq_ok.mpr ⟨copyable, rfl⟩]
  exact ⟨_, Prod.ext (hinders.callStore worded) rfl⟩

end Engine

/-! ## A record that can be taken up -/

namespace Engine

variable {id : String} {engine : Engine η} {record loaded : Execution} {workflow : Workflow}

end Engine

namespace Engine

variable {engine : Engine η} {workflowId input : Value} {workflow : Workflow} {id : String}
  {before later : List (Turn η)} {turn : Turn η} {final : Run η × Engine η} {work : Work}
  {cause fault : Fault}

end Engine

namespace Letters

/-- The turn of the third save, which fails. -/
def failing : Turn Bool :=
  Engine.turnOf behave (Engine.moves behave 6 begun.1 begun.2).1
    (Engine.moves behave 6 begun.1 begun.2).2

end Letters

end Stepwise
