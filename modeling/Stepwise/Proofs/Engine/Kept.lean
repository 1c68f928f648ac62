import Stepwise.Proofs.Engine.Ownership
import Stepwise.Proofs.Engine.TakingUp
import Stepwise.Proofs.Store.Holding

/-!
# What a store in memory keeps of an execution

Between a run that breaks off and the run that takes its record up there is nothing but the store.
In memory a save that fails has changed nothing, as long as the limit for calls of the store leaves
it time to answer, and a save that succeeds keeps a copy in place of the record before. A run that
loads such a record either meets a fault and leaves everything as it was, or stands where a run
stands that was started: before its first save, with a lock of its own.
-/

namespace Stepwise

namespace Store

/-- The records are in memory. -/
def IsInMemory (store : Store) : Prop := ∃ kept, store.backing = .memory kept

/-- What is kept in memory under an id. -/
def kept? (store : Store) (id : String) : Option Execution :=
  match store.backing with
  | .memory kept => kept.find? (.str id)
  | .folder _ => none

theorem kept?_of_backing {store other : Store} (same : store.backing = other.backing)
    (id : String) : store.kept? id = other.kept? id := by
  rw [kept?, kept?, same]

end Store

namespace Engine

variable {η : Type} {engine left : Engine η} {execution record : Execution} {id : String}

/-- In memory, a save within a limit that leaves it time fails without a trace in what is kept, or
keeps a copy of the snapshot. -/
theorem persist_memory {kept : Table Execution} {result : Except Fault Unit}
    (timely : engine.options.persistTimeout.allowance = .ok .all)
    (backing : engine.store.backing = .memory kept)
    (came : (persist execution).runOn engine = (result, left)) :
    (∃ f, result = .error f ∧ left.store.backing = .memory kept) ∨
      result = .ok () ∧ left.store.backing =
        .memory (kept.insert execution.copied.id execution.copied.copied) := by
  rw [persist, Effect.runOn_lift_bind] at came
  cases taken : execution.snapshot with
  | error f =>
    rw [taken] at came
    obtain ⟨rfl, rfl⟩ := Prod.mk.inj came
    exact .inl ⟨f, rfl, backing⟩
  | ok snapshot =>
    obtain ⟨-, rfl⟩ := Execution.snapshot_eq_ok.mp taken
    rw [taken] at came
    simp only [callStore_eq, timely, save_eq] at came
    rcases stored : (Store.save execution.copied).runOn engine.store with ⟨answer, store⟩
    obtain ⟨f, rfl, same⟩ | ⟨rfl, -, same⟩ := Store.save_memory backing stored
    · rw [stored] at came
      obtain ⟨rfl, rfl⟩ := Prod.mk.inj came
      cases wrapped : storeRefusal (α := Unit) "save" engine.options.persistTimeout f with
      | error g => exact .inl ⟨g, rfl, same⟩
      | ok _ => exact absurd wrapped storeRefusal_ne_ok
    · rw [stored] at came
      obtain ⟨rfl, rfl⟩ := Prod.mk.inj came
      exact .inr ⟨rfl, same⟩

/-- A save that fails leaves what is kept. -/
theorem kept?_of_unsaved {f : Fault}
    (timely : engine.options.persistTimeout.allowance = .ok .all)
    (inMemory : engine.store.IsInMemory)
    (failed : (persist execution).runOn engine = (.error f, left)) (id : String) :
    left.store.kept? id = engine.store.kept? id := by
  obtain ⟨kept, backing⟩ := inMemory
  obtain ⟨_, -, same⟩ | ⟨succeeded, -⟩ := persist_memory timely backing failed
  · exact Store.kept?_of_backing (same.trans backing.symm) id
  · cases succeeded

/-- After a save the copy of the snapshot is kept. -/
theorem kept?_of_saves (timely : engine.options.persistTimeout.allowance = .ok .all)
    (inMemory : engine.store.IsInMemory) (saved : engine.Saves execution left)
    (named : execution.id = .str id) :
    left.store.kept? id = some execution.copied.copied := by
  obtain ⟨kept, backing⟩ := inMemory
  obtain ⟨_, failed, -⟩ | ⟨-, changed⟩ := persist_memory timely backing saved
  · cases failed
  · have key : execution.copied.id = .str id := by simp [Execution.copied, named, Value.copied]
    rw [Store.kept?, changed, key]
    exact Table.find?_insert_self (Value.same_str_self id) _ kept

/-! ## Loading -/

end Engine

namespace Turn

variable {η : Type} {scenario : Scenario η} {turn : Turn η} {id : String} {record : Execution}

open Engine

/-- Where a run stands that has loaded a record. -/
def taken (turn : Turn η) (workflow : Workflow) (id : String) (record : Execution) :
    Run η × Engine η :=
  (.opening (workOn (.str id) turn.found.ownership.made workflow record),
    { turn.found with
      store := turn.found.store.counting .load
      ownership := turn.found.ownership.locking (.str id) })

end Turn

end Stepwise
