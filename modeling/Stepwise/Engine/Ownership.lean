import Stepwise.Effect
import Stepwise.Value.Access

/-!
# Ownership of executions

An execution has one owner at a time. Whoever begins a run claims the id of its execution and
releases it when the run is over, however it ends. While an id is claimed its run may be asked to
stop. The record itself is written under a lock, which belongs to the id in the record; claimed
id and recorded id are the same unless a store gives a record away under another id.
-/

namespace Stepwise

/-- `active` are the claimed ids, `cancelRequested` those whose runs are asked to stop, and `locks`
the numbers of the locks of records. `held` are the locks taken, and `made` counts all locks. -/
structure Ownership where
  active : List Value
  cancelRequested : List Value
  locks : Table Nat
  held : List Nat
  made : Nat
  deriving Inhabited

namespace Ownership

def none : Ownership := ⟨[], [], [], [], 0⟩

def isActive (ownership : Ownership) (id : Value) : Bool := id.isAmong ownership.active

def isCancelRequested (ownership : Ownership) (id : Value) : Bool :=
  id.isAmong ownership.cancelRequested

/-- Claims an id that nobody owns. -/
def claim (id : Value) : Effect Ownership Unit := do
  lift id.hashable
  if (← get).isActive id then
    let id ← lift id.text
    throw (.stateOf s!"Execution {id} is already running in this process")
  else modify fun ownership => { ownership with active := ownership.active ++ [id] }

/-- Gives an id up, with the request to stop its run and with its lock. -/
def release (id : Value) (ownership : Ownership) : Ownership :=
  { ownership with
    active := ownership.active.filter fun other => !other.same id
    cancelRequested := ownership.cancelRequested.filter fun other => !other.same id
    locks := ownership.locks.erase id }

/-- Asks the run of an id to stop; false when nobody owns the id. -/
def requestCancel (id : Value) : Effect Ownership Bool := do
  lift id.hashable
  if (← get).isActive id then
    modify fun ownership =>
      if ownership.isCancelRequested id then ownership
      else { ownership with cancelRequested := ownership.cancelRequested ++ [id] }
    -- The request is announced by its id.
    let _ ← lift id.text
    return true
  else return false

/-- The lock of a record, which is made if it has none. -/
def lockOf (id : Value) : Effect Ownership Nat := do
  lift id.hashable
  let ownership ← get
  match ownership.locks.find? id with
  | some lock => return lock
  | .none =>
    set { ownership with
      locks := ownership.locks.insert id ownership.made
      made := ownership.made + 1 }
    return ownership.made

def isHeld (ownership : Ownership) (lock : Nat) : Bool := ownership.held.contains lock

def hold (lock : Nat) (ownership : Ownership) : Ownership :=
  { ownership with held := lock :: ownership.held }

def letGo (lock : Nat) (ownership : Ownership) : Ownership :=
  { ownership with held := ownership.held.filter (· ≠ lock) }

end Ownership

end Stepwise
