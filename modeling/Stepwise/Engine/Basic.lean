import Stepwise.Definition.Basic
import Stepwise.Engine.Limit
import Stepwise.Engine.Ownership
import Stepwise.Registry.Capabilities
import Stepwise.Registry.Workflows
import Stepwise.Store.Basic

/-!
# The engine

The engine runs registered workflows by calling registered handlers, and keeps a record of every
execution in its store. Its state is a value, and so is the trace of what it did to the world:
the records it saved and the handlers it called. A handler is whatever the host takes for one;
calling it is for the host, and its outcome is handed back.
-/

namespace Stepwise

/-- What a host sets of an engine: the seconds for a step without a limit of its own and for a
call of the store, how many executions a listing gives unless told, and how many days a finished
execution is kept. Without seconds there is no limit. -/
structure Options where
  stepTimeout : Value
  persistTimeout : Value
  listLimit : Value
  retentionDays : Value
  deriving Inhabited

def Options.standard : Options where
  stepTimeout := .float (Binary64.ofInt 300)
  persistTimeout := .float (Binary64.ofInt 30)
  listLimit := .int 10
  retentionDays := .int 7

/-- What an engine does to the world: it saves a record, which may fail, or it calls the handler of
an action, for an execution or directly for the host. -/
inductive Event (η : Type) where
  | saved (record : Execution) (kept : Bool)
  | called (execution : Option Value) (agent action : Value) (handler : η) (input : Value)

/-- What a call of a handler comes to: a value, a fault, or nothing within its limit. -/
inductive Outcome where
  | returned (v : Value)
  | raised (f : Fault)
  | expired
  deriving Inhabited

/-- `η` are the handlers, of which some work apart from the engine, so that it waits for them from
the start. `now` is the time, and `issued` counts the ids given to executions. -/
structure Engine (η : Type) where
  workflows : Workflows
  capabilities : Capabilities η
  store : Store
  options : Options
  worksApart : η → Bool
  ownership : Ownership
  now : Moment
  issued : Nat
  trace : List (Event η)

/-- What a host learns about an engine: the number of registered workflows, of executions under
way, and the registered ids. -/
structure Stats where
  registered : Nat
  active : Nat
  ids : List Value

namespace Engine

variable {η α : Type}

/-- An engine with nothing registered. -/
def create (store : Store) (options : Options) (worksApart : η → Bool) (now : Moment) :
    Engine η where
  workflows := .empty
  capabilities := []
  store := store
  options := options
  worksApart := worksApart
  ownership := .none
  now := now
  issued := 0
  trace := []

/-! ## The parts of an engine -/

def onWorkflows (effect : Effect Workflows α) : Effect (Engine η) α :=
  Effect.onPart Engine.workflows (fun workflows engine => { engine with workflows }) effect

def onCapabilities (effect : Effect (Capabilities η) α) : Effect (Engine η) α :=
  Effect.onPart Engine.capabilities (fun capabilities engine => { engine with capabilities }) effect

def onStore (effect : Effect Store α) : Effect (Engine η) α :=
  Effect.onPart Engine.store (fun store engine => { engine with store }) effect

def onOwnership (effect : Effect Ownership α) : Effect (Engine η) α :=
  Effect.onPart Engine.ownership (fun ownership engine => { engine with ownership }) effect

/-- Adds to the trace. -/
def record (event : Event η) (engine : Engine η) : Engine η :=
  { engine with trace := engine.trace ++ [event] }

/-- The next id of an execution. -/
def issueId : Effect (Engine η) Value := do
  modify fun engine => { engine with issued := engine.issued + 1 }
  return .str s!"exec-{(← get).issued}"

/-! ## Calls of the store -/

/-- Saves a record and notes whether it was kept. -/
def save (execution : Execution) : Effect (Engine η) Unit := do
  let result ← (onStore (Store.save execution)).attempt
  modify (record (.saved execution result.isOk))
  lift result

/-- The fault of a call of the store: one of persistence is kept, and any other is the reason of
one. -/
def persistenceFault (name : String) (limit : Value) (f : Fault) : Except Fault Fault :=
  if f.isTimeout then do
    let limit ← limit.text
    return .persistenceOf s!"Execution store call {name} timed out after {limit}s"
  else if f.isPersistence then .ok f
  else do
    let reason ← f.text
    return .persistenceOf s!"Execution store call {name} failed: {reason}"

/-- A call of the store within its limit. The engine waits for the store, so a call that is only
begun is made, but its result comes too late; when the limit leaves nothing the store is not
called. -/
def callStore (name : String) (effect : Effect (Engine η) α) : Effect (Engine η) α := do
  let limit := (← get).options.persistTimeout
  let late : Except Fault α := .error (.machinery "TimeoutError" "")
  let result ←
    match limit.allowance with
    | .ok .all => effect.attempt
    | .ok .start => do
      let _ ← effect.attempt
      pure late
    | .ok .nothing => pure late
    | .error f => pure (.error f)
  match result with
  | .ok a => return a
  | .error f =>
    let wrapped ← lift (persistenceFault name limit f)
    throw wrapped

/-- Saves a snapshot of a record within the limit. -/
def persist (execution : Execution) : Effect (Engine η) Unit := do
  let snapshot ← lift execution.snapshot
  callStore "save" (save snapshot)

/-- The execution of an id. -/
def getExecution (id : Value) : Effect (Engine η) Execution := do
  match ← callStore "load" (onStore (Store.load id)) with
  | some execution => return execution
  | none => lift (refuse (.executionNotFound id))

/-- The executions that a filter accepts, newest first; null stands for the usual limit. -/
def listExecutions (filter : Filter) (limit : Value) : Effect (Engine η) (List Execution) := do
  let engine ← get
  let limit := if limit.isNull then engine.options.listLimit else limit
  callStore "list" (onStore (Store.list filter limit))

/-- Removes the executions that finished more than a number of days ago and counts them; null
stands for the usual number. -/
def cleanup (days : Value) : Effect (Engine η) Nat := do
  let engine ← get
  let days := if days.isNull then engine.options.retentionDays else days
  let cutoff ← lift (Retention.cutoff engine.now days)
  callStore "cleanup" (onStore (Store.cleanup cutoff))

/-! ## Other requests -/

/-- Asks a run to stop before its next step; false when it is not under way here. -/
def cancel (id : Value) : Effect (Engine η) Bool := onOwnership (Ownership.requestCancel id)

def stats (engine : Engine η) : Stats where
  registered := engine.workflows.size
  active := engine.ownership.active.length
  ids := engine.workflows.ids

/-- The handler of an action, which is called from here on; none where it would have to be waited
for and there is no time for that. -/
def call (allowance : Allowance) (execution : Option Value) (agent action input : Value) :
    Effect (Engine η) (Option η) := do
  let engine ← get
  let handler ← lift (engine.capabilities.handler agent action)
  if allowance ≠ .all ∧ engine.worksApart handler then return none
  else
    modify (record (.called execution agent action handler input))
    return some handler

/-- Lets time go by. -/
def advance (microseconds : Int) : Effect (Engine η) Moment := do
  match (← get).now.later? microseconds with
  | some now =>
    modify fun engine => { engine with now }
    return now
  | none => throw (.overflowError "date value out of range")

end Engine

end Stepwise
