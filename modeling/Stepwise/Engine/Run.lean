import Stepwise.Condition
import Stepwise.Engine.Basic

/-!
# Runs

A run carries one execution through the steps of its workflow. It saves the record before the
first step, after every step and at the end, so that a run that breaks off can be taken up again
from its record; steps with a result are not run again. What goes wrong in a step is recorded on
the step, and whether the run then stops is for the step to say. A fault of the store ends the
run and leaves the record as it was last saved.

A run is a machine that stops wherever the engine turns to the world: before every call of the
store, before a handler is called, and until it answers. Between two such stops nothing else
happens, so runs may be interleaved at them in any way.
-/

namespace Stepwise

/-- An execution under way: the id it was claimed by, the lock of its record, the steps without a
result, and whether the last result stops the run. -/
structure Work where
  claimed : Value
  lock : Nat
  workflow : Workflow
  execution : Execution
  remaining : List Step
  halted : Bool

/-- A step under way, with the time at which it began and its limit in seconds. -/
structure Attempt where
  step : Step
  started : Moment
  limit : Value

/-- Whether the handler of an attempt may not wait for anything. -/
def Attempt.isHurried (attempt : Attempt) : Bool :=
  match attempt.limit.allowance with
  | .ok .start => true
  | _ => false

/-- Where a run stands. It is about to load its record, waits for the lock of its record, is
about to save the record first of all, to call a handler, hears from the handler it has called,
is about to save the record with the last result, or to save it for good; or it is over. -/
inductive Run (η : Type) where
  | loading (claimed : Value)
  | waiting (work : Work)
  | opening (work : Work)
  | dispatching (work : Work) (attempt : Attempt) (input : Value)
  | calling (work : Work) (attempt : Attempt) (handler : η) (input : Value)
  | recording (work : Work) (step : Step) (result : StepResult)
  | closing (work : Work)
  | finished (result : Except Fault Execution)

/-- A failed step that stops the run. -/
def Step.stopsOnFailure (step : Step) : Bool := !step.continueOnError.truthy

/-- Whether the last recorded result stops a run: it is a failure, and its step is gone or stops
on failure. -/
def Workflow.haltedBy (workflow : Workflow) (execution : Execution) : Bool :=
  match execution.results.getLast? with
  | none => false
  | some last =>
    last.status = .failed && (workflow.step? last.stepId).all Step.stopsOnFailure

/-- The status in which an execution ends. -/
def Execution.finalStatus (execution : Execution) (halted canceled : Bool) : Status :=
  if canceled then .canceled
  else if halted then .failed
  else if execution.hasFailures then .partialSuccess
  else .succeeded

namespace Run

variable {η : Type}

def result? : Run η → Option (Except Fault Execution)
  | finished result => some result
  | _ => none

/-- The execution under way, unless it is not known yet or no longer. -/
def work? : Run η → Option Work
  | waiting work => some work
  | opening work => some work
  | dispatching work _ _ => some work
  | calling work _ _ _ => some work
  | recording work _ _ => some work
  | closing work => some work
  | loading _ => none
  | finished _ => none

/-- The id a run has claimed. -/
def claimed? : Run η → Option Value
  | loading claimed => some claimed
  | finished _ => none
  | run => run.work?.map Work.claimed

end Run

namespace Engine

variable {η : Type}

/-! ## Beginning and ending -/

/-- Takes the lock of a record if it is free. -/
def enter (work : Work) : Effect (Engine η) (Run η) := do
  if (← get).ownership.isHeld work.lock then return .waiting work
  else
    modify fun engine => { engine with ownership := engine.ownership.hold work.lock }
    return .opening work

/-- Begins a run of a workflow on an execution under a claimed id. The start is announced. -/
def begin (claimed : Value) (workflow : Workflow) (execution : Execution) :
    Effect (Engine η) (Run η) := do
  let _ ← lift workflow.id.text
  let _ ← lift execution.id.text
  let lock ← onOwnership (Ownership.lockOf execution.id)
  enter {
    claimed, lock, workflow, execution
    remaining := workflow.steps.drop execution.results.length
    halted := false }

/-- Gives up what a claimed id stands for. -/
def release (claimed : Value) (engine : Engine η) : Engine η :=
  { engine with ownership := engine.ownership.release claimed }

/-- Gives up the lock of a record, if it was taken, and the claimed id. -/
def leave (run : Run η) (engine : Engine η) : Engine η :=
  let letGo (work : Work) : Engine η :=
    { engine with ownership := engine.ownership.letGo work.lock }
  match run with
  | .loading claimed => engine.release claimed
  | .waiting work => engine.release work.claimed
  | .opening work => (letGo work).release work.claimed
  | .dispatching work _ _ => (letGo work).release work.claimed
  | .calling work _ _ _ => (letGo work).release work.claimed
  | .recording work _ _ => (letGo work).release work.claimed
  | .closing work => (letGo work).release work.claimed
  | .finished _ => engine

/-- Starts an execution of a workflow. -/
def startExecution (workflowId input : Value) : Effect (Engine η) (Run η) := do
  let workflow ← lift ((← get).workflows.get workflowId)
  let id ← issueId
  let now := (← get).now
  let created ← lift (Execution.create id workflow.id input now)
  let execution ← lift (created.transition .running now)
  onOwnership (Ownership.claim id)
  tryCatch (begin id workflow execution) fun f => do
    modify (release id)
    throw f

/-- Starts to take up an execution that a run has left running. The id is claimed before its
record is read. -/
def startResumption (id : Value) : Effect (Engine η) (Run η) := do
  onOwnership (Ownership.claim id)
  return .loading id

/-- Takes up an execution that was loaded. -/
def takeUp (id : Value) (execution : Execution) : Effect (Engine η) (Run η) := do
  if execution.status ≠ .running then
    let id ← lift id.text
    throw (.stateOf s!"Execution {id} is {execution.status.name}, not running")
  else
    let workflow ← lift ((← get).workflows.get execution.workflow)
    begin id workflow execution

/-! ## Steps -/

/-- The fault of a step whose handler did not answer within its limit. -/
def expiry (attempt : Attempt) : Except Fault Fault := do
  let limit ← attempt.limit.text
  return Fault.raised (.actionFailed attempt.step.agent attempt.step.action
    s!"timed out after {limit}s" none none)

/-- The fault of a step that could not be dispatched: that of a missing agent or action is kept,
and so is that of a failed action; any other is the reason of one. -/
def dispatchFault (step : Step) (f : Fault) : Except Fault Fault :=
  match f with
  | .agentNotFound _ => .ok f
  | .actionNotFound _ _ => .ok f
  | .actionFailed .. => .ok f
  | _ => do
    let reason ← f.text
    return Fault.raised (.actionFailed step.agent step.action reason (some f.kind) none)

/-- Adds the result of a step to the record. -/
def recordResult (work : Work) (step : Step) (result : StepResult) :
    Effect (Engine η) (Run η) := do
  let execution ← lift (work.execution.addResult result)
  return .recording { work with execution, remaining := work.remaining.drop 1 } step result

/-- Records the failure of a step. -/
def fail (work : Work) (attempt : Attempt) (f : Fault) : Effect (Engine η) (Run η) := do
  let result ← lift (StepResult.failure attempt.step.id f attempt.started (← get).now)
  recordResult work attempt.step result

/-- Records that a step is skipped, because its condition does not hold or, with a fault, because
that cannot be decided. -/
def skip (work : Work) (step : Step) (started : Moment) (f : Option Fault) :
    Effect (Engine η) (Run η) := do
  let _ ← lift step.id.text
  let now := (← get).now
  match f with
  | none => recordResult work step (.skip step.id started now)
  | some f =>
    let _ ← lift step.condition.shown
    let result ← lift (StepResult.skipFor step.id f started now)
    recordResult work step result

/-- Begins a step whose condition holds: its input is resolved, and it is announced. -/
def prepare (work : Work) (step : Step) (started : Moment) : Effect (Engine η) (Run η) := do
  let limit := step.timeout.orElse (← get).options.stepTimeout
  let attempt : Attempt := ⟨step, started, limit⟩
  match Template.resolve work.execution.outputs work.execution.input step.input with
  | .error f =>
    let _ ← lift step.id.text
    fail work attempt f
  | .ok input =>
    let _ ← lift step.id.text
    let _ ← lift step.agent.text
    let _ ← lift step.action.text
    return .dispatching work attempt input

/-- Begins a step. -/
def beginStep (work : Work) (step : Step) : Effect (Engine η) (Run η) := do
  let started := (← get).now
  if step.condition.isNull then prepare work step started
  else
    match Condition.evaluate step.condition work.execution.outputs work.execution.input with
    | .ok true => prepare work step started
    | .ok false => skip work step started none
    | .error f => if f.isCondition then skip work step started (some f) else throw f

/-- Ends the run; what is left is to save the record. -/
def close (work : Work) (canceled : Bool) : Effect (Engine η) (Run η) := do
  let status := work.execution.finalStatus work.halted canceled
  let execution ← lift (work.execution.transition status (← get).now)
  return .closing { work with execution }

/-- Goes on after a save: the run ends when it is halted, when no step is left, or when it is
asked to stop; otherwise the next step begins. -/
def next (work : Work) : Effect (Engine η) (Run η) := do
  match work.remaining with
  | [] => close work false
  | step :: _ =>
    if work.halted then close work false
    else if (← get).ownership.isCancelRequested work.execution.id then
      let id ← lift step.id.text
      let error := s!"Canceled before step '{id}'"
      close { work with execution := { work.execution with error := .str error } } true
    else beginStep work step

/-- What the result of a step that was just saved means for the run. -/
def settle (work : Work) (step : Step) (result : StepResult) : Except Fault Work :=
  match result.status, result.error with
  | .failed, some error => do
    let id ← step.id.text
    let message ← error.message.text
    if step.stopsOnFailure then
      let stopped := s!"Step '{id}' failed: {message}"
      return { work with
        halted := true
        execution := { work.execution with error := .str stopped } }
    else return work
  | _, _ => .ok work

/-- Records that the handler of a step did not answer within its limit. -/
def expire (work : Work) (attempt : Attempt) : Effect (Engine η) (Run η) := do
  let f ← lift (expiry attempt)
  fail work attempt f

/-- Dispatches a step: its handler is looked up and called, unless its limit leaves no time. -/
def dispatch (work : Work) (attempt : Attempt) (input : Value) : Effect (Engine η) (Run η) := do
  let step := attempt.step
  match attempt.limit.allowance with
  | .error f =>
    let f ← lift (dispatchFault step f)
    fail work attempt f
  | .ok .nothing => expire work attempt
  | .ok allowance =>
    match ← (call allowance (some work.execution.id) step.agent step.action input).attempt with
    | .ok (some handler) => return .calling work attempt handler input
    | .ok none => expire work attempt
    | .error f =>
      let f ← lift (dispatchFault step f)
      fail work attempt f

/-- Takes the outcome of a handler. A value is the output of the step, and is bound to the name
that the step gives it. -/
def receive (work : Work) (attempt : Attempt) (outcome : Outcome) :
    Effect (Engine η) (Run η) := do
  let step := attempt.step
  match outcome with
  | .expired => expire work attempt
  | .raised f =>
    let f ← lift (dispatchFault step (Fault.ofHandler step.agent step.action f))
    fail work attempt f
  | .returned v =>
    let execution ←
      if step.output.truthy then lift (work.execution.bindOutput step.output v)
      else pure work.execution
    let result := StepResult.success step.id v attempt.started (← get).now
    recordResult { work with execution } step result

/-! ## Moving a run on -/

/-- What a run does next; nothing while it waits for a lock that is held or for its handler. -/
def stage (run : Run η) : Effect (Engine η) (Run η) := do
  match run with
  | .loading claimed =>
    let execution ← getExecution claimed
    takeUp claimed execution
  | .waiting work => enter work
  | .opening work =>
    persist work.execution
    next { work with halted := work.workflow.haltedBy work.execution }
  | .dispatching work attempt input => dispatch work attempt input
  | .calling .. => return run
  | .recording work step result =>
    persist work.execution
    let work ← lift (settle work step result)
    next work
  | .closing work =>
    persist work.execution
    return .finished (.ok work.execution)
  | .finished _ => return run

/-- A run that is over leaves; one that met a fault does too, and comes to the fault. -/
def conclude (before : Run η) (effect : Effect (Engine η) (Run η)) :
    Engine η → Run η × Engine η :=
  fun engine =>
    match effect.runOn engine with
    | (.ok (.finished result), engine) => (.finished result, engine.leave before)
    | (.ok run, engine) => (run, engine)
    | (.error f, engine) => (.finished (.error f), engine.leave before)

/-- Starts a run; one whose start is refused is over. -/
def start (effect : Effect (Engine η) (Run η)) : Engine η → Run η × Engine η :=
  fun engine =>
    match effect.runOn engine with
    | (.ok run, engine) => (run, engine)
    | (.error f, engine) => (.finished (.error f), engine)

/-- Moves a run on to where it next turns to the world. -/
def proceed (run : Run η) : Engine η → Run η × Engine η := conclude run (stage run)

/-- Gives a run the outcome of the handler it has called. -/
def deliver (run : Run η) (outcome : Outcome) : Engine η → Run η × Engine η :=
  match run with
  | .calling work attempt _ _ => conclude run (receive work attempt outcome)
  | _ => fun engine => (run, engine)

end Engine

end Stepwise
