import Stepwise.Fault.Text
import Stepwise.Time.Moment
import Stepwise.Value.Access

/-!
# Executions

An execution is one run of a workflow on an input, with the results of its steps so far and the
outputs bound by them. Its status only moves forward: from pending to running, and from there to
one of the terminal ones, after which nothing is recorded any more.
-/

namespace Stepwise

inductive Status where
  | pending
  | running
  | succeeded
  | failed
  | partialSuccess
  | canceled
  deriving DecidableEq, Repr, Inhabited

inductive StepStatus where
  | succeeded
  | failed
  | skipped
  deriving DecidableEq, Repr, Inhabited

namespace Status

def name : Status → String
  | pending => "pending"
  | running => "running"
  | succeeded => "succeeded"
  | failed => "failed"
  | partialSuccess => "partial"
  | canceled => "canceled"

def all : List Status := [pending, running, succeeded, failed, partialSuccess, canceled]

def isTerminal : Status → Bool
  | pending => false
  | running => false
  | _ => true

/-- Which status may follow which. -/
def mayBecome : Status → Status → Bool
  | pending, next => next = running
  | running, next => next.isTerminal
  | _, _ => false

end Status

namespace StepStatus

def name : StepStatus → String
  | succeeded => "succeeded"
  | failed => "failed"
  | skipped => "skipped"

def all : List StepStatus := [succeeded, failed, skipped]

end StepStatus

/-- What went wrong in a step: the kind of a fault and its text. -/
structure StepError where
  kind : Value
  message : Value
  deriving Inhabited

/-- The result of one step. Only a successful step has an output; a failed one has an error, and
so has one that was skipped because its condition could not be decided. -/
structure StepResult where
  stepId : Value
  status : StepStatus
  output : Value
  error : Option StepError
  startedAt : Option Moment
  finishedAt : Option Moment
  deriving Inhabited

structure Execution where
  id : Value
  workflow : Value
  status : Status
  input : Value
  outputs : Value
  results : List StepResult
  startedAt : Option Moment
  finishedAt : Option Moment
  error : Value
  deriving Inhabited

/-- The error that records a fault. -/
def StepError.ofFault (f : Fault) : Except Fault StepError := do
  let message ← f.text
  return ⟨.str f.kind, .str message⟩

namespace StepResult

def success (stepId output : Value) (started now : Moment) : StepResult :=
  ⟨stepId, .succeeded, output, none, some started, some now⟩

def failure (stepId : Value) (f : Fault) (started now : Moment) : Except Fault StepResult := do
  let error ← StepError.ofFault f
  return ⟨stepId, .failed, .null, some error, some started, some now⟩

def skip (stepId : Value) (started now : Moment) : StepResult :=
  ⟨stepId, .skipped, .null, none, some started, some now⟩

/-- A step skipped because of a fault. -/
def skipFor (stepId : Value) (f : Fault) (started now : Moment) : Except Fault StepResult := do
  let error ← StepError.ofFault f
  return ⟨stepId, .skipped, .null, some error, some started, some now⟩

/-- What keeps a result from being copied. -/
def obstacle? (result : StepResult) : Option Fault :=
  result.stepId.obstacle? <|> result.output.obstacle? <|>
    result.error.bind fun error => error.kind.obstacle? <|> error.message.obstacle?

/-- The deep copy of a result that nothing keeps from being copied. -/
def copied (result : StepResult) : StepResult :=
  { result with
    stepId := result.stepId.copied
    output := result.output.copied
    error := result.error.map fun error => ⟨error.kind.copied, error.message.copied⟩ }

end StepResult

namespace Execution

/-- A new execution, on a copy of the input. Without an input it runs on an empty map. -/
def create (id workflow input : Value) (now : Moment) : Except Fault Execution := do
  let input ← if input.isNull then pure (.map []) else input.copy
  return {
    id, workflow, input
    status := .pending
    outputs := .map []
    results := []
    startedAt := some now
    finishedAt := none
    error := .null }

def isTerminal (execution : Execution) : Bool := execution.status.isTerminal

/-- Moves on to a status that may follow. A terminal status is where the execution finishes. -/
def transition (execution : Execution) (next : Status) (now : Moment) : Except Fault Execution :=
  if execution.status.mayBecome next then
    .ok { execution with
      status := next
      finishedAt := if next.isTerminal then some now else execution.finishedAt }
  else do
    let id ← execution.id.text
    throw (.stateOf
      s!"Execution {id}: illegal transition {execution.status.name} -> {next.name}")

/-- Records the result of a step, unless the execution has finished. -/
def addResult (execution : Execution) (result : StepResult) : Except Fault Execution :=
  if execution.isTerminal then do
    let id ← execution.id.text
    let step ← result.stepId.text
    throw (.stateOf
      s!"Execution {id} is {execution.status.name}; cannot record step '{step}'")
  else .ok { execution with results := execution.results ++ [result] }

/-- Binds an output to a name. The last one bound to a name counts. -/
def bindOutput (execution : Execution) (name output : Value) : Except Fault Execution := do
  let outputs ← execution.outputs.assign name output
  return { execution with outputs }

/-- What keeps an execution from being copied. -/
def obstacle? (execution : Execution) : Option Fault :=
  execution.id.obstacle? <|> execution.workflow.obstacle? <|> execution.input.obstacle? <|>
    execution.outputs.obstacle? <|> execution.results.findSome? StepResult.obstacle? <|>
    execution.error.obstacle?

/-- The deep copy of an execution that nothing keeps from being copied. -/
def copied (execution : Execution) : Execution :=
  { execution with
    id := execution.id.copied
    workflow := execution.workflow.copied
    input := execution.input.copied
    outputs := execution.outputs.copied
    results := execution.results.map StepResult.copied
    error := execution.error.copied }

/-- A deep copy, which later changes leave as it is. -/
def snapshot (execution : Execution) : Except Fault Execution :=
  Fault.barring execution.obstacle? execution.copied

def hasFailures (execution : Execution) : Bool :=
  execution.results.any fun result => result.status = .failed

/-- A short description for people. -/
def summary (execution : Execution) : Except Fault String := do
  let id ← execution.id.text
  let workflow ← execution.workflow.text
  let status := execution.status.name
  return s!"Execution(id={id}, workflow_id={workflow}, status={status}, " ++
    s!"steps={execution.results.length})"

end Execution

end Stepwise
