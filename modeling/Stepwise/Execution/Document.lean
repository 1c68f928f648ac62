import Stepwise.Execution.Basic
import Stepwise.Time.Iso

/-!
# Documents of executions

The document of an execution is what stores keep on disk. Reading it back gives the execution
again. Documents may come from elsewhere, so reading says what is missing or of the wrong form.
-/

namespace Stepwise

/-- The member of a closed list of names, with the message for a value that is none of them. -/
def namedMember {α : Type} (members : List α) (name : α → String) (family : String)
    (v : Value) : Except Fault α :=
  match members.find? fun member => v.isStr (name member) with
  | some member => .ok member
  | none => do
    let shown ← v.shown
    throw (.valueError s!"{shown} is not a valid {family}")

def Status.ofValue (v : Value) : Except Fault Status :=
  namedMember Status.all Status.name "ExecutionStatus" v

def StepStatus.ofValue (v : Value) : Except Fault StepStatus :=
  namedMember StepStatus.all StepStatus.name "StepStatus" v

namespace Moment

/-- The time a document gives; none where it gives nothing. -/
def ofDocument? (v : Value) : Except Fault (Option Moment) :=
  if !v.truthy then .ok none
  else
    match v with
    | .str source =>
      match Iso.read source with
      | .ok m => .ok (some m)
      | .error problem => .error (.valueError (problem.text source))
    | _ => .error (.typeError "fromisoformat: argument must be str")

/-- The ISO form of a time, or null. -/
def document : Option Moment → Value
  | none => .null
  | some m => .str m.iso

end Moment

namespace StepError

def document (error : StepError) : Value :=
  .map [(.str "type", error.kind), (.str "message", error.message)]

def ofDocument (v : Value) : Except Fault StepError := do
  let kind ← v.subscript (.str "type")
  let message ← v.getOr "message" (.str "")
  return { kind, message }

end StepError

namespace StepResult

def document (result : StepResult) : Value :=
  .map [(.str "step_id", result.stepId), (.str "status", .str result.status.name),
    (.str "output", result.output),
    (.str "error", Value.ofOption (result.error.map StepError.document)),
    (.str "started_at", Moment.document result.startedAt),
    (.str "finished_at", Moment.document result.finishedAt)]

def ofDocument (v : Value) : Except Fault StepResult := do
  let stepId ← v.subscript (.str "step_id")
  let named ← v.subscript (.str "status")
  let status ← StepStatus.ofValue named
  let output ← v.getOr "output" .null
  let recorded ← v.getOr "error" .null
  let error ←
    if recorded.truthy then do
      let error ← StepError.ofDocument recorded
      pure (some error)
    else pure none
  let started ← v.getOr "started_at" .null
  let startedAt ← Moment.ofDocument? started
  let finished ← v.getOr "finished_at" .null
  let finishedAt ← Moment.ofDocument? finished
  return { stepId, status, output, error, startedAt, finishedAt }

end StepResult

namespace Execution

/-- The document has copies of the input and of the outputs. -/
def document (execution : Execution) : Except Fault Value := do
  let input ← execution.input.copy
  let outputs ← execution.outputs.copy
  return .map [(.str "id", execution.id), (.str "workflow_id", execution.workflow),
    (.str "status", .str execution.status.name), (.str "input", input),
    (.str "outputs", outputs),
    (.str "step_results", .list (execution.results.map StepResult.document)),
    (.str "started_at", Moment.document execution.startedAt),
    (.str "finished_at", Moment.document execution.finishedAt),
    (.str "error", execution.error)]

def ofDocument (v : Value) : Except Fault Execution := do
  let id ← v.subscript (.str "id")
  let workflow ← v.subscript (.str "workflow_id")
  let named ← v.subscript (.str "status")
  let status ← Status.ofValue named
  let input ← v.getOr "input" (.map [])
  let outputs ← v.getOr "outputs" (.map [])
  let listed ← v.getOr "step_results" (.list [])
  let documents ← listed.items
  let results ← documents.mapM StepResult.ofDocument
  let started ← v.getOr "started_at" .null
  let startedAt ← Moment.ofDocument? started
  let finished ← v.getOr "finished_at" .null
  let finishedAt ← Moment.ofDocument? finished
  let error ← v.getOr "error" .null
  return { id, workflow, status, input, outputs, results, startedAt, finishedAt, error }

end Execution

/-! ## Equality -/

/-- Equality of optional times. -/
def Moment.sameTime : Option Moment → Option Moment → Bool
  | none, none => true
  | some m, some m' => (Value.moment m).same (.moment m')
  | _, _ => false

def StepError.sameAs (error other : StepError) : Bool :=
  error.kind.same other.kind && error.message.same other.message

def StepResult.sameAs (result other : StepResult) : Bool :=
  result.stepId.same other.stepId && result.status = other.status &&
    result.output.same other.output &&
    (match result.error, other.error with
      | none, none => true
      | some error, some error' => error.sameAs error'
      | _, _ => false) &&
    Moment.sameTime result.startedAt other.startedAt &&
    Moment.sameTime result.finishedAt other.finishedAt

namespace Execution

def sameAs (execution other : Execution) : Bool :=
  execution.id.same other.id && execution.workflow.same other.workflow &&
    execution.status = other.status && execution.input.same other.input &&
    execution.outputs.same other.outputs &&
    execution.results.length = other.results.length &&
    (execution.results.zip other.results).all (fun (r, r') => r.sameAs r') &&
    Moment.sameTime execution.startedAt other.startedAt &&
    Moment.sameTime execution.finishedAt other.finishedAt &&
    execution.error.same other.error

/-- Whether the document gives the execution back. -/
def survivesDocument (execution : Execution) : Except Fault Bool := do
  let document ← execution.document
  let readBack ← ofDocument document
  return readBack.sameAs execution

end Execution

end Stepwise
