import Stepwise.Definition.Basic

/-!
# Documents of definitions

The document of a workflow says what a definition holds in the form in which definitions are
given. Fields that say nothing are left out: an empty description, an output or trigger field
that is not given, and a step's policy on errors unless it is to continue.
-/

namespace Stepwise

/-- An entry of a document, present on a condition. -/
def entryIf (present : Bool) (key : String) (content : Value) : List (Value × Value) :=
  if present then [(.str key, content)] else []

namespace Step

/-- The document has a copy of the input. -/
def document (step : Step) : Except Fault Value := do
  let input ← step.input.copy
  return .map ([(.str "id", step.id), (.str "agent", step.agent), (.str "action", step.action),
      (.str "input", input)] ++
    entryIf step.output.truthy "output" step.output ++
    entryIf (!step.condition.isNull) "condition" step.condition ++
    entryIf step.continueOnError.truthy "continueOnError" (.bool true) ++
    entryIf (!step.timeout.isNull) "timeout" step.timeout)

/-- Whether a step is the same as one read back from its document. All but the input is given on,
and the input is copied; an endless copy cannot be compared. -/
def sameAs (step other : Step) : Except Fault Bool :=
  if !(step.id.same other.id && step.agent.same other.agent && step.action.same other.action) then
    .ok false
  else if step.input.isEndless then .error .tooDeep
  else
    .ok (step.input.same other.input && step.output.same other.output &&
      step.condition.same other.condition && step.continueOnError.same other.continueOnError &&
      step.timeout.same other.timeout)

/-- Whether steps are the same one by one, up to the first that is not. -/
def allSame : List Step → List Step → Except Fault Bool
  | [], [] => .ok true
  | step :: rest, other :: others => do
    if ← step.sameAs other then allSame rest others else return false
  | _, _ => .ok false

end Step

namespace Trigger

def document (trigger : Trigger) : Value :=
  .map ((.str "type", trigger.kind) :: entryIf trigger.event.truthy "event" trigger.event ++
    entryIf trigger.cron.truthy "cron" trigger.cron)

def sameAs (trigger other : Trigger) : Bool :=
  trigger.kind.same other.kind && trigger.event.same other.event && trigger.cron.same other.cron

end Trigger

namespace Workflow

def document (workflow : Workflow) : Except Fault Value := do
  let steps ← workflow.steps.mapM Step.document
  return .map ([(.str "id", workflow.id), (.str "name", workflow.name),
      (.str "steps", .list steps)] ++
    entryIf workflow.description.truthy "description" workflow.description ++
    match workflow.trigger with
    | none => []
    | some trigger => [(.str "trigger", trigger.document)])

/-- Whether a workflow is the same as one read back from its document. -/
def sameAs (workflow other : Workflow) : Except Fault Bool := do
  if !(workflow.id.same other.id && workflow.name.same other.name) then return false
  if !(← Step.allSame workflow.steps other.steps) then return false
  let sameTrigger :=
    match workflow.trigger, other.trigger with
    | none, none => true
    | some trigger, some trigger' => trigger.sameAs trigger'
    | _, _ => false
  return workflow.description.same other.description && sameTrigger

/-- Whether the document gives the definition back. -/
def survivesDocument (workflow : Workflow) : Except Fault Bool := do
  let document ← workflow.document
  let readBack ← ofDocument document
  readBack.sameAs workflow

end Workflow

end Stepwise
