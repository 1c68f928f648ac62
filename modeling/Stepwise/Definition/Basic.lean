import Stepwise.Value.Access
import Stepwise.Fault.Text

/-!
# Workflow definitions

A workflow is a named, ordered list of steps. Definitions come from documents and are taken as
they are: fields keep whatever value the document gives them, and whether a definition can be
run is for validation to say. A document may stand inside another under the key `workflow`, and
three fields of a step have two spellings.
-/

namespace Stepwise

/-- What a step does: the action of an agent it calls, the template of its input, the name its
output is bound to, the condition that guards it, what follows its failure, and its time limit
in seconds. Null stands for an output, condition or limit that is not given. -/
structure Step where
  id : Value
  agent : Value
  action : Value
  input : Value
  output : Value
  condition : Value
  continueOnError : Value
  timeout : Value
  deriving Inhabited

/-- What starts a workflow. This is for information; nothing here starts workflows. -/
structure Trigger where
  kind : Value
  event : Value
  cron : Value
  deriving Inhabited

structure Workflow where
  id : Value
  name : Value
  steps : List Step
  description : Value
  trigger : Option Trigger
  deriving Inhabited

namespace Step

/-- The step of a document. Of two spellings the one of documents goes first; the input is a copy of
the one in the document. -/
def ofDocument (document : Value) : Except Fault Step := do
  let spelled ← document.getOr "continue_on_error" (.bool false)
  let continueOnError ← document.getOr "continueOnError" spelled
  let id ← document.getOr "id" (.str "")
  let spelled ← document.getOr "agent_type" (.str "")
  let agent ← document.getOr "agent" spelled
  let action ← document.getOr "action" (.str "")
  let given ← document.getOr "input" (.map [])
  let input ← given.copy
  let spelled ← document.getOr "output_variable" .null
  let output ← document.getOr "output" spelled
  let condition ← document.getOr "condition" .null
  let timeout ← document.getOr "timeout" .null
  return { id, agent, action, input, output, condition, continueOnError, timeout }

/-- What keeps a step from being copied. -/
def obstacle? (step : Step) : Option Fault :=
  [step.id, step.agent, step.action, step.input, step.output, step.condition,
    step.continueOnError, step.timeout].findSome? Value.obstacle?

/-- The deep copy of a step that nothing keeps from being copied. -/
def copied (step : Step) : Step where
  id := step.id.copied
  agent := step.agent.copied
  action := step.action.copied
  input := step.input.copied
  output := step.output.copied
  condition := step.condition.copied
  continueOnError := step.continueOnError.copied
  timeout := step.timeout.copied

end Step

namespace Trigger

def ofDocument (document : Value) : Except Fault Trigger := do
  let kind ← document.getOr "type" (.str "manual")
  let event ← document.getOr "event" .null
  let cron ← document.getOr "cron" .null
  return { kind, event, cron }

/-- What keeps a trigger from being copied. -/
def obstacle? (trigger : Trigger) : Option Fault :=
  [trigger.kind, trigger.event, trigger.cron].findSome? Value.obstacle?

/-- The deep copy of a trigger that nothing keeps from being copied. -/
def copied (trigger : Trigger) : Trigger where
  kind := trigger.kind.copied
  event := trigger.event.copied
  cron := trigger.cron.copied

end Trigger

namespace Workflow

/-- The document inside a wrapping one, or the document itself. -/
def unwrap (document : Value) : Except Fault Value := do
  if ← document.includes "workflow" then
    let inner ← document.subscript (.str "workflow")
    return if inner.isMap then inner else document
  else return document

/-- The steps of a workflow's document; each has to be a map. -/
def stepsOfDocuments (workflow : Value) : List Value → Except Fault (List Step)
  | [] => .ok []
  | document :: rest => do
    if document.isMap then
      let step ← Step.ofDocument document
      let others ← stepsOfDocuments workflow rest
      return step :: others
    else
      let shown ← document.shown
      refuse (.invalidDefinition workflow ["Step must be a mapping, got " ++ shown])

/-- The workflow of a document. An empty name is replaced by the id, and no steps, in whatever
form, are an empty list. -/
def ofDocument (document : Value) : Except Fault Workflow := do
  let document ← unwrap document
  let listed ← document.getOr "steps" .null
  let given ← document.getOr "id" .null
  let steps ←
    match (listed.orElse (.list [])).opened with
    | .list documents => stepsOfDocuments given documents
    | _ => refuse (.invalidDefinition given ["'steps' must be a list"])
  let started ← document.getOr "trigger" .null
  let id ← document.getOr "id" (.str "")
  let name ← document.getOr "name" .null
  let description ← document.getOr "description" (.str "")
  let trigger ←
    if started.truthy then
      let trigger ← Trigger.ofDocument started
      pure (some trigger)
    else pure none
  return { id, name := name.orElse id, steps, description, trigger }

/-- What keeps a workflow from being copied. -/
def obstacle? (workflow : Workflow) : Option Fault :=
  workflow.id.obstacle? <|> workflow.name.obstacle? <|>
    workflow.steps.findSome? Step.obstacle? <|> workflow.description.obstacle? <|>
    workflow.trigger.bind Trigger.obstacle?

/-- The deep copy of a workflow that nothing keeps from being copied. -/
def copied (workflow : Workflow) : Workflow where
  id := workflow.id.copied
  name := workflow.name.copied
  steps := workflow.steps.map Step.copied
  description := workflow.description.copied
  trigger := workflow.trigger.map Trigger.copied

/-- A deep copy. -/
def copy (workflow : Workflow) : Except Fault Workflow :=
  Fault.barring workflow.obstacle? workflow.copied

/-- The first step with an id. -/
def step? (workflow : Workflow) (id : Value) : Option Step :=
  workflow.steps.find? fun step => step.id.equal id

/-- A short description for people. -/
def summary (workflow : Workflow) : Except Fault String := do
  let id ← workflow.id.text
  let name ← workflow.name.text
  return s!"WorkflowDefinition(id='{id}', name='{name}', steps={workflow.steps.length})"

end Workflow

end Stepwise
