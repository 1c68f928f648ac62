import Stepwise.Definition.Reading
import Stepwise.Definition.Validation
import Stepwise.Effect

/-!
# Registered workflows

Workflows that can be run, by id, in the order in which their ids first came. Only definitions
without problems are taken in. Registering an id again replaces its workflow in its place.
-/

namespace Stepwise

/-- The workflows by id, and how many texts were read for definitions. -/
structure Workflows where
  table : Table Workflow
  texts : Nat
  deriving Inhabited

/-- A workflow is started by an event of this name. -/
def Workflow.awaits (workflow : Workflow) (event : Value) : Bool :=
  workflow.trigger.any fun trigger => trigger.kind.isStr "event" && trigger.event.equal event

namespace Workflows

def empty : Workflows := ⟨[], 0⟩

/-- The definition in a YAML text, which is numbered. -/
def readYaml (source : List Char) : Effect Workflows Workflow := do
  let workflows ← MonadState.get
  set { workflows with texts := workflows.texts + 1 }
  lift (Workflow.ofYaml workflows.texts source)

/-- Takes a copy of a definition in. -/
def register (workflow : Workflow) : Effect Workflows Unit := do
  let messages ← lift workflow.validate
  if messages ≠ [] then lift (refuse (.invalidDefinition workflow.id messages))
  else
    let stored ← lift workflow.copy
    lift workflow.id.hashable
    modify fun workflows => { workflows with table := workflows.table.insert stored.id stored }
    -- The registration is announced by its id.
    let _ ← lift workflow.id.text
    return

def unregister (id : Value) : Effect Workflows Unit := do
  lift id.hashable
  if (← MonadState.get).table.contains id then
    modify fun workflows => { workflows with table := workflows.table.erase id }
    let _ ← lift id.text
    return
  else lift (refuse (.workflowNotFound id))

/-- The workflow of an id. -/
def get (workflows : Workflows) (id : Value) : Except Fault Workflow := do
  id.hashable
  match workflows.table.find? id with
  | some workflow => return workflow
  | none => refuse (.workflowNotFound id)

def has (workflows : Workflows) (id : Value) : Except Fault Bool := do
  id.hashable
  return workflows.table.contains id

def ids (workflows : Workflows) : List Value := workflows.table.keys

def size (workflows : Workflows) : Nat := workflows.table.length

/-- The workflows that an event starts. -/
def findByEvent (workflows : Workflows) (event : Value) : List Workflow :=
  (workflows.table.map Prod.snd).filter (·.awaits event)

end Workflows

end Stepwise
