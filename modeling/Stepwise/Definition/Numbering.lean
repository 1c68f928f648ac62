import Stepwise.Definition.Basic

/-!
# Definitions from later texts

What a text gives is told from what other texts give by the marks in it alone. A definition that was
read from the first text becomes the one of a later text when its marks are moved on.
-/

namespace Stepwise

/-- Of numbers only not-a-number has a mark. -/
def Binary64.later (count : Nat) : Binary64 → Binary64
  | .nan mark => .nan (mark.later count)
  | x => x

namespace Value

mutual

/-- The value as it is in a text that comes so many texts later. Texts give no host objects. -/
def later (count : Nat) : Value → Value
  | float x => float (x.later count)
  | list items => list (laterItems count items)
  | tuple items => tuple (laterItems count items)
  | map entries => map (laterEntries count entries)
  | set items => set (laterItems count items)
  | endless text once => endless text (later count once)
  | v => v

def laterItems (count : Nat) : List Value → List Value
  | [] => []
  | item :: rest => later count item :: laterItems count rest

def laterEntries (count : Nat) : List (Value × Value) → List (Value × Value)
  | [] => []
  | (key, content) :: rest => (later count key, later count content) :: laterEntries count rest

end

end Value

/-- The step of a text that comes so many texts later. -/
def Step.later (count : Nat) (step : Step) : Step where
  id := step.id.later count
  agent := step.agent.later count
  action := step.action.later count
  input := step.input.later count
  output := step.output.later count
  condition := step.condition.later count
  continueOnError := step.continueOnError.later count
  timeout := step.timeout.later count

def Trigger.later (count : Nat) (trigger : Trigger) : Trigger where
  kind := trigger.kind.later count
  event := trigger.event.later count
  cron := trigger.cron.later count

def Workflow.later (count : Nat) (workflow : Workflow) : Workflow where
  id := workflow.id.later count
  name := workflow.name.later count
  steps := workflow.steps.map (Step.later count)
  description := workflow.description.later count
  trigger := workflow.trigger.map (Trigger.later count)

end Stepwise
