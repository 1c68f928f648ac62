import Stepwise.Definition.Basic

/-!
# Validation of definitions

A definition can be run when its workflow has an id, its steps have ids of their own and name an
agent and an action, and its other fields are of the right kind. Every violation is one problem,
in the order of the steps. An id that cannot be told apart from others, because it may change, is
a fault rather than a problem.
-/

namespace Stepwise

/-- A violated rule. Steps are named by id, or by position when they have none. -/
inductive Problem where
  | workflowWithoutId
  | stepWithoutId (label : Value)
  | repeatedStepId (id : Value)
  | noAgent (label : Value)
  | noAction (label : Value)
  | conditionKind (label : Value)
  | continueKind (label : Value)
  | timeoutRange (label : Value)
  | triggerKind (kind : Value)

/-- The kinds of trigger. -/
def Trigger.kinds : List String := ["event", "scheduled", "manual"]

def Problem.text : Problem → Except Fault String
  | workflowWithoutId => .ok "Workflow must have an id"
  | stepWithoutId label => do
    let label ← label.text
    return s!"Step {label} must have an id"
  | repeatedStepId id => do
    let id ← id.text
    return s!"Duplicate step id '{id}'"
  | noAgent label => do
    let label ← label.text
    return s!"Step '{label}' must specify 'agent'"
  | noAction label => do
    let label ← label.text
    return s!"Step '{label}' must specify 'action'"
  | conditionKind label => do
    let label ← label.text
    return s!"Step '{label}' condition must be a string"
  | continueKind label => do
    let label ← label.text
    return s!"Step '{label}' continueOnError must be true or false"
  | timeoutRange label => do
    let label ← label.text
    return s!"Step '{label}' timeout must be a positive number"
  | triggerKind kind => do
    let kind ← kind.text
    return s!"Trigger type '{kind}' must be one of: " ++ ", ".intercalate Trigger.kinds

/-- A number that is not zero or below; not-a-number passes. -/
def Value.isPositive : Value → Bool
  | .bool b => b
  | .int n => 0 < n
  | .float x => !x.isAtMostZero
  | _ => false

namespace Step

/-- How messages name the step at a position. -/
def label (index : Nat) (step : Step) : Value := step.id.orElse (.str s!"#{index}")

/-- The problem with a step's id, given the ids before it. -/
def idProblems (seen : List Value) (index : Nat) (step : Step) : List Problem :=
  if !step.id.truthy then [.stepWithoutId (step.label index)]
  else if step.id.isAmong seen then [.repeatedStepId step.id]
  else []

/-- The problem of a rule that is not kept. -/
def demand (kept : Bool) (problem : Problem) : List Problem := if kept then [] else [problem]

/-- The problems with a step at a position, given the ids before it. -/
def problems (seen : List Value) (index : Nat) (step : Step) : List Problem :=
  let label := step.label index
  step.idProblems seen index ++
    demand step.agent.truthy (.noAgent label) ++
    demand step.action.truthy (.noAction label) ++
    demand (step.condition.isNull || step.condition.isText) (.conditionKind label) ++
    demand step.continueOnError.isBool (.continueKind label) ++
    demand (step.timeout.isNull || step.timeout.isPositive) (.timeoutRange label)

/-- The messages about a step. -/
def messages (seen : List Value) (index : Nat) (step : Step) : Except Fault (List String) := do
  step.id.hashable
  (step.problems seen index).mapM Problem.text

end Step

/-- The problem with a trigger's kind. -/
def Trigger.problems (trigger : Trigger) : List Problem :=
  if Trigger.kinds.any (trigger.kind.isStr ·) then [] else [.triggerKind trigger.kind]

namespace Workflow

/-- The problems of the steps from a position on. -/
def stepProblems : List Value → Nat → List Step → List Problem
  | _, _, [] => []
  | seen, index, step :: rest =>
    step.problems seen index ++ stepProblems (seen ++ [step.id]) (index + 1) rest

/-- The problem of a workflow without id. -/
def idProblems (workflow : Workflow) : List Problem :=
  if workflow.id.truthy then [] else [.workflowWithoutId]

def triggerProblems (workflow : Workflow) : List Problem :=
  match workflow.trigger with
  | none => []
  | some trigger => trigger.problems

/-- All problems of a definition, in order. -/
def problems (workflow : Workflow) : List Problem :=
  workflow.idProblems ++ stepProblems [] 0 workflow.steps ++ workflow.triggerProblems

/-- The messages about the steps from a position on. -/
def stepMessages : List Value → Nat → List Step → Except Fault (List String)
  | _, _, [] => .ok []
  | seen, index, step :: rest => do
    let first ← step.messages seen index
    let others ← stepMessages (seen ++ [step.id]) (index + 1) rest
    return first ++ others

/-- The messages about a definition; none when it can be run. -/
def validate (workflow : Workflow) : Except Fault (List String) := do
  let own ← workflow.idProblems.mapM Problem.text
  let steps ← stepMessages [] 0 workflow.steps
  let trigger ← workflow.triggerProblems.mapM Problem.text
  return own ++ steps ++ trigger

end Workflow

end Stepwise
