import Stepwise.Effect
import Stepwise.Fault.Text
import Stepwise.Value.Access

/-!
# Registered capabilities

What agents can do: handlers by agent and action, both in the order in which they first came. An
agent whose last action is taken back is forgotten.
-/

namespace Stepwise

abbrev Capabilities (η : Type) := Table (Table η)

namespace Capabilities

variable {η : Type}

/-- Gives an agent a handler for an action. Without a handler that can be called nothing is
registered; an agent stays registered even if its action turns out to be no key. -/
def register (agent action : Value) (handler : Option η) : Effect (Capabilities η) Unit := do
  match handler with
  | none =>
    let agent ← lift agent.text
    let action ← lift action.text
    throw (.typeError s!"Handler for {agent}.{action} is not callable")
  | some handler =>
    lift agent.hashable
    let actions := ((← get).find? agent).getD []
    modify fun capabilities => Table.insert agent actions capabilities
    lift action.hashable
    modify fun capabilities => Table.insert agent (Table.insert action handler actions) capabilities
    -- The registration is announced by agent and action.
    let _ ← lift agent.text
    let _ ← lift action.text
    return

/-- Gives an agent several handlers, one after the other. -/
def registerAll (agent : Value) : List (Value × Option η) → Effect (Capabilities η) Unit
  | [] => return
  | (action, handler) :: rest => do
    register agent action handler
    registerAll agent rest

/-- A table without a key. Nothing is asked of the key when the table is empty. -/
def without {α : Type} (key : Value) (table : Table α) : Except Fault (Table α) :=
  if table.isEmpty then .ok table
  else do
    key.hashable
    return Table.erase key table

/-- Takes back one action of an agent or, for null, the agent. -/
def unregister (agent action : Value) : Effect (Capabilities η) Unit := do
  let capabilities ← get
  if action.isNull then set (← lift (without agent capabilities))
  else
    lift agent.hashable
    match capabilities.find? agent with
    | none => return
    | some actions =>
      let left ← lift (without action actions)
      set (if left.isEmpty then Table.erase agent capabilities
        else Table.insert agent left capabilities)

/-- The handler of an agent for an action. -/
def handler (capabilities : Capabilities η) (agent action : Value) : Except Fault η := do
  agent.hashable
  match capabilities.find? agent with
  | none => refuse (.agentNotFound agent)
  | some actions =>
    action.hashable
    match Table.find? action actions with
    | some handler => return handler
    | none => refuse (.actionNotFound agent action)

def has (capabilities : Capabilities η) (agent action : Value) : Except Fault Bool := do
  agent.hashable
  action.hashable
  return ((capabilities.find? agent).getD []).contains action

def agents (capabilities : Capabilities η) : List Value := capabilities.keys

/-- The actions of an agent. -/
def actions (capabilities : Capabilities η) (agent : Value) : Except Fault (List Value) := do
  agent.hashable
  match capabilities.find? agent with
  | none => refuse (.agentNotFound agent)
  | some actions => return actions.keys

end Capabilities

/-- A fault on its way out of a handler. The sign that an iteration is over cannot leave it. -/
def Fault.leavingHandler (f : Fault) : Fault :=
  if f.kind = "StopIteration" then .machinery "RuntimeError" "coroutine raised StopIteration" else f

/-- The fault of a call whose handler raised one: that of a failed action is kept, and any other
is the reason of one. -/
def Fault.ofHandler (agent action : Value) (f : Fault) : Fault :=
  match f with
  | .actionFailed .. => f
  | _ =>
    let left := f.leavingHandler
    match left.text with
    | .ok reason =>
      (Fault.actionFailed agent action reason (some left.kind) (some left.kind)).raised
    | .error met => met

end Stepwise
