import Stepwise.Engine.Completion
import Stepwise.Json.Writer
import Stepwise.Registry.Loading
import Stepwise.Service
import Stepwise.Shipped.Definitions

/-!
# A demonstration

The shipped workflow for failed builds is run with handlers that give plausible answers instead
of calling anything. The decision whether to act at once is given beforehand.
-/

namespace Stepwise

namespace Demonstration

/-- The handlers of the demonstration. -/
inductive StandIn where
  | analyze
  | decide (act : Bool)
  | retry
  | notify
  deriving DecidableEq, Repr

def fields (entries : List (String × Value)) : Value :=
  .map (entries.map fun (name, v) => (.str name, v))

/-- What a handler answers. -/
def StandIn.answer (stand : StandIn) (input : Value) : Except Fault Value :=
  match stand with
  | analyze => do
    let build ← input.subscript (.str "build")
    let definition ← build.subscript (.str "definition")
    let name ← definition.text
    return fields [("summary", .str s!"compile error in {name}"), ("severity", .str "high")]
  | decide act =>
    .ok (fields [("decision", .str (if act then "auto_execute" else "manual_review"))])
  | retry => .ok (fields [("action", .str "retry_build"), ("queued", .bool true)])
  | notify => do
    let recipient ← input.subscript (.str "recipient")
    return fields [("status", .str "sent"), ("recipient", recipient)]

def behavior : Behavior StandIn := fun stand input engine =>
  match stand.answer input with
  | .ok v => (.returned v, engine)
  | .error f => (.raised f, engine)

/-- The handlers by agent and action. -/
def handlers (act : Bool) : List (String × String × StandIn) := [
  ("monitor", "monitorBuildFailure", .analyze),
  ("execute", "decide", .decide act),
  ("execute", "executeAction", .retry),
  ("execute", "sendNotification", .notify)]

def shippedDirectory : Path := ⟨"/", ["shipped"]⟩

/-- What the build is about. -/
def build : Value :=
  fields [("build", fields [("buildNumber", .str "20240101.3"), ("definition", .str "backend-ci")])]

/-- The engine of a service with nothing set, with the handlers and the shipped definitions. -/
def engine (act : Bool) (now : Moment) : Except Fault (Engine StandIn) := do
  let files := Shipped.install shippedDirectory .empty
  let service ← Service.ofSettings .standard (fun _ => false) files now
  let prepare : Effect (Engine StandIn) Unit := do
    (handlers act).forM fun (agent, action, stand) =>
      Engine.onCapabilities (Capabilities.register (.str agent) (.str action) (some stand))
    let _ ← Engine.onWorkflows (Workflows.loadDirectory files shippedDirectory)
    return
  match prepare.runOn service.engine with
  | (.ok (), engine) => return engine
  | (.error f, _) => throw f

/-- Runs the workflow for failed builds. -/
def run (act : Bool) (now : Moment) : Except Fault Execution := do
  let engine ← engine act now
  match (engine.execute behavior (.str "build-failure-resolution") build).1.result? with
  | some result => result
  | none => throw (.stateOf "the run waits")

/-- A name filled up to a column. -/
def column (width : Nat) (name : String) : String :=
  name ++ String.ofList (List.replicate (width - name.length) ' ')

/-- What is shown of a run: the steps with their status, the status and the outputs. -/
def transcript (execution : Execution) : Except Fault String := do
  let rule := String.ofList (List.replicate 80 '=')
  let steps ← execution.results.mapM fun result => do
    let name ← result.stepId.text
    return s!"  {column 16 name} {result.status.name}\n"
  let outputs ← Json.document execution.outputs
  return s!"\n{rule}\nBUILD FAILURE WORKFLOW DEMO\n{rule}\n\n" ++ String.join steps ++
    s!"\nStatus: {execution.status.name}\n\n" ++ String.ofList outputs ++ "\n"

end Demonstration

end Stepwise
