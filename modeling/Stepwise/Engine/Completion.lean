import Stepwise.Engine.Run

/-!
# Complete runs

Given what its handlers do, a run can be moved on until it is over. How many moves that takes is
known from where the run stands: at most three for every step that is left, and a few more. Only
a run that waits for a lock which nobody lets go is not over then.
-/

namespace Stepwise

/-- What handlers do: the outcome of a call on an input. The engine may change on the way, since
handlers may turn to it. -/
abbrev Behavior (η : Type) := η → Value → Engine η → Outcome × Engine η

/-- How many moves take a run to its end, unless it has to wait. The record of a run that is still
to be loaded says how many there are. -/
def Run.movesLeft {η : Type} : Run η → Nat
  | .loading _ => 0
  | .waiting work => 3 * work.remaining.length + 3
  | .opening work => 3 * work.remaining.length + 2
  | .dispatching work _ _ => 3 * work.remaining.length + 1
  | .calling work _ _ _ => 3 * work.remaining.length
  | .recording work _ _ => 3 * work.remaining.length + 2
  | .closing _ => 1
  | .finished _ => 0

namespace Engine

variable {η : Type}

/-- Moves a run on; a handler that was called answers at once. -/
def move (behave : Behavior η) (run : Run η) (engine : Engine η) : Run η × Engine η :=
  match run with
  | .calling _ _ handler input =>
    let (outcome, engine) := behave handler input engine
    engine.deliver run outcome
  | _ => engine.proceed run

/-- Moves a run on a number of times. -/
def moves (behave : Behavior η) : Nat → Run η → Engine η → Run η × Engine η
  | 0, run, engine => (run, engine)
  | count + 1, run, engine =>
    let (run, engine) := move behave run engine
    moves behave count run engine

/-- Moves a run on to its end. -/
def complete (behave : Behavior η) (run : Run η) (engine : Engine η) : Run η × Engine η :=
  let (run, engine) :=
    match run with
    | .loading _ => engine.proceed run
    | _ => (run, engine)
  moves behave run.movesLeft run engine

/-- Executes a workflow. -/
def execute (behave : Behavior η) (workflowId input : Value) (engine : Engine η) :
    Run η × Engine η :=
  let (run, engine) := engine.start (startExecution workflowId input)
  complete behave run engine

/-- Takes up an execution that a run has left running. -/
def resume (behave : Behavior η) (id : Value) (engine : Engine η) : Run η × Engine η :=
  let (run, engine) := engine.start (startResumption id)
  complete behave run engine

end Engine

end Stepwise
