import Stepwise.Proofs.Engine.Matching
import Stepwise.Proofs.Engine.Rehearsal

/-!
# Runs but for ids and times

An anonymous record has no id and no times, and neither has an anonymous run nor an anonymous entry
of a trace. Nothing that a run does depends on them: played on two engines with the same registries
and limits, from two places that are one place but for ids and times, it comes to one place but for
ids and times.
-/

namespace Stepwise

variable {η : Type}

def StepResult.untimed (result : StepResult) : StepResult :=
  { result with startedAt := none, finishedAt := none }

/-- A record without its id and without times. -/
def Execution.anonymous (execution : Execution) : Execution :=
  { execution with
    id := .null
    results := execution.results.map StepResult.untimed
    startedAt := none
    finishedAt := none }

/-- The work without what it was claimed and locked by. -/
def Work.anonymous (work : Work) : Work :=
  { work with claimed := .null, lock := 0, execution := work.execution.anonymous }

/-- An attempt with the start of the calendar for the time at which it began. -/
def Attempt.untimed (attempt : Attempt) : Attempt :=
  { attempt with started := .midnight ⟨1, 1, 1⟩ }

/-- A run without ids and times, but for the id of a record that it has yet to load. -/
def Run.anonymous : Run η → Run η
  | .loading claimed => .loading claimed
  | .waiting work => .waiting work.anonymous
  | .opening work => .opening work.anonymous
  | .dispatching work attempt input => .dispatching work.anonymous attempt.untimed input
  | .calling work attempt handler input => .calling work.anonymous attempt.untimed handler input
  | .recording work step result => .recording work.anonymous step result.untimed
  | .closing work => .closing work.anonymous
  | .finished result => .finished (result.map Execution.anonymous)

/-- An entry of the trace without ids and times. -/
def Event.anonymous : Event η → Event η
  | .saved record kept => .saved record.anonymous kept
  | .called execution agent action handler input =>
    .called (execution.map fun _ => .null) agent action handler input

/-! ## What does not depend on them -/

theorem Value.IsName.obstacle? {v : Value} (name : v.IsName) : v.obstacle? = none := by
  obtain rfl | ⟨text, rfl⟩ := name <;> rfl

namespace Execution

variable {execution : Execution}

theorem anonymous_named (execution : Execution) : execution.anonymous.id.IsName := .inl rfl

theorem obstacle?_anonymous (name : execution.id.IsName) :
    execution.anonymous.obstacle? = execution.obstacle? := by
  have results : (execution.results.map StepResult.untimed).findSome? StepResult.obstacle? =
      execution.results.findSome? StepResult.obstacle? := by
    rw [List.findSome?_map]
    rfl
  unfold Execution.obstacle?
  rw [name.obstacle?, execution.anonymous_named.obstacle?]
  simp only [anonymous, results]

theorem copied_anonymous (execution : Execution) :
    execution.anonymous.copied.anonymous = execution.copied.anonymous := by
  simp [anonymous, copied, Value.copied, StepResult.untimed, StepResult.copied, Function.comp_def]

theorem anonymous_anonymous (execution : Execution) :
    execution.anonymous.anonymous = execution.anonymous := by
  simp [anonymous, StepResult.untimed, Function.comp_def]

theorem finalStatus_anonymous (execution : Execution) (halted canceled : Bool) :
    execution.anonymous.finalStatus halted canceled = execution.finalStatus halted canceled := by
  have failures : execution.anonymous.hasFailures = execution.hasFailures := by
    rw [hasFailures, hasFailures, anonymous, List.any_map]
    rfl
  rw [finalStatus, finalStatus, failures]

end Execution

theorem Workflow.haltedBy_anonymous (workflow : Workflow) (execution : Execution) :
    workflow.haltedBy execution.anonymous = workflow.haltedBy execution := by
  unfold Workflow.haltedBy
  rw [show execution.anonymous.results = execution.results.map StepResult.untimed from rfl,
    List.getLast?_map]
  cases execution.results.getLast? <;> rfl

namespace Work

theorem anonymous_anonymous (work : Work) : work.anonymous.anonymous = work.anonymous := by
  simp [anonymous, Execution.anonymous_anonymous]

theorem opened_anonymous (work : Work) : work.anonymous.opened = work.opened.anonymous := by
  simp [opened, anonymous, Workflow.haltedBy_anonymous]

/-- What was recorded is the same but for times when the result is. -/
theorem recorded_anonymous {result other : StepResult} (work : Work) (outputs : Value)
    (same : result.untimed = other.untimed) :
    (work.recorded outputs result).anonymous =
      (work.anonymous.recorded outputs other).anonymous := by
  have results : (work.execution.results ++ [result]).map StepResult.untimed =
      (work.anonymous.execution.results ++ [other]).map StepResult.untimed := by
    rw [List.map_append, List.map_append, List.map_singleton, List.map_singleton, same]
    exact congrArg (· ++ _)
      (congrArg Execution.results work.execution.anonymous_anonymous).symm
  simp only [anonymous, Execution.anonymous, recorded]
  rw [results]
  rfl

theorem closed_anonymous (work : Work) (status : Status) (error : Value) (now later : Moment) :
    (work.closed status error now).anonymous =
      (work.anonymous.closed status error later).anonymous := by
  have results := congrArg Execution.results work.execution.anonymous_anonymous
  simp only [anonymous, Execution.anonymous, closed] at results ⊢
  rw [results]

end Work

theorem Run.orFault_anonymous {result other : Except Fault (Run η)}
    (same : result.map Run.anonymous = other.map Run.anonymous) :
    (Run.orFault result).anonymous = (Run.orFault other).anonymous := by
  have told (result : Except Fault (Run η)) :
      (Run.orFault result).anonymous = .orFault (result.map Run.anonymous) := by
    cases result <;> rfl
  rw [told, told, same]

theorem Run.recording_anonymous {result other : StepResult} (work : Work) (outputs : Value)
    (step : Step) (same : result.untimed = other.untimed) :
    (Run.recording (η := η) (work.recorded outputs result) step result).anonymous =
      (Run.recording (work.anonymous.recorded outputs other) step other).anonymous := by
  rw [Run.anonymous, Run.anonymous, Work.recorded_anonymous work outputs same, same]

namespace Engine

variable {engine other : Engine η} {execution : Execution}

/-- What saving comes to is not a matter of ids and times. -/
theorem keeping_anonymous (agrees : engine.Agrees other) (name : execution.id.IsName) :
    engine.keeping execution = other.keeping execution.anonymous := by
  rw [keeping, keeping, Execution.obstacle?_anonymous name, agrees.options]

theorem noted_anonymous (agrees : engine.Agrees other) (name : execution.id.IsName) :
    (engine.noted execution).map Event.anonymous =
      (other.noted execution.anonymous).map Event.anonymous := by
  have copied := execution.copied_anonymous.symm
  rw [noted, noted, Execution.obstacle?_anonymous name, agrees.options]
  split <;> simp [Event.anonymous, copied]

theorem begun_anonymous (agrees : engine.Agrees other) (work : Work) (step : Step)
    (outset : Outset) :
    (engine.begun work step outset).anonymous =
      (other.begun work.anonymous step outset).anonymous := by
  cases outset with
  | settled status error => exact Run.recording_anonymous work _ step rfl
  | sent input =>
    simp only [begun, Run.anonymous, work.anonymous_anonymous, attemptAt, Attempt.untimed,
      agrees.options]

/-- Where a run goes on to after a save is not a matter of ids and times. -/
theorem onward_anonymous (agrees : engine.Agrees other) (work : Work) :
    (engine.onward work).map Run.anonymous =
      (other.onward work.anonymous).map Run.anonymous := by
  have closing : (Run.closing (η := η) (work.closed
      (work.execution.finalStatus work.halted false) work.execution.error engine.now)).anonymous =
        (Run.closing (work.anonymous.closed (work.anonymous.execution.finalStatus work.halted false)
          work.anonymous.execution.error other.now)).anonymous := by
    rw [Run.anonymous, work.closed_anonymous _ _ engine.now other.now]
    rw [show work.anonymous.execution = work.execution.anonymous from rfl,
      Execution.finalStatus_anonymous]
    rfl
  unfold onward
  rw [show work.anonymous.remaining = work.remaining from rfl,
    show work.anonymous.halted = work.halted from rfl]
  cases work.remaining with
  | nil => exact congrArg Except.ok closing
  | cons step later =>
    dsimp only
    split
    · exact congrArg Except.ok closing
    · rw [show work.anonymous.execution.outputs = work.execution.outputs from rfl,
        show work.anonymous.execution.input = work.execution.input from rfl]
      cases step.outset work.execution.outputs work.execution.input with
      | error f => rfl
      | ok outset => exact congrArg Except.ok (begun_anonymous agrees work step outset)

theorem settle_anonymous (work : Work) (step : Step) (result : StepResult) :
    settle work.anonymous step result.untimed = (settle work step result).map Work.anonymous := by
  unfold settle
  rw [show result.untimed.status = result.status from rfl,
    show result.untimed.error = result.error from rfl]
  split
  · cases step.id.text with
    | error f => rfl
    | ok id =>
      rename_i error _ _
      simp only [bind, Except.bind]
      cases error.message.text with
      | error f => rfl
      | ok message =>
        dsimp only
        split <;> rfl
  · rfl

theorem reach_anonymous (agrees : engine.Agrees other) (attempt : Attempt) :
    engine.reach attempt = other.reach attempt.untimed := by
  rw [reach, reach, agrees.capabilities, agrees.worksApart]
  rfl

theorem failed_anonymous (work : Work) (attempt : Attempt) (fault : Except Fault Fault) :
    (engine.failed work attempt fault).map Run.anonymous =
      (other.failed work.anonymous attempt.untimed fault).map Run.anonymous := by
  rw [failed, failed, Attempt.failure, Attempt.failure]
  cases fault with
  | error f => rfl
  | ok f =>
    simp only [bind, Except.bind, StepResult.failure]
    rw [show attempt.untimed.step = attempt.step from rfl]
    cases StepError.ofFault f with
    | error met => rfl
    | ok error => exact congrArg Except.ok (Run.recording_anonymous work _ attempt.step rfl)

theorem answered_anonymous (work : Work) (attempt : Attempt) (v : Value) :
    (engine.answered work attempt v).map Run.anonymous =
      (other.answered work.anonymous attempt.untimed v).map Run.anonymous := by
  rw [answered, answered]
  rw [show attempt.untimed.step = attempt.step from rfl,
    show work.anonymous.execution.outputs = work.execution.outputs from rfl]
  cases attempt.step.bound work.execution.outputs v with
  | error f => rfl
  | ok outputs => exact congrArg Except.ok (Run.recording_anonymous work _ attempt.step rfl)

/-- What a turn comes to is not a matter of ids and times, but for the times it notes. -/
theorem play_anonymous (agrees : engine.Agrees other) (heard : Outcome) {run : Run η}
    (named : ∀ work, run.work? = some work → work.execution.id.IsName) :
    (engine.play heard run).1.anonymous = (other.play heard run.anonymous).1.anonymous ∧
      (engine.play heard run).2.map Event.anonymous =
        (other.play heard run.anonymous).2.map Event.anonymous := by
  have saving {work : Work} {next again : PUnit → Except Fault (Run η)}
      (stands : run.work? = some work)
      (same : ∀ done, (next done).map Run.anonymous = (again done).map Run.anonymous) :
      (Run.orFault (engine.keeping work.execution >>= next)).anonymous =
        (Run.orFault (other.keeping work.anonymous.execution >>= again)).anonymous := by
    refine Run.orFault_anonymous ?_
    rw [keeping_anonymous agrees (named work stands),
      show work.anonymous.execution = work.execution.anonymous from rfl]
    cases other.keeping work.execution.anonymous with
    | error f => rfl
    | ok done => exact same done
  cases run with
  | opening work =>
    refine ⟨saving rfl fun _ => ?_, noted_anonymous agrees (named work rfl)⟩
    rw [Work.opened_anonymous]
    exact onward_anonymous agrees work.opened
  | recording work step result =>
    refine ⟨saving rfl fun _ => ?_, noted_anonymous agrees (named work rfl)⟩
    rw [settle_anonymous]
    cases settle work step result with
    | error f => rfl
    | ok settled => exact onward_anonymous agrees settled
  | closing work =>
    refine ⟨saving rfl fun _ => ?_, noted_anonymous agrees (named work rfl)⟩
    exact congrArg Except.ok
      (congrArg (Run.finished ∘ Except.ok) work.execution.anonymous_anonymous.symm)
  | dispatching work attempt input =>
    simp only [Run.anonymous, play, reach_anonymous agrees attempt]
    cases other.reach attempt.untimed with
    | handler h =>
      refine ⟨?_, rfl⟩
      simp only [work.anonymous_anonymous]
      rfl
    | refused f => exact ⟨Run.orFault_anonymous (failed_anonymous work attempt _), rfl⟩
    | late => exact ⟨Run.orFault_anonymous (failed_anonymous work attempt _), rfl⟩
  | calling work attempt handler input =>
    refine ⟨?_, by cases heard <;> rfl⟩
    cases heard with
    | returned v => exact Run.orFault_anonymous (answered_anonymous work attempt v)
    | raised f => exact Run.orFault_anonymous (failed_anonymous work attempt _)
    | expired => exact Run.orFault_anonymous (failed_anonymous work attempt _)
  | loading claimed => exact ⟨rfl, rfl⟩
  | waiting work =>
    exact ⟨(congrArg Run.waiting work.anonymous_anonymous).symm, rfl⟩
  | finished result =>
    refine ⟨?_, rfl⟩
    cases result with
    | error f => rfl
    | ok execution =>
      exact congrArg (Run.finished ∘ Except.ok) execution.anonymous_anonymous.symm

end Engine

end Stepwise
