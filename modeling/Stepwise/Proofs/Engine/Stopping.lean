import Stepwise.Proofs.Engine.Follow
import Stepwise.Proofs.Engine.Request

/-!
# How a run stops that is asked to

A run that was asked to stop begins no step any more. It brings the step in progress to its result,
and then it comes to its end: as failed when the last step stops it, as canceled when a step is
left, and otherwise as it would have ended without being asked. What the record of such a run is
can therefore be said of every place where it may stand, and it is shown backwards, from the end of
the run to the place where it was asked.
-/

namespace Stepwise

variable {η : Type}

/-- The end of an execution that begins no step any more. `stops` says whether its last step ends
it, and `left` are the steps that are left. -/
structure Execution.EndsAsked (execution : Execution) (stops : Prop) (left : List Step) :
    Prop where
  failed : stops → execution.status = .failed
  canceled : ¬ stops → ∀ step later, left = step :: later → execution.status = .canceled ∧
    ∃ id, step.id.text = .ok id ∧ execution.error = .str s!"Canceled before step '{id}'"
  complete : ¬ stops → left = [] → execution.status = execution.finalStatus false false

/-- Without a step left, the end of an execution is told by the statuses of its results. -/
theorem Execution.EndsAsked.status_eq {execution other : Execution} {stops stops' : Prop}
    {left : List Step} (ends : execution.EndsAsked stops left)
    (also : other.EndsAsked stops' left) (nothing : left = []) (same : stops ↔ stops')
    (statuses : other.results.map StepResult.status = execution.results.map StepResult.status) :
    other.status = execution.status := by
  by_cases halted : stops
  · rw [ends.failed halted, also.failed (same.mp halted)]
  · have failures : other.hasFailures = execution.hasFailures := by
      have counted := congrArg (List.any · fun status => decide (status = .failed)) statuses
      simpa [hasFailures, List.any_map, Function.comp_def] using counted
    rw [ends.complete halted nothing, also.complete (mt same.mpr halted) nothing]
    simp [finalStatus, failures]

namespace Run

/-- What a run knows about stopping: a step in progress has not been stopped, a failure to be
recorded is told with its error, and a record that is to be saved for good says how the run came
to its end. -/
def IsAware : Run η → Prop
  | .dispatching work _ _ => work.halted = false
  | .calling work _ _ _ => work.halted = false
  | .recording work _ result =>
    work.halted = false ∧ (result.status = .failed → result.error.isSome = true)
  | .closing work => work.execution.EndsAsked (work.halted = true) work.remaining
  | _ => True

/-- The steps that are left after the one in progress. -/
def left : Run η → List Step
  | .dispatching work _ _ => work.remaining.drop 1
  | .calling work _ _ _ => work.remaining.drop 1
  | .waiting work => work.remaining
  | .opening work => work.remaining
  | .recording work _ _ => work.remaining
  | .closing work => work.remaining
  | _ => []

/-- How many steps have begun: those with a result, and the one in progress. -/
def begun? : Run η → Option Nat
  | .dispatching work _ _ => some (work.execution.results.length + 1)
  | .calling work _ _ _ => some (work.execution.results.length + 1)
  | run => run.work?.map fun work => work.execution.results.length

/-- The record that a run comes to when it begins no step any more. The results are those that it
has, with that of the step in progress, and the end is decided by the last of them: by the one in
progress, by the one to be recorded, or, before any step has begun, by the last one on record. -/
def StopsAt : Run η → Execution → Prop
  | .loading _, _ => True
  | .waiting work, execution =>
    execution.results = work.execution.results ∧
      execution.EndsAsked (work.workflow.haltedBy work.execution = true) work.remaining
  | .opening work, execution =>
    execution.results = work.execution.results ∧
      execution.EndsAsked (work.workflow.haltedBy work.execution = true) work.remaining
  | .dispatching work attempt _, execution =>
    ∃ result, result.stepId = attempt.step.id ∧
      execution.results = work.execution.results ++ [result] ∧
      execution.EndsAsked (attempt.step.Stops result) (work.remaining.drop 1)
  | .calling work attempt _ _, execution =>
    ∃ result, result.stepId = attempt.step.id ∧
      execution.results = work.execution.results ++ [result] ∧
      execution.EndsAsked (attempt.step.Stops result) (work.remaining.drop 1)
  | .recording work step result, execution =>
    execution.results = work.execution.results ∧
      execution.EndsAsked (step.Stops result) work.remaining
  | .closing work, execution =>
    execution = work.execution ∧ execution.EndsAsked (work.halted = true) work.remaining
  | .finished (.ok record), execution => execution = record
  | .finished (.error _), _ => False

/-- The step in progress, with the work that it is part of. -/
def inProgress? : Run η → Option (Work × Attempt)
  | .dispatching work attempt _ => some (work, attempt)
  | .calling work attempt _ _ => some (work, attempt)
  | _ => none

/-- A step in progress comes to its result, and no other step begins after it. -/
theorem StopsAt.of_inProgress {run : Run η} {execution : Execution} {work : Work}
    {attempt : Attempt} (stops : run.StopsAt execution)
    (there : run.inProgress? = some (work, attempt)) :
    ∃ result, result.stepId = attempt.step.id ∧
      execution.results = work.execution.results ++ [result] ∧
      execution.EndsAsked (attempt.step.Stops result) (work.remaining.drop 1) := by
  cases run <;> cases there <;> exact stops

/-- The run begins no step any more: it was asked to stop, or no step is left. -/
def IsLast (run : Run η) (engine : Engine η) : Prop :=
  ∀ work, run.work? = some work →
    engine.ownership.isCancelRequested work.execution.id = true ∨ run.left = []

end Run

/-- A step in progress ends a run by the status of its result. -/
theorem Execution.EndsAsked.status_of_attempt {execution other : Execution} {step : Step}
    {left : List Step} {results : List StepResult} (nothing : left = [])
    (ends : ∃ result, result.stepId = step.id ∧ execution.results = results ++ [result] ∧
      execution.EndsAsked (step.Stops result) left)
    (also : ∃ result, result.stepId = step.id ∧ other.results = results ++ [result] ∧
      other.EndsAsked (step.Stops result) left)
    (statuses : other.results.map StepResult.status = execution.results.map StepResult.status) :
    other.status = execution.status := by
  obtain ⟨result, -, recorded, ends⟩ := ends
  obtain ⟨result', -, recorded', ends'⟩ := also
  have same : result'.status = result.status := by
    rw [recorded, recorded'] at statuses
    simpa using statuses
  refine ends.status_eq ends' nothing ?_ statuses
  rw [Step.Stops, Step.Stops, same]

/-- Where no step is left, two records that a run may come to have one status when their results
have the same statuses. -/
theorem Run.StopsAt.status_eq {run : Run η} {execution other : Execution} {work : Work}
    (stops : run.StopsAt execution) (also : run.StopsAt other) (there : run.work? = some work)
    (nothing : run.left = [])
    (statuses : other.results.map StepResult.status = execution.results.map StepResult.status) :
    other.status = execution.status := by
  cases run with
  | loading claimed => cases there
  | finished result => cases there
  | waiting work => exact stops.2.status_eq also.2 nothing Iff.rfl statuses
  | opening work => exact stops.2.status_eq also.2 nothing Iff.rfl statuses
  | dispatching work attempt input =>
    exact Execution.EndsAsked.status_of_attempt nothing stops also statuses
  | calling work attempt handler input =>
    exact Execution.EndsAsked.status_of_attempt nothing stops also statuses
  | recording work step result => exact stops.2.status_eq also.2 nothing Iff.rfl statuses
  | closing work => rw [stops.1, also.1]

/-! ## What a turn keeps -/

namespace Engine

variable {engine : Engine η} {work : Work} {next : Run η} {execution : Execution}

theorem Goes.isAware (goes : engine.Goes work next) : next.IsAware := by
  cases goes with
  | ended ends =>
    refine ⟨fun halted => ?_, fun unhalted step later left => ?_, fun unhalted _ => ?_⟩
    · have stopped : work.halted = true := halted
      simp [Work.closed, Execution.finalStatus, stopped]
    · have goesOn : ¬ work.halted = true := unhalted
      have nothing : work.remaining = [] := ends.resolve_right goesOn
      have some_left : work.remaining = step :: later := left
      rw [nothing] at some_left
      cases some_left
    · have goesOn : work.halted = false := by simpa [Work.closed] using unhalted
      simp [Work.closed, Execution.finalStatus, goesOn, Execution.hasFailures]
  | @stopped step later id left unhalted asked told =>
    refine ⟨fun halted => ?_, fun _ other rest same => ?_, fun _ nothing => ?_⟩
    · have stopped : work.halted = true := halted
      rw [unhalted] at stopped
      cases stopped
    · have same : work.remaining = other :: rest := same
      rw [left] at same
      cases same
      exact ⟨rfl, id, told, rfl⟩
    · have nothing : work.remaining = [] := nothing
      rw [left] at nothing
      cases nothing
  | @begins step later outset left unhalted unasked comes =>
    cases outset with
    | sent input => exact unhalted
    | settled status error =>
      refine ⟨unhalted, fun failed => ?_⟩
      obtain ⟨-, f, stated, -, -, rfl⟩ | ⟨skipped, -⟩ | ⟨skipped, -⟩ := Step.outset_settled comes
      · rfl
      · exact absurd (skipped.symm.trans failed) (by decide)
      · exact absurd (skipped.symm.trans failed) (by decide)

/-- A run that goes on and begins no step is about to save its record for good. -/
theorem Goes.stopsAt (goes : engine.Goes work next)
    (last : engine.ownership.isCancelRequested work.execution.id = true ∨ work.remaining = [])
    (comes : next.StopsAt execution) :
    execution.results = work.execution.results ∧
      execution.EndsAsked (work.halted = true) work.remaining := by
  cases goes with
  | ended ends =>
    obtain ⟨rfl, ended⟩ := comes
    exact ⟨rfl, ended⟩
  | stopped left unhalted asked told =>
    obtain ⟨rfl, ended⟩ := comes
    exact ⟨rfl, ended⟩
  | begins left unhalted unasked comes =>
    obtain asked | nothing := last
    · rw [unasked] at asked
      cases asked
    · rw [left] at nothing
      cases nothing

/-- Nor does it count one more. -/
theorem Goes.begun (goes : engine.Goes work next)
    (last : engine.ownership.isCancelRequested work.execution.id = true ∨ work.remaining = []) :
    next.begun? = some work.execution.results.length ∧ next.left = work.remaining := by
  cases goes with
  | ended ends => exact ⟨rfl, rfl⟩
  | stopped left unhalted asked told => exact ⟨rfl, rfl⟩
  | begins left unhalted unasked comes =>
    obtain asked | nothing := last
    · rw [unasked] at asked
      cases asked
    · rw [left] at nothing
      cases nothing

/-- Whether the last result stops the run is what the run knows once it is saved. -/
theorem settle_halted {settled : Work} {step : Step} {result : StepResult}
    (meant : settle work step result = .ok settled) (unhalted : work.halted = false)
    (stated : result.status = .failed → result.error.isSome = true) :
    settled.halted = true ↔ step.Stops result := by
  unfold settle at meant
  split at meant
  · rename_i error failed present
    obtain ⟨id, -, meant⟩ := Result.bind_ok meant
    obtain ⟨message, -, meant⟩ := Result.bind_ok meant
    split at meant
    · rename_i stops
      cases meant
      exact iff_of_true rfl ⟨failed, stops⟩
    · rename_i goesOn
      cases meant
      exact iff_of_false (by simp [unhalted]) fun stops => goesOn stops.2
  · rename_i unfailed
    cases meant
    refine iff_of_false (by simp [unhalted]) fun stops => ?_
    obtain ⟨error, present⟩ := Option.isSome_iff_exists.mp (stated stops.1)
    exact unfailed error stops.1 present

theorem failed_isAware {attempt : Attempt} {fault : Except Fault Fault}
    (made : engine.failed work attempt fault = .ok next) (unhalted : work.halted = false) :
    next.IsAware := by
  obtain ⟨result, recorded, rfl⟩ := failed_ok made
  obtain ⟨f, error, -, -, rfl⟩ := Attempt.failure_ok recorded
  exact ⟨unhalted, fun _ => rfl⟩

theorem answered_isAware {attempt : Attempt} {v : Value}
    (made : engine.answered work attempt v = .ok next) (unhalted : work.halted = false) :
    next.IsAware := by
  obtain ⟨outputs, -, rfl⟩ := answered_ok made
  exact ⟨unhalted, nofun⟩

/-- An attempt that comes to a result comes to it for its own step, whatever it is. -/
theorem failed_stopsAt {attempt : Attempt} {fault : Except Fault Fault}
    (made : engine.failed work attempt fault = .ok next) (comes : next.StopsAt execution) :
    ∃ result, result.stepId = attempt.step.id ∧
      execution.results = work.execution.results ++ [result] ∧
      execution.EndsAsked (attempt.step.Stops result) (work.remaining.drop 1) := by
  obtain ⟨result, recorded, rfl⟩ := failed_ok made
  obtain ⟨f, error, -, -, rfl⟩ := Attempt.failure_ok recorded
  exact ⟨_, rfl, comes⟩

theorem answered_stopsAt {attempt : Attempt} {v : Value}
    (made : engine.answered work attempt v = .ok next) (comes : next.StopsAt execution) :
    ∃ result, result.stepId = attempt.step.id ∧
      execution.results = work.execution.results ++ [result] ∧
      execution.EndsAsked (attempt.step.Stops result) (work.remaining.drop 1) := by
  obtain ⟨outputs, -, rfl⟩ := answered_ok made
  exact ⟨_, rfl, comes⟩

theorem failed_begun {attempt : Attempt} {fault : Except Fault Fault}
    (made : engine.failed work attempt fault = .ok next) :
    next.begun? = some (work.execution.results.length + 1) ∧
      next.left = work.remaining.drop 1 := by
  obtain ⟨result, -, rfl⟩ := failed_ok made
  exact ⟨by simp [Run.begun?, Run.work?, Work.recorded], rfl⟩

theorem answered_begun {attempt : Attempt} {v : Value}
    (made : engine.answered work attempt v = .ok next) :
    next.begun? = some (work.execution.results.length + 1) ∧
      next.left = work.remaining.drop 1 := by
  obtain ⟨outputs, -, rfl⟩ := answered_ok made
  exact ⟨by simp [Run.begun?, Run.work?, Work.recorded], rfl⟩

end Engine

namespace Advances

variable {found left : Engine η} {heard : Outcome} {run next : Run η} {execution : Execution}

theorem isAware (advances : Advances found heard run next left) (aware : run.IsAware) :
    next.IsAware := by
  cases advances with
  | waits held => trivial
  | enters free => trivial
  | opens saved goes => exact goes.isAware
  | calls reached => exact aware
  | misses missed made => exact Engine.failed_isAware made aware
  | answers returned made => exact Engine.answered_isAware made aware
  | fails caused made => exact Engine.failed_isAware made aware
  | records saved meant goes => exact goes.isAware
  | closes saved => trivial
  | rests result => exact aware

/-- What a run comes to that begins no step any more, it came to already before its turn. -/
theorem stopsAt (advances : Advances found heard run next left) (aware : run.IsAware)
    (last : run.IsLast found) (comes : next.StopsAt execution) : run.StopsAt execution := by
  cases advances with
  | waits held => exact comes
  | enters free => exact comes
  | @opens work next left saved goes =>
    refine goes.stopsAt ?_ comes
    rw [saved.ownership]
    exact last work rfl
  | calls reached => exact comes
  | misses missed made => exact Engine.failed_stopsAt made comes
  | answers returned made => exact Engine.answered_stopsAt made comes
  | fails caused made => exact Engine.failed_stopsAt made comes
  | @records work settled step result next left saved meant goes =>
    have halted := Engine.settle_halted meant aware.1 aware.2
    have asked : left.ownership.isCancelRequested settled.execution.id = true ∨
        settled.remaining = [] := by
      rw [saved.ownership]
      obtain ⟨halted, error, rfl⟩ := Engine.settle_ok meant
      exact last work rfl
    obtain ⟨results, ends⟩ := goes.stopsAt asked comes
    rw [halted] at ends
    obtain ⟨halted, error, rfl⟩ := Engine.settle_ok meant
    exact ⟨results, ends⟩
  | @closes work left saved => exact ⟨comes, comes ▸ aware⟩
  | rests result => exact comes

/-- A run that begins no step any more has as many steps begun, and as many left, as before. -/
theorem begun (advances : Advances found heard run next left) (last : run.IsLast found)
    (onward : next.result? = none) : next.begun? = run.begun? ∧ next.left = run.left := by
  cases advances with
  | waits held => exact ⟨rfl, rfl⟩
  | enters free => exact ⟨rfl, rfl⟩
  | @opens work next left saved goes =>
    refine goes.begun ?_
    rw [saved.ownership]
    exact last work rfl
  | calls reached => exact ⟨rfl, rfl⟩
  | misses missed made => exact Engine.failed_begun made
  | answers returned made => exact Engine.answered_begun made
  | fails caused made => exact Engine.failed_begun made
  | @records work settled step result next left saved meant goes =>
    obtain ⟨halted, error, rfl⟩ := Engine.settle_ok meant
    refine goes.begun ?_
    rw [saved.ownership]
    exact last work rfl
  | closes saved => cases onward
  | rests result => exact ⟨rfl, rfl⟩

end Advances

end Stepwise
