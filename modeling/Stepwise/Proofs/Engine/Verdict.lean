import Stepwise.Proofs.Engine.Ledger

/-!
# What a finished record says

A record that a run returns tells how far the run came and why it ended there. Its results are
those of the first steps; its status follows from how many they are, from whether the last one
stops the run, and from whether any of them is a failure. Nothing else decides it: neither what
happens to the engine between two turns, nor when the run is asked to stop, nor what the handlers
answer.
-/

namespace Stepwise

namespace Execution.Concluded

variable {steps : List Step} {execution : Execution}

/-- A run that was not stopped by its last result failed nowhere that stops it. -/
theorem failed_iff (concluded : execution.Concluded steps) :
    execution.status = .failed ↔ StoppedAtLast steps execution.results := by
  obtain ⟨stopped, failed⟩ | ⟨unstopped, -, canceled⟩ | ⟨unstopped, -, ended⟩ :=
    concluded.verdict
  · exact iff_of_true failed stopped
  · exact iff_of_false (by rw [canceled]; decide) unstopped
  · refine iff_of_false ?_ unstopped
    rw [ended]
    split <;> decide

theorem canceled_iff (concluded : execution.Concluded steps) :
    execution.status = .canceled ↔
      execution.results.length < steps.length ∧ execution.status ≠ .failed := by
  obtain ⟨stopped, failed⟩ | ⟨-, short, canceled⟩ | ⟨-, whole, ended⟩ := concluded.verdict
  · simp [failed]
  · simp [short, canceled]
  · refine iff_of_false ?_ fun claimed => absurd claimed.1 (by omega)
    rw [ended]
    split <;> decide

theorem partialSuccess_iff (concluded : execution.Concluded steps) :
    execution.status = .partialSuccess ↔
      execution.results.length = steps.length ∧ execution.status ≠ .failed ∧
        ∃ result ∈ execution.results, result.status = .failed := by
  have failures : execution.hasFailures = true ↔
      ∃ result ∈ execution.results, result.status = .failed := by
    simp [hasFailures]
  obtain ⟨stopped, failed⟩ | ⟨-, short, canceled⟩ | ⟨-, whole, ended⟩ := concluded.verdict
  · simp [failed]
  · refine iff_of_false (by rw [canceled]; decide) fun claimed => absurd claimed.1 (by omega)
  · rw [← failures, ended]
    cases execution.hasFailures <;> simp [whole]

/-- A step that failed leaves its trace in the status, even when it did not stop the run. -/
theorem succeeded_iff (concluded : execution.Concluded steps) :
    execution.status = .succeeded ↔
      execution.results.length = steps.length ∧
        ∀ result ∈ execution.results, result.status ≠ .failed := by
  have failures : execution.hasFailures = false ↔
      ∀ result ∈ execution.results, result.status ≠ .failed := by
    simp [hasFailures]
  obtain ⟨stopped, failed⟩ | ⟨-, short, canceled⟩ | ⟨-, whole, ended⟩ := concluded.verdict
  · refine iff_of_false (by rw [failed]; decide) fun claimed => ?_
    obtain ⟨place, step, result, -, -, present, stops⟩ := stopped
    exact claimed.2 result (List.mem_of_getElem? present) stops.1
  · refine iff_of_false (by rw [canceled]; decide) fun claimed => absurd claimed.1 (by omega)
  · rw [← failures, ended]
    cases execution.hasFailures <;> simp [whole]

/-- What stops a run is the last thing that happened to it. -/
theorem not_stops (concluded : execution.Concluded steps) {place : Nat} {step : Step}
    {result : StepResult} (before : place + 1 < execution.results.length)
    (there : steps[place]? = some step) (present : execution.results[place]? = some result) :
    ¬ step.Stops result := by
  refine concluded.earlier place step result there ?_
  rw [List.getElem?_take_of_lt (by omega)]
  exact present

end Execution.Concluded

/-- When an execution of a registered workflow returns a record, whatever its handlers did and
whenever it was asked to stop, the record has results of the first steps in order. It is failed
exactly when the last result stops the run, canceled when it is short of steps otherwise, and with
all results it is partial or succeeded as some result is a failure or none is. No earlier result
stops a run. Only successes have outputs; failures have errors and successes have none; and a
skipped step has one only when its condition could not be evaluated on the outputs bound by then. -/
theorem Engine.finished_record_verdict {η : Type} {around : Interim η} {engine left : Engine η}
    {workflowId input : Value} {workflow : Workflow} {turns : List (Turn η)}
    {execution : Execution} (registered : engine.workflows.get workflowId = .ok workflow)
    (course : Course around (engine.start (startExecution workflowId input)) turns
      (.finished (.ok execution), left)) :
    execution.results.length ≤ workflow.steps.length ∧
    execution.results.map StepResult.stepId =
      (workflow.steps.take execution.results.length).map Step.id ∧
    (execution.status = .failed ↔ StoppedAtLast workflow.steps execution.results) ∧
    (execution.status = .canceled ↔
      execution.results.length < workflow.steps.length ∧ execution.status ≠ .failed) ∧
    (execution.status = .partialSuccess ↔
      execution.results.length = workflow.steps.length ∧ execution.status ≠ .failed ∧
        ∃ result ∈ execution.results, result.status = .failed) ∧
    (execution.status = .succeeded ↔
      execution.results.length = workflow.steps.length ∧
        ∀ result ∈ execution.results, result.status ≠ .failed) ∧
    ∀ (place : Nat) (step : Step) (result : StepResult),
      workflow.steps[place]? = some step → execution.results[place]? = some result →
      (place + 1 < execution.results.length →
        ¬ (result.status = .failed ∧ step.stopsOnFailure = true)) ∧
      (result.output ≠ .null → result.status = .succeeded) ∧
      (result.status = .failed → result.error.isSome = true) ∧
      (result.status = .succeeded → result.error = none) ∧
      (result.status = .skipped → result.error.isSome = true →
        ∃ f, Condition.evaluate step.condition
          (outputsOf workflow.steps (execution.results.take place)) execution.input =
            .error f) := by
  obtain ⟨accounts, sound⟩ := startExecution_accounts registered
    (Prod.eta (engine.start (startExecution workflowId input)))
  obtain ⟨follows, ledger⟩ := (course.accounts accounts sound).1
  have concluded : execution.Concluded workflow.steps := follows
  have kept : Ledger workflow.steps execution := ledger execution rfl
  refine ⟨kept.fits, kept.ids, concluded.failed_iff, concluded.canceled_iff,
    concluded.partialSuccess_iff, concluded.succeeded_iff, ?_⟩
  intro place step result there present
  have makes := kept.made place step result there present
  exact ⟨fun before => concluded.not_stops before there present, makes.output,
    makes.error_of_failed, makes.error_of_succeeded, makes.error_of_skipped⟩

/-- The letters come to a record with a failure that did not stop the run. -/
theorem Letters.finished_partly : ∃ (execution : Execution) (left : Engine Bool),
    Course (fun left turn => turn = Engine.turnOf behave turn.run left) started
      (Engine.turnsOf behave 8 started.1 started.2) (.finished (.ok execution), left) ∧
    execution.status = .partialSuccess ∧ execution.results.length = workflow.steps.length ∧
    ∃ result ∈ execution.results, result.status = .failed := by
  have course := Engine.moves_course behave 8 started.1 started.2
  have ends : ((Engine.moves behave 8 started.1 started.2).1.record?.map Execution.status) =
      some .partialSuccess := by
    decide +kernel
  obtain ⟨execution, came, status⟩ := Option.map_eq_some_iff.mp ends
  have arrived : Engine.moves behave 8 started.1 started.2 =
      (.finished (.ok execution), (Engine.moves behave 8 started.1 started.2).2) :=
    Prod.ext (Run.eq_of_record? came) rfl
  rw [arrived] at course
  obtain ⟨-, -, -, -, partly, -⟩ := Engine.finished_record_verdict registered course
  exact ⟨execution, _, course, status, (partly.mp status).1, (partly.mp status).2.2⟩

end Stepwise
