import Stepwise.Proofs.Definition.Accepted
import Stepwise.Proofs.Engine.Start

/-!
# How a run follows its workflow

A run goes through the steps of its workflow one after the other, and its record has the results of
the first of them. Together with that goes what the run knows about stopping: no result but the last
stops it, and the run is halted exactly when the last one does. Every turn keeps to this, whatever
happens to the engine meanwhile, and so the status in which a record ends can be read off its
results.
-/

namespace Stepwise

/-- The result is a failure of a step that stops on failure. -/
def Step.Stops (step : Step) (result : StepResult) : Prop :=
  result.status = .failed ∧ step.stopsOnFailure = true

/-! ## Stopping -/

/-- None of the results stops a run. -/
def Unstopped (steps : List Step) (results : List StepResult) : Prop :=
  ∀ (place : Nat) (step : Step) (result : StepResult),
    steps[place]? = some step → results[place]? = some result → ¬ step.Stops result

/-- The last of the results stops a run. -/
def StoppedAtLast (steps : List Step) (results : List StepResult) : Prop :=
  ∃ (place : Nat) (step : Step) (result : StepResult), results.length = place + 1 ∧
    steps[place]? = some step ∧ results[place]? = some result ∧ step.Stops result

/-- When neither an earlier result nor the last one stops a run, none does. -/
theorem unstopped_of_last {steps : List Step} {results : List StepResult}
    (earlier : Unstopped steps (results.take (results.length - 1)))
    (last : ¬ StoppedAtLast steps results) : Unstopped steps results := by
  intro place step result there present stops
  have inside : place < results.length := (List.getElem?_eq_some_iff.mp present).1
  by_cases final : place + 1 = results.length
  · exact last ⟨place, step, result, final.symm, there, present, stops⟩
  · refine earlier place step result there ?_ stops
    rw [List.getElem?_take_of_lt (by omega)]
    exact present

theorem not_stoppedAtLast_nil (steps : List Step) : ¬ StoppedAtLast steps [] := by
  rintro ⟨place, step, result, counted, -⟩
  cases counted

/-- Where the ids of steps are texts, a record halts a run exactly when its last result stops one:
the step of that result is found again by its id. -/
theorem Workflow.haltedBy_iff {workflow : Workflow} (accepted : workflow.IsAccepted)
    (named : ∀ step ∈ workflow.steps, step.id.isText = true) {execution : Execution}
    (fits : execution.results.length ≤ workflow.steps.length)
    (own : ∀ (place : Nat) (step : Step) (result : StepResult), workflow.steps[place]? = some step →
      execution.results[place]? = some result → result.stepId = step.id) :
    workflow.haltedBy execution = true ↔ StoppedAtLast workflow.steps execution.results := by
  unfold Workflow.haltedBy
  cases last : execution.results.getLast? with
  | none =>
    rw [List.getLast?_eq_none_iff] at last
    rw [last]
    exact iff_of_false nofun (not_stoppedAtLast_nil _)
  | some result =>
    rw [List.getLast?_eq_getElem?] at last
    obtain ⟨inside, -⟩ := List.getElem?_eq_some_iff.mp last
    have there := List.getElem?_eq_getElem (Nat.lt_of_lt_of_le inside fits)
    dsimp only
    rw [own _ _ _ there last, accepted.step?_of_getElem? named there]
    simp only [Option.all_some, Bool.and_eq_true, decide_eq_true_eq]
    constructor
    · exact fun stops => ⟨_, _, result, by omega, there, last, stops⟩
    · rintro ⟨place, step, other, counted, there', present, stops⟩
      obtain rfl : place = execution.results.length - 1 := by omega
      rw [there] at there'
      rw [last] at present
      cases there'
      cases present
      exact stops

/-! ## Along a course -/

/-- What a run knows after a save, once it has heard what the last result means for it. -/
structure Work.AtRest (steps : List Step) (work : Work) : Prop where
  fits : work.execution.results.length ≤ steps.length
  left : work.remaining = steps.drop work.execution.results.length
  earlier : Unstopped steps
    (work.execution.results.take (work.execution.results.length - 1))
  halted : work.halted = true ↔ StoppedAtLast steps work.execution.results

/-- What a run knows while a step is under way: it is the next one, and nothing has stopped. -/
structure Work.UnderWay (steps : List Step) (work : Work) (step : Step) (resolved : Value) :
    Prop where
  left : work.remaining = steps.drop work.execution.results.length
  next : steps[work.execution.results.length]? = some step
  unstopped : Unstopped steps work.execution.results
  unhalted : work.halted = false
  comes : step.outset work.execution.outputs work.execution.input = .ok (.sent resolved)

/-- What a run knows with one more result that is not saved yet. -/
structure Work.WithResult (steps : List Step) (work : Work) (step : Step) (result : StepResult) :
    Prop where
  left : work.remaining = steps.drop work.execution.results.length
  earlier : Unstopped steps
    (work.execution.results.take (work.execution.results.length - 1))
  unhalted : work.halted = false
  last : ∃ place, work.execution.results.length = place + 1 ∧ steps[place]? = some step ∧
    work.execution.results[place]? = some result
  stated : result.status = .failed → result.error.isSome = true

/-- What is known of a record that has come to its last status. A run ends because it is halted,
because it was asked to stop before another step, or because no step is left. -/
structure Execution.Concluded (steps : List Step) (execution : Execution) : Prop where
  fits : execution.results.length ≤ steps.length
  earlier : Unstopped steps (execution.results.take (execution.results.length - 1))
  verdict :
    (StoppedAtLast steps execution.results ∧ execution.status = .failed) ∨
    (¬ StoppedAtLast steps execution.results ∧ execution.results.length < steps.length ∧
      execution.status = .canceled) ∨
    (¬ StoppedAtLast steps execution.results ∧ execution.results.length = steps.length ∧
      execution.status = if execution.hasFailures then .partialSuccess else .succeeded)

/-- How a run stands to the steps of its workflow. A record still to be loaded promises nothing. -/
def Run.Follows {η : Type} (steps : List Step) : Run η → Prop
  | .loading _ => False
  | .waiting work => work.opened.AtRest steps
  | .opening work => work.opened.AtRest steps
  | .dispatching work attempt resolved => work.UnderWay steps attempt.step resolved
  | .calling work attempt _ resolved => work.UnderWay steps attempt.step resolved
  | .recording work step result => work.WithResult steps step result
  | .closing work => work.execution.Concluded steps
  | .finished (.ok execution) => execution.Concluded steps
  | .finished (.error _) => True

namespace Engine

variable {η : Type} {steps : List Step}

theorem next_of_left {work : Work} {step : Step} {later : List Step}
    (left : work.remaining = steps.drop work.execution.results.length)
    (begins : work.remaining = step :: later) :
    steps[work.execution.results.length]? = some step := by
  have first : (steps.drop work.execution.results.length)[0]? = some step := by
    rw [← left, begins]
    rfl
  simpa using first

/-- A result of the step under way is added to a run that nothing has stopped. -/
theorem recorded_withResult {work : Work} {step : Step} {result : StepResult} (outputs : Value)
    (left : work.remaining = steps.drop work.execution.results.length)
    (next : steps[work.execution.results.length]? = some step)
    (unstopped : Unstopped steps work.execution.results) (unhalted : work.halted = false)
    (stated : result.status = .failed → result.error.isSome = true) :
    (work.recorded outputs result).WithResult steps step result where
  left := by simp [Work.recorded, left, List.drop_drop]
  earlier := by simpa [Work.recorded] using unstopped
  unhalted := unhalted
  last := ⟨work.execution.results.length, by simp [Work.recorded], next, by simp [Work.recorded]⟩
  stated := stated

/-- A run that goes on from a save follows its workflow, wherever it goes. -/
theorem Goes.follows {engine : Engine η} {work : Work} {next : Run η}
    (goes : engine.Goes work next) (rest : work.AtRest steps) : next.Follows steps := by
  cases goes with
  | ended ends =>
    refine ⟨rest.fits, rest.earlier, ?_⟩
    by_cases halted : work.halted = true
    · refine .inl ⟨rest.halted.mp halted, ?_⟩
      simp [Work.closed, Execution.finalStatus, halted]
    · have unstopped := mt rest.halted.mpr halted
      have none_left : work.remaining = [] := ends.resolve_right halted
      have counted : work.execution.results.length = steps.length := by
        have beyond := List.drop_eq_nil_iff.mp (rest.left.symm.trans none_left)
        have fits := rest.fits
        omega
      refine .inr (.inr ⟨unstopped, counted, ?_⟩)
      simp [Work.closed, Execution.finalStatus, halted, Execution.hasFailures]
  | stopped left unhalted asked told =>
    refine ⟨rest.fits, rest.earlier, ?_⟩
    have next := next_of_left rest.left left
    refine .inr (.inl ⟨mt rest.halted.mpr (by simp [unhalted]), ?_, rfl⟩)
    exact (List.getElem?_eq_some_iff.mp next).1
  | @begins step later outset left unhalted unasked comes =>
    have next := next_of_left rest.left left
    have unstopped : Unstopped steps work.execution.results :=
      unstopped_of_last rest.earlier (mt rest.halted.mpr (by simp [unhalted]))
    cases outset with
    | sent input => exact ⟨rest.left, next, unstopped, unhalted, comes⟩
    | settled status error =>
      refine recorded_withResult _ rest.left next unstopped unhalted fun failed => ?_
      obtain ⟨-, f, stated, -, -, rfl⟩ | ⟨skipped, -⟩ | ⟨skipped, -⟩ := Step.outset_settled comes
      · rfl
      · exact absurd (skipped.symm.trans failed) (by decide)
      · exact absurd (skipped.symm.trans failed) (by decide)

/-- A failed attempt is recorded with its error. -/
theorem failed_follows {engine : Engine η} {work : Work} {attempt : Attempt} {resolved : Value}
    {fault : Except Fault Fault} {next : Run η}
    (underWay : work.UnderWay steps attempt.step resolved)
    (made : engine.failed work attempt fault = .ok next) : next.Follows steps := by
  obtain ⟨result, recorded, rfl⟩ := failed_ok made
  obtain ⟨f, error, -, -, rfl⟩ := Attempt.failure_ok recorded
  exact recorded_withResult _ underWay.left underWay.next underWay.unstopped underWay.unhalted
    fun _ => rfl

theorem answered_follows {engine : Engine η} {work : Work} {attempt : Attempt}
    {resolved v : Value} {next : Run η} (underWay : work.UnderWay steps attempt.step resolved)
    (made : engine.answered work attempt v = .ok next) : next.Follows steps := by
  obtain ⟨outputs, -, rfl⟩ := answered_ok made
  exact recorded_withResult _ underWay.left underWay.next underWay.unstopped underWay.unhalted
    nofun

/-- What the last result means for the run is what it says itself. -/
theorem settle_atRest {work settled : Work} {step : Step} {result : StepResult}
    (withResult : work.WithResult steps step result)
    (meant : settle work step result = .ok settled) : settled.AtRest steps := by
  obtain ⟨place, counted, there, present⟩ := withResult.last
  have fits : work.execution.results.length ≤ steps.length :=
    counted ▸ (List.getElem?_eq_some_iff.mp there).1
  have only : StoppedAtLast steps work.execution.results ↔ step.Stops result := by
    constructor
    · rintro ⟨other, step', result', counted', there', present', stops⟩
      obtain rfl : other = place := by omega
      rw [there] at there'
      rw [present] at present'
      cases there'
      cases present'
      exact stops
    · exact fun stops => ⟨place, step, result, counted, there, present, stops⟩
  unfold settle at meant
  split at meant
  · rename_i error failed stated
    obtain ⟨id, -, meant⟩ := Result.bind_ok meant
    obtain ⟨message, -, meant⟩ := Result.bind_ok meant
    split at meant
    · rename_i stops
      cases meant
      exact ⟨fits, withResult.left, withResult.earlier,
        iff_of_true rfl (only.mpr ⟨failed, stops⟩)⟩
    · rename_i goesOn
      cases meant
      refine ⟨fits, withResult.left, withResult.earlier, iff_of_false ?_ ?_⟩
      · simp [withResult.unhalted]
      · exact fun stopped => goesOn (only.mp stopped).2
  · rename_i unfailed
    cases meant
    refine ⟨fits, withResult.left, withResult.earlier, iff_of_false ?_ ?_⟩
    · simp [withResult.unhalted]
    · intro stopped
      have failed := (only.mp stopped).1
      obtain ⟨error, stated⟩ := Option.isSome_iff_exists.mp (withResult.stated failed)
      exact unfailed error failed stated

end Engine

/-- Every turn that advances goes on following the workflow. -/
theorem Advances.follows {η : Type} {steps : List Step} {found left : Engine η}
    {heard : Outcome} {run next : Run η} (advances : Advances found heard run next left)
    (follows : run.Follows steps) : next.Follows steps := by
  cases advances with
  | waits held => exact follows
  | enters free => exact follows
  | opens saved goes => exact goes.follows follows
  | calls reached => exact follows
  | misses missed made => exact Engine.failed_follows follows made
  | answers returned made => exact Engine.answered_follows follows made
  | fails caused made => exact Engine.failed_follows follows made
  | records saved meant goes => exact goes.follows (Engine.settle_atRest follows meant)
  | closes saved => exact follows
  | rests result => exact follows

end Stepwise
