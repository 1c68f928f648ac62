import Stepwise.Proofs.Engine.Follow

/-!
# The ledger of a run

The results in a record belong to the first steps of its workflow, in order, and each was made on
the outputs that the results before it had bound. The ledger of a record says so; it is kept by
every turn that adds a result, whatever else happens to the engine meanwhile.
-/

namespace Stepwise

namespace Step

/-- The outputs after a step with a result. Only a success is bound, to the name that its step
gives it. -/
def binding (step : Step) (outputs : Value) (result : StepResult) : Value :=
  match result.status with
  | .succeeded => (step.bound outputs result.output).toOption.getD outputs
  | _ => outputs

/-- The results that a step may come to on the outputs bound before it and on the input of the
run. A step that is sent to a handler may succeed or fail; any other result is settled by its
outset. -/
inductive Makes (step : Step) (outputs input : Value) : StepResult → Prop where
  | settled {status : StepStatus} {error : Option StepError} {started finished : Option Moment}
    (comes : step.outset outputs input = .ok (.settled status error)) :
    Makes step outputs input ⟨step.id, status, .null, error, started, finished⟩
  | failed {resolved : Value} {error : StepError} {started finished : Option Moment}
    (comes : step.outset outputs input = .ok (.sent resolved)) :
    Makes step outputs input ⟨step.id, .failed, .null, some error, started, finished⟩
  | succeeded {resolved v : Value} {started finished : Option Moment}
    (comes : step.outset outputs input = .ok (.sent resolved)) :
    Makes step outputs input ⟨step.id, .succeeded, v, none, started, finished⟩

namespace Makes

variable {step : Step} {outputs input : Value} {result : StepResult}

theorem stepId (makes : step.Makes outputs input result) : result.stepId = step.id := by
  cases makes <;> rfl

theorem output (makes : step.Makes outputs input result) (given : result.output ≠ .null) :
    result.status = .succeeded := by
  cases makes with
  | settled => exact absurd rfl given
  | failed => exact absurd rfl given
  | succeeded => rfl

theorem error_of_failed (makes : step.Makes outputs input result)
    (failed : result.status = .failed) : result.error.isSome = true := by
  cases makes with
  | settled comes =>
    obtain ⟨-, f, stated, -, -, rfl⟩ | ⟨skipped, -⟩ | ⟨skipped, -⟩ := outset_settled comes
    · rfl
    · exact absurd (skipped.symm.trans failed) (by decide)
    · exact absurd (skipped.symm.trans failed) (by decide)
  | failed => rfl
  | succeeded => cases failed

theorem error_of_succeeded (makes : step.Makes outputs input result)
    (succeeded : result.status = .succeeded) : result.error = none := by
  cases makes with
  | settled comes =>
    obtain ⟨failed, -⟩ | ⟨skipped, -⟩ | ⟨skipped, -⟩ := outset_settled comes
    · exact absurd (failed.symm.trans succeeded) (by decide)
    · exact absurd (skipped.symm.trans succeeded) (by decide)
    · exact absurd (skipped.symm.trans succeeded) (by decide)
  | failed => cases succeeded
  | succeeded => rfl

/-- A skipped step has an error only for a guard that could not be decided. -/
theorem error_of_skipped (makes : step.Makes outputs input result)
    (skipped : result.status = .skipped) (error : result.error.isSome = true) :
    ∃ f, Condition.evaluate step.condition outputs input = .error f := by
  cases makes with
  | settled comes =>
    obtain ⟨failed, -⟩ | ⟨-, absent⟩ | ⟨-, f, stated, undecided, -⟩ := outset_settled comes
    · exact absurd (failed.symm.trans skipped) (by decide)
    · rw [absent] at error
      cases error
    · exact ⟨f, undecided⟩
  | failed => cases skipped
  | succeeded => cases skipped

end Makes

end Step

/-- The outputs that the results of the first steps have bound, one after the other. -/
def outputsOf (steps : List Step) (results : List StepResult) : Value :=
  (steps.zip results).foldl (fun outputs entry => entry.1.binding outputs entry.2) (.map [])

/-- One more result is bound last. -/
theorem outputsOf_append {steps : List Step} {results : List StepResult} {step : Step}
    (next : steps[results.length]? = some step) (result : StepResult) :
    outputsOf steps (results ++ [result]) =
      step.binding (outputsOf steps results) result := by
  have parted : steps.zip (results ++ [result]) = steps.zip results ++ [(step, result)] := by
    induction results generalizing steps with
    | nil =>
      cases steps with
      | nil => cases next
      | cons first others =>
        cases next
        simp
    | cons head rest inductionHypothesis =>
      cases steps with
      | nil => cases next
      | cons first others =>
        have later : others[rest.length]? = some step := by simpa using next
        simp [inductionHypothesis later]
  rw [outputsOf, parted, List.foldl_append]
  rfl

/-- The results in a record are those of the first steps, each made on the outputs bound before
it, and the outputs in the record are those bound by all of them. -/
structure Ledger (steps : List Step) (execution : Execution) : Prop where
  fits : execution.results.length ≤ steps.length
  bound : execution.outputs = outputsOf steps execution.results
  made : ∀ (place : Nat) (step : Step) (result : StepResult),
    steps[place]? = some step → execution.results[place]? = some result →
    step.Makes (outputsOf steps (execution.results.take place)) execution.input result

namespace Ledger

variable {steps : List Step} {execution : Execution} {step : Step} {result : StepResult}

/-- A record without results has bound nothing. -/
theorem begin (steps : List Step) (execution : Execution) (unmade : execution.results = [])
    (unbound : execution.outputs = .map []) : Ledger steps execution where
  fits := by simp [unmade]
  bound := by simp [unmade, unbound, outputsOf]
  made := by
    intro place step result _ present
    simp [unmade] at present

/-- A result of the next step on the outputs of the record may be added to it. -/
theorem add (ledger : Ledger steps execution)
    (next : steps[execution.results.length]? = some step)
    (makes : step.Makes execution.outputs execution.input result) {outputs : Value}
    (bound : outputs = step.binding execution.outputs result) :
    Ledger steps { execution with outputs, results := execution.results ++ [result] } where
  fits := by
    rw [List.length_append]
    exact (List.getElem?_eq_some_iff.mp next).1
  bound := by
    dsimp only
    rw [outputsOf_append next, ← ledger.bound]
    exact bound
  made := by
    intro place other recorded there present
    dsimp only at present ⊢
    obtain earlier | last | beyond := Nat.lt_trichotomy place execution.results.length
    · rw [List.getElem?_append_left earlier] at present
      rw [List.take_append_of_le_length (Nat.le_of_lt earlier)]
      exact ledger.made place other recorded there present
    · subst last
      rw [List.take_left, ← ledger.bound]
      rw [next] at there
      cases there
      have same : result = recorded := by simpa using present
      exact same ▸ makes
    · have none_there : (execution.results ++ [result])[place]? = none :=
        List.getElem?_eq_none (by rw [List.length_append]; exact beyond)
      rw [none_there] at present
      cases present

/-- The ids in the record are those of the first steps. -/
theorem ids (ledger : Ledger steps execution) :
    execution.results.map StepResult.stepId =
      (steps.take execution.results.length).map Step.id := by
  apply List.ext_getElem?
  intro place
  rw [List.getElem?_map, List.getElem?_map]
  by_cases inside : place < execution.results.length
  · have present := List.getElem?_eq_getElem inside
    have there := List.getElem?_eq_getElem (Nat.lt_of_lt_of_le inside ledger.fits)
    rw [List.getElem?_take_of_lt inside, present, there]
    exact congrArg some (ledger.made place _ _ there present).stepId
  · rw [List.getElem?_eq_none (Nat.le_of_not_lt inside),
      List.getElem?_eq_none (by rw [List.length_take]; omega)]
    rfl

end Ledger

/-! ## Along a course -/

/-- The execution that a run works on or has come to. -/
def Run.execution? {η : Type} : Run η → Option Execution
  | .finished (.ok execution) => some execution
  | run => run.work?.map Work.execution

/-- A run accounts for itself when it follows its workflow and its record keeps the ledger. -/
structure Run.Accounts {η : Type} (steps : List Step) (run : Run η) : Prop where
  follows : run.Follows steps
  ledger : ∀ execution, run.execution? = some execution → Ledger steps execution

namespace Engine

variable {η : Type} {steps : List Step}

/-- A run that goes on from a save keeps its ledger. -/
theorem Goes.ledger {engine : Engine η} {work : Work} {next : Run η}
    (goes : engine.Goes work next) (rest : work.AtRest steps)
    (ledger : Ledger steps work.execution) {execution : Execution}
    (come : next.execution? = some execution) : Ledger steps execution := by
  cases goes with
  | ended ends =>
    cases come
    exact ⟨ledger.fits, ledger.bound, ledger.made⟩
  | stopped left unhalted asked told =>
    cases come
    exact ⟨ledger.fits, ledger.bound, ledger.made⟩
  | @begins step later outset left unhalted unasked comes =>
    cases outset with
    | sent input =>
      cases come
      exact ledger
    | settled status error =>
      cases come
      refine ledger.add (next_of_left rest.left left) (.settled comes) ?_
      -- A settled step has no output, and none is bound for it.
      obtain ⟨rfl, -⟩ | ⟨rfl, -⟩ | ⟨rfl, -⟩ := Step.outset_settled comes <;> rfl

/-- A failed attempt is one of the results of its step. -/
theorem failed_ledger {engine : Engine η} {work : Work} {attempt : Attempt} {resolved : Value}
    {fault : Except Fault Fault} {next : Run η}
    (underWay : work.UnderWay steps attempt.step resolved) (ledger : Ledger steps work.execution)
    (made : engine.failed work attempt fault = .ok next) {execution : Execution}
    (come : next.execution? = some execution) : Ledger steps execution := by
  obtain ⟨result, recorded, rfl⟩ := failed_ok made
  obtain ⟨f, error, -, -, rfl⟩ := Attempt.failure_ok recorded
  cases come
  exact ledger.add underWay.next (.failed underWay.comes) rfl

/-- So is an answered one, and its output is bound as the step says. -/
theorem answered_ledger {engine : Engine η} {work : Work} {attempt : Attempt}
    {resolved v : Value} {next : Run η} (underWay : work.UnderWay steps attempt.step resolved)
    (ledger : Ledger steps work.execution) (made : engine.answered work attempt v = .ok next)
    {execution : Execution} (come : next.execution? = some execution) :
    Ledger steps execution := by
  obtain ⟨outputs, bound, rfl⟩ := answered_ok made
  cases come
  refine ledger.add underWay.next (.succeeded underWay.comes) ?_
  simp [Step.binding, bound, Except.toOption]

end Engine

/-- Every turn that advances keeps the account of its run. -/
theorem Advances.accounts {η : Type} {steps : List Step} {found left : Engine η}
    {heard : Outcome} {run next : Run η} (advances : Advances found heard run next left)
    (accounts : run.Accounts steps) : next.Accounts steps := by
  obtain ⟨follows, ledger⟩ := accounts
  refine ⟨advances.follows follows, ?_⟩
  intro execution come
  cases advances with
  | waits held => exact ledger execution come
  | enters free => exact ledger execution come
  | opens saved goes => exact goes.ledger follows (ledger _ rfl) come
  | calls reached => exact ledger execution come
  | misses missed made => exact Engine.failed_ledger follows (ledger _ rfl) made come
  | answers returned made => exact Engine.answered_ledger follows (ledger _ rfl) made come
  | fails caused made => exact Engine.failed_ledger follows (ledger _ rfl) made come
  | records saved meant goes =>
    obtain ⟨halted, error, rfl⟩ := Engine.settle_ok meant
    obtain ⟨fits, bound, made⟩ := ledger _ rfl
    exact goes.ledger (Engine.settle_atRest follows meant) ⟨fits, bound, made⟩ come
  | closes saved => exact ledger execution come
  | rests result => exact ledger execution come

/-- A run that starts accounts for itself: nothing is recorded yet. -/
theorem Engine.startExecution_accounts {η : Type} {workflowId input : Value}
    {engine left : Engine η} {run : Run η} {workflow : Workflow}
    (found : engine.workflows.get workflowId = .ok workflow)
    (started : engine.start (startExecution workflowId input) = (run, left)) :
    run.Accounts workflow.steps ∧ run.IsSound := by
  by_cases faulted : ∃ f, run = .finished (.error f)
  · obtain ⟨f, rfl⟩ := faulted
    exact ⟨⟨trivial, nofun⟩, trivial⟩
  · obtain ⟨other, given, lock, found', -, stands⟩ :=
      startExecution_ok started fun f same => faulted ⟨f, same⟩
    rw [found] at found'
    cases found'
    have rest : (workOn engine.nextId lock workflow
        (engine.freshRecord workflow given)).opened.AtRest workflow.steps :=
      ⟨Nat.zero_le _, rfl, nofun, iff_of_false nofun (not_stoppedAtLast_nil _)⟩
    have ledger : Ledger workflow.steps (engine.freshRecord workflow given) := .begin _ _ rfl rfl
    obtain rfl | rfl := stands
    · refine ⟨⟨rest, ?_⟩, rfl⟩
      rintro _ ⟨⟩
      exact ledger
    · refine ⟨⟨rest, ?_⟩, rfl⟩
      rintro _ ⟨⟩
      exact ledger

/-- Along every course, whatever happens in between, the run accounts for itself. -/
theorem Course.accounts {η : Type} {around : Interim η} {place final : Run η × Engine η}
    {turns : List (Turn η)} {steps : List Step} (course : Course around place turns final)
    (accounts : place.1.Accounts steps) (sound : place.1.IsSound) :
    final.1.Accounts steps ∧ final.1.IsSound := by
  refine Course.preserves (fun _ run _ => run.Accounts steps ∧ run.IsSound) ?_ course []
    ⟨accounts, sound⟩
  intro past left turn kept _
  obtain ⟨f, faults⟩ | advances := turn.advances_or_faults kept.2
  · rw [faults]
    exact ⟨⟨trivial, nofun⟩, trivial⟩
  · exact ⟨advances.accounts kept.1, advances.sound kept.2⟩

end Stepwise
