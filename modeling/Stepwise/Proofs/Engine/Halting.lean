import Stepwise.Proofs.Engine.Reason

/-!
# Halting told from the record

A run knows from the step it has just executed whether it is to stop. A run that takes the record up
has only the record to go by: it looks up the step of the last result by its id. Both come to the
same after every save of a running record. For ids are apart, so the step that is found is the one
that was executed; and nothing is recorded after a failure that stops the run, so the last result is
the one to look at.
-/

namespace Stepwise

/-- Where ids are texts, a snapshot halts a run exactly when its record does. -/
theorem Workflow.haltedBy_copied (workflow : Workflow) {execution : Execution}
    (texts : ∀ result ∈ execution.results, result.stepId.isText = true) :
    workflow.haltedBy execution.copied = workflow.haltedBy execution := by
  rw [haltedBy, haltedBy, Execution.copied, List.getLast?_map]
  cases last : execution.results.getLast? with
  | none => rfl
  | some result =>
    obtain ⟨id, told⟩ := Value.exists_str_of_isText (texts result (List.mem_of_getLast? last))
    simp [StepResult.copied, told, Value.copied]

variable {η : Type} {steps : List Step}

/-! ## What a run can say about its result -/

/-- The result that a run is about to save has no error, or one that records a fault. -/
def Run.IsStated : Run η → Prop
  | .recording _ _ result => result.IsStated
  | _ => True

theorem Engine.Goes.isStated {engine : Engine η} {work : Work} {next : Run η}
    (goes : engine.Goes work next) : next.IsStated := by
  cases goes with
  | ended => trivial
  | stopped => trivial
  | @begins step later outset left unhalted unasked comes =>
    cases outset with
    | sent input => trivial
    | settled status error => exact engine.settledResult_isStated comes

theorem Engine.failed_isStated {engine : Engine η} {work : Work} {attempt : Attempt}
    {fault : Except Fault Fault} {next : Run η}
    (made : engine.failed work attempt fault = .ok next) : next.IsStated := by
  obtain ⟨result, recorded, rfl⟩ := failed_ok made
  exact Attempt.failure_isStated recorded

theorem Advances.isStated {found left : Engine η} {heard : Outcome} {run next : Run η}
    (advances : Advances found heard run next left) : next.IsStated := by
  cases advances with
  | opens saved goes => exact goes.isStated
  | misses missed made => exact Engine.failed_isStated made
  | answers returned made =>
    obtain ⟨outputs, -, rfl⟩ := Engine.answered_ok made
    exact nofun
  | fails caused made => exact Engine.failed_isStated made
  | records saved meant goes => exact goes.isStated
  | _ => trivial

/-- A run that accounts for itself and can say what the result means that it is about to save. -/
structure Run.IsTold (steps : List Step) (run : Run η) : Prop where
  accounts : run.Accounts steps
  sound : run.IsSound
  stated : run.IsStated

theorem Turn.isTold_after {turn : Turn η} (told : turn.run.IsTold steps) :
    turn.after.1.IsTold steps := by
  obtain ⟨f, faults⟩ | advances := turn.advances_or_faults told.sound
  · rw [faults]
    exact ⟨⟨trivial, nofun⟩, trivial, trivial⟩
  · exact ⟨advances.accounts told.accounts, advances.sound told.sound, advances.isStated⟩

/-- Along every course, whatever happens in between, a run finds itself so at each of its turns. -/
theorem Course.isTold {around : Interim η} {place final : Run η × Engine η}
    {turns : List (Turn η)} (course : Course around place turns final)
    (told : place.1.IsTold steps) : ∀ turn ∈ turns, turn.run.IsTold steps := by
  intro turn member
  obtain ⟨before, later, rfl⟩ := List.append_of_mem member
  obtain ⟨left, reached, -, -⟩ := course.split
  exact reached.preserves (fun _ run _ => run.IsTold steps)
    (fun _ _ _ told _ => Turn.isTold_after told) [] told

/-! ## What a run does after a save -/

/-- The run ends because the last result has stopped it. -/
def Run.IsHalted (run : Run η) : Prop :=
  ∃ work, run = .closing work ∧ work.halted = true ∧ work.execution.status = .failed

namespace Engine

/-- A run that goes on from a save ends by a failure exactly when it is halted: a run that is asked
to stop is not, and neither is one that has another step begun. -/
theorem Goes.isHalted_iff {engine : Engine η} {work : Work} {next : Run η}
    (goes : engine.Goes work next) : next.IsHalted ↔ work.halted = true := by
  cases goes with
  | ended ends =>
    constructor
    · rintro ⟨_, ⟨⟩, halted, -⟩
      exact halted
    · intro halted
      exact ⟨_, rfl, halted, by simp [Work.closed, Execution.finalStatus, halted]⟩
  | stopped left unhalted asked told =>
    refine iff_of_false ?_ (by simp [unhalted])
    rintro ⟨_, ⟨⟩, -, failed⟩
    cases failed
  | @begins step later outset left unhalted unasked comes =>
    refine iff_of_false ?_ (by simp [unhalted])
    rintro ⟨work, begun, -⟩
    cases outset <;> cases begun

/-- A run that cannot go on is not halted either. -/
theorem conclude_next_isHalted {work : Work} (running : work.execution.status = .running)
    (before : Run η) (engine : Engine η) :
    (conclude before (next work) engine).1.IsHalted ↔ work.halted = true := by
  obtain ⟨run, goes⟩ | ⟨f, baulks⟩ := goes_or_baulks engine work
  · rw [conclude_onward (next_of_goes running goes) goes.onward]
    exact goes.isHalted_iff
  · rw [conclude_error (next_of_baulks running baulks)]
    refine iff_of_false (by rintro ⟨_, ⟨⟩, -⟩) ?_
    cases baulks with
    | untold left unhalted asked met => simp [unhalted]
    | unbegun left unhalted unasked met => simp [unhalted]

/-- What follows a save that was made decides where the turn leads. -/
theorem conclude_persist {before : Run η} {execution : Execution} {found left : Engine η}
    (saved : found.Saves execution left) (rest : PUnit → Effect (Engine η) (Run η)) :
    conclude before (persist execution >>= rest) found = conclude before (rest ⟨⟩) left := by
  rw [conclude, persist_bind saved, ← conclude]

end Engine

namespace Turn

open Engine

variable {turn : Turn η}

/-- After the save of a running record the run ends by a failure exactly when the last result
stops it. -/
theorem isHalted_iff {work : Work} {left : Engine η} (told : turn.run.IsTold steps)
    (texts : ∀ step ∈ steps, step.id.isText = true) (saving : turn.run.saving? = some work)
    (saved : turn.found.Saves work.execution left) (running : work.execution.status = .running) :
    turn.after.1.IsHalted ↔ StoppedAtLast steps work.execution.results := by
  obtain ⟨⟨follows, -⟩, sound, stated⟩ := told
  rw [after_of_saving saving]
  cases stands : turn.run with
  | opening other =>
    rw [stands] at saving follows
    cases saving
    rw [stage, conclude_persist saved]
    refine (conclude_next_isHalted ?_ _ left).trans follows.halted
    exact running
  | recording other step result =>
    rw [stands] at saving follows stated
    cases saving
    obtain ⟨place, -, there, -⟩ := follows.last
    obtain ⟨id, named⟩ := Value.exists_str_of_isText (texts step (List.mem_of_getElem? there))
    obtain ⟨settled, meant⟩ := @settle_of_told work step result ⟨id, by rw [named]; rfl⟩ stated
    have results : settled.execution.results = work.execution.results := by
      obtain ⟨halted, error, rfl⟩ := settle_ok meant
      rfl
    rw [stage, conclude_persist saved, meant, ← results]
    exact (conclude_next_isHalted ((settle_running meant).trans running) _ left).trans
      (settle_atRest follows meant).halted
  | closing other =>
    rw [stands] at saving sound
    cases saving
    have terminal : work.execution.isTerminal = true := sound
    rw [Execution.isTerminal, running] at terminal
    cases terminal
  | _ =>
    rw [stands] at saving
    cases saving

end Turn

theorem Engine.startExecution_isTold {workflowId input : Value} {engine left : Engine η}
    {run : Run η} {workflow : Workflow} (found : engine.workflows.get workflowId = .ok workflow)
    (started : engine.start (startExecution workflowId input) = (run, left)) :
    run.IsTold workflow.steps := by
  obtain ⟨accounts, sound⟩ := startExecution_accounts found started
  refine ⟨accounts, sound, ?_⟩
  by_cases faulted : ∃ f, run = .finished (.error f)
  · obtain ⟨f, rfl⟩ := faulted
    trivial
  · obtain ⟨_, _, _, -, -, rfl | rfl⟩ := startExecution_ok started fun f same => faulted ⟨f, same⟩
    · trivial
    · trivial

/-- Whenever an execution has saved a running record, the snapshot tells a later run to halt exactly
when the run itself goes on to end by the failure of a step that stops it. -/
theorem Engine.snapshot_halts_iff_halted {around : Interim η} {engine : Engine η}
    {workflow : Workflow} {workflowId input : Value} {turns : List (Turn η)}
    {final : Run η × Engine η} (registered : engine.workflows.get workflowId = .ok workflow)
    (accepted : workflow.IsAccepted) (named : ∀ step ∈ workflow.steps, step.id.isText = true)
    (course : Course around (engine.start (startExecution workflowId input)) turns final) :
    ∀ turn ∈ turns, ∀ snapshot, turn.saved? = some snapshot → snapshot.status = .running →
      (workflow.haltedBy snapshot = true ↔ turn.after.1.IsHalted) := by
  intro turn member snapshot saved running
  have told := course.isTold (startExecution_isTold registered rfl) turn member
  obtain ⟨work, left, saving, saves, rfl⟩ := Turn.saves_of_saved? saved
  have ledger := told.accounts.ledger work.execution (Run.execution?_of_saving saving)
  have own (place : Nat) (step : Step) (result : StepResult)
      (there : workflow.steps[place]? = some step)
      (present : work.execution.results[place]? = some result) : result.stepId = step.id :=
    (ledger.made place step result there present).stepId
  have texts : ∀ result ∈ work.execution.results, result.stepId.isText = true := by
    intro result listed
    have id : result.stepId ∈ workflow.steps.map Step.id := by
      have ids := ledger.ids ▸ List.mem_map_of_mem listed
      exact List.map_subset _ (List.take_subset _ _) ids
    obtain ⟨step, among, same⟩ := List.mem_map.mp id
    exact same ▸ named step among
  rw [workflow.haltedBy_copied texts, Workflow.haltedBy_iff accepted named ledger.fits own,
    Turn.isHalted_iff told named saving saves running]

namespace Letters

/-- The failure to fetch the letters is saved before the run ends by it, and the snapshot tells so
much. -/
theorem snapshot_halts_strict :
    ∃ turn ∈ Engine.turnsOf behave 5 strictStarted.1 strictStarted.2, ∃ snapshot,
      turn.saved? = some snapshot ∧ snapshot.status = .running ∧
      strictWorkflow.haltedBy snapshot = true ∧ turn.after.1.IsHalted := by
  have accepted : strictWorkflow.IsAccepted := by
    refine register_isOk strictWorkflow (by decide +kernel) ?_
    simp [Workflow.copied, Step.copied, strictWorkflow, workflow, strict, fetch, Value.copied,
      Value.copiedEntries]
  have named : ∀ step ∈ strictWorkflow.steps, step.id.isText = true := by decide +kernel
  have course := Engine.moves_course behave 5 strictStarted.1 strictStarted.2
  have halts : (Engine.turnsOf behave 5 strictStarted.1 strictStarted.2).any (fun turn =>
      turn.saved?.any fun snapshot =>
        decide (snapshot.status = .running) && strictWorkflow.haltedBy snapshot) = true := by
    decide +kernel
  have registered : strictEngine.workflows.get (.str "letters") = .ok strictWorkflow := by
    have found : (Value.str "letters").same (.str "letters") = true := by decide +kernel
    simp only [Workflows.get, strictEngine, Value.hashable, Value.unhashable?, Table.find?, found,
      if_true]
    rfl
  obtain ⟨turn, member, halts⟩ := List.any_eq_true.mp halts
  cases saved : turn.saved? with
  | none =>
    rw [saved] at halts
    cases halts
  | some snapshot =>
    rw [saved, Option.any_some, Bool.and_eq_true, decide_eq_true_eq] at halts
    obtain ⟨running, halts⟩ := halts
    exact ⟨turn, member, snapshot, saved, running, halts,
      (Engine.snapshot_halts_iff_halted registered accepted named course turn member snapshot saved
        running).mp halts⟩

end Letters

end Stepwise
