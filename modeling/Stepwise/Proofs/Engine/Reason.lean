import Stepwise.Proofs.Engine.History

/-!
# What a stopped run says

A record that a call returns as canceled says before which step it was canceled. A record that is
returned as failed says which step failed and why, if the call has recorded the failure itself. The
reason is put into the record after the failure has been saved, though. So if the call that recorded
the failure breaks off before its last save, the call that takes the record up finds the failure,
stops at once, and returns a record that is failed and says nothing.
-/

namespace Stepwise

variable {η : Type}

namespace Execution

/-- The record says that it was canceled before the step in the place after its results. -/
def TellsCanceled (steps : List Step) (execution : Execution) : Prop :=
  ∃ step id, steps[execution.results.length]? = some step ∧ step.id.text = .ok id ∧
    execution.error = .str s!"Canceled before step '{id}'"

/-- The last result of the record is the failure of a step that stops the run, and the record says
so. -/
def TellsFailed (steps : List Step) (execution : Execution) : Prop :=
  ∃ step result error id message, execution.results.getLast? = some result ∧
    steps[execution.results.length - 1]? = some step ∧ result.status = .failed ∧
    result.error = some error ∧ step.stopsOnFailure = true ∧ step.id.text = .ok id ∧
    error.message.text = .ok message ∧ execution.error = .str s!"Step '{id}' failed: {message}"

/-- The last result of the record is a failure, and the record says nothing. -/
def IsSilent (execution : Execution) : Prop :=
  execution.error = .null ∧
    ∃ result, execution.results.getLast? = some result ∧ result.status = .failed

/-- What a record says that has come to its end in a call, given whether the call has recorded any
results. -/
structure Explains (steps : List Step) (recorded : Bool) (execution : Execution) : Prop where
  canceled : execution.status = .canceled → execution.TellsCanceled steps
  failed : execution.status = .failed → recorded = true → execution.TellsFailed steps
  silent : execution.status = .failed → recorded = false → execution.IsSilent

end Execution

/-- What a run will have to say, given whether its call has recorded any results. A run under way
has not been halted; one that is about to save a result has it last, in the place of its step. -/
def Run.Explains (recorded : Bool) : Run η → Prop
  | .loading _ => recorded = false
  | .waiting _ => recorded = false
  | .opening _ => recorded = false
  | .dispatching work _ _ => work.halted = false
  | .calling work _ _ _ => work.halted = false
  | .recording work step result => work.halted = false ∧
      work.execution.results.getLast? = some result ∧
      work.workflow.steps[work.execution.results.length - 1]? = some step
  | .closing work => work.execution.Explains work.workflow.steps recorded
  | .finished _ => True

/-- The turn is about to save a result. -/
def Turn.records (turn : Turn η) : Bool :=
  match turn.run with
  | .recording _ _ _ => true
  | _ => false

namespace Work

variable {work : Work} {step : Step} {later : List Step} {recorded : Bool}

theorem IsPlaced.explains (placed : work.IsPlaced) (left : work.remaining = step :: later)
    (unhalted : work.halted = false) (outputs : Value) (result : StepResult) :
    (Run.recording (η := η) (work.recorded outputs result) step result).Explains recorded := by
  refine ⟨unhalted, ?_, ?_⟩
  · simp [Work.recorded]
  · simpa [Work.recorded] using placed.next left

end Work

namespace Engine

variable {engine : Engine η} {work settled : Work} {next : Run η} {recorded : Bool}

/-- A run goes on from a save knowing why it will have stopped, if it knows why it is halted. -/
theorem Goes.explains (goes : engine.Goes work next) (placed : work.IsPlaced)
    (told : work.halted = true → recorded = true → work.execution.TellsFailed work.workflow.steps)
    (silent : work.halted = true → recorded = false → work.execution.IsSilent) :
    next.Explains recorded := by
  cases goes with
  | ended ends =>
    obtain ⟨uncanceled, halts⟩ := work.execution.finalStatus_cases work.halted
    exact ⟨fun canceled => absurd canceled uncanceled, fun failed => told (halts failed),
      fun failed => silent (halts failed)⟩
  | @stopped step later id left unhalted asked named =>
    exact ⟨fun _ => ⟨step, id, placed.next left, named, rfl⟩, nofun, nofun⟩
  | @begins step later outset left unhalted unasked comes =>
    cases outset with
    | sent input => exact unhalted
    | settled status error => exact placed.explains left unhalted _ _

/-- A step whose failure halts the run is named in the record, with the reason. -/
theorem settle_explains {step : Step} {result : StepResult} (unhalted : work.halted = false)
    (last : work.execution.results.getLast? = some result)
    (there : work.workflow.steps[work.execution.results.length - 1]? = some step)
    (meant : settle work step result = .ok settled) (halted : settled.halted = true) :
    settled.execution.TellsFailed settled.workflow.steps := by
  obtain rfl | ⟨error, id, message, failed, stated, stops, named, worded, rfl⟩ :=
    settle_cases meant
  · rw [unhalted] at halted
    cases halted
  · exact ⟨step, result, error, id, message, last, there, failed, stated, stops, named, worded,
      rfl⟩

/-- A run that finds itself halted has a failure last. -/
theorem isSilent_of_halted {workflow : Workflow} {execution : Execution}
    (halted : workflow.haltedBy execution = true) (plain : execution.error = .null) :
    execution.IsSilent := by
  unfold Workflow.haltedBy at halted
  split at halted
  · cases halted
  · rename_i last ends
    simp only [Bool.and_eq_true, decide_eq_true_eq] at halted
    exact ⟨plain, last, ends, halted.1⟩

end Engine

/-- A turn that saves leaves a run that knows why it will have stopped. -/
theorem Advances.explains_of_saving {id : String} {found left : Engine η} {heard : Outcome}
    {run next : Run η} {work : Work} {kept : List Execution} {recorded : Bool}
    (advances : Advances found heard run next left) (about : run.IsAbout id)
    (stands : run.Chronicled kept) (explains : run.Explains recorded)
    (saving : run.saving? = some work) :
    next.Explains (recorded || Turn.records (η := η) ⟨run, found, heard⟩) := by
  cases advances with
  | @opens work next left saved goes =>
    obtain ⟨-, placed⟩ := about.named work rfl
    have unrecorded : recorded = false := explains
    rw [unrecorded]
    refine goes.explains placed nofun fun halted _ => ?_
    exact Engine.isSilent_of_halted halted stands.1
  | @records work settled step result next left saved meant goes =>
    obtain ⟨-, placed⟩ := about.named work rfl
    obtain ⟨unhalted, last, there⟩ := explains
    have onward := Engine.settle_placed meant placed
    have told := Engine.settle_explains unhalted last there meant
    exact goes.explains onward (fun halted _ => told halted) (by simp [Turn.records])
  | closes saved => trivial
  | _ => cases saving

theorem Advances.explains_of_unsaving {id : String} {found left : Engine η} {heard : Outcome}
    {run next : Run η} {recorded : Bool} (advances : Advances found heard run next left)
    (sound : run.IsSound) (about : run.IsAbout id) (explains : run.Explains recorded)
    (unsaving : run.saving? = none) : next.Explains recorded := by
  cases advances with
  | waits held => exact explains
  | enters free => exact explains
  | calls reached => exact explains
  | @misses work attempt input fault next missed made =>
    obtain ⟨-, placed⟩ := about.named work rfl
    obtain ⟨-, later, remaining⟩ := sound
    obtain ⟨result, -, rfl⟩ := Engine.failed_ok made
    exact placed.explains remaining explains _ _
  | @answers work attempt handler input v next returned made =>
    obtain ⟨-, placed⟩ := about.named work rfl
    obtain ⟨-, later, remaining⟩ := sound
    obtain ⟨outputs, -, rfl⟩ := Engine.answered_ok made
    exact placed.explains remaining explains _ _
  | @fails work attempt handler input fault next caused made =>
    obtain ⟨-, placed⟩ := about.named work rfl
    obtain ⟨-, later, remaining⟩ := sound
    obtain ⟨result, -, rfl⟩ := Engine.failed_ok made
    exact placed.explains remaining explains _ _
  | rests result => exact explains
  | _ => cases unsaving

/-- A run returns the record that it has closed. -/
theorem Advances.closing_of_returned {found left : Engine η} {heard : Outcome} {run : Run η}
    {execution : Execution} (advances : Advances found heard run (.finished (.ok execution)) left)
    (sound : run.IsSound) (onward : run.result? = none) :
    ∃ work, run = .closing work ∧ work.execution = execution := by
  obtain ⟨work, present⟩ := sound.work onward
  obtain ⟨later, comes, -⟩ | ⟨closing, ended⟩ := advances.continues present
  · cases comes
  · cases ended
    exact ⟨work, closing, rfl⟩

/-- What the turns of a call have come to: the run knows what it will have to say, and a record that
the call has returned says it. -/
structure Turn.Reasons (past : List (Turn η)) (run : Run η) : Prop where
  explains : run.Explains (past.any Turn.records)
  returned : ∀ execution, run = .finished (.ok execution) → ∃ turn ∈ past, ∃ work,
    turn.run = .closing work ∧ work.execution = execution ∧
      execution.Explains work.workflow.steps (past.any Turn.records)

namespace Turn

variable {id : String} {past : List (Turn η)} {turn : Turn η} {left : Engine η}
  {kept : List Execution}

theorem any_records_concat (past : List (Turn η)) (turn : Turn η) :
    (past ++ [turn]).any records = (past.any records || turn.records) := by
  simp

theorem records_of_unsaving (unsaving : turn.run.saving? = none) : turn.records = false := by
  unfold records
  split
  · rename_i recording
    rw [recording] at unsaving
    cases unsaving
  · rfl

/-- A call that has recorded nothing comes to the lock of its record. -/
theorem reasons_of_entering (unrecorded : past.any records = false) (engine : Engine η)
    (work : Work) : Reasons past (engine.entering work).1 :=
  Engine.entering_holds (Reasons past) ⟨unrecorded, nofun⟩ ⟨unrecorded, nofun⟩ engine

/-- A call that loads has recorded nothing. -/
theorem reasons_of_loading {claimed : Value} (loading : turn.run = .loading claimed)
    (explains : turn.run.Explains (past.any records)) : Reasons (past ++ [turn]) turn.after.1 := by
  have unrecorded : (past ++ [turn]).any records = false := by
    rw [loading] at explains
    rw [any_records_concat, explains, records_of_unsaving (by rw [loading]; rfl), Bool.or_self]
  have loads := turn.after_loads loading
  generalize turn.after = place at loads
  cases loads with
  | refused alike => exact ⟨trivial, nofun⟩
  | @taken record store workflow lock ownership alike loaded running registered locked =>
    exact reasons_of_entering unrecorded _ _

/-- Every turn carries the reasons on. -/
theorem carries_reasons (about : turn.run.IsAbout id) (stands : turn.run.Chronicled kept)
    (reasons : Reasons past turn.run) : Reasons (past ++ [turn]) turn.after.1 := by
  obtain ⟨explains, returned⟩ := reasons
  obtain loading | sound := about.sound
  · exact reasons_of_loading loading explains
  · cases ended : turn.run.result? with
    | some result =>
      have stays := Run.eq_of_result? ended
      have unsaving : turn.run.saving? = none := by rw [stays]; rfl
      have counted : (past ++ [turn]).any records = past.any records := by
        rw [any_records_concat, records_of_unsaving unsaving, Bool.or_false]
      rw [after_of_finished stays]
      refine ⟨trivial, fun execution came => ?_⟩
      obtain ⟨other, member, work, closing, same, told⟩ := returned execution (stays.trans came)
      exact ⟨other, List.mem_append_left _ member, work, closing, same, counted ▸ told⟩
    | none =>
      obtain ⟨f, faults⟩ | advances := turn.advances_or_faults sound
      · rw [faults]
        exact ⟨trivial, nofun⟩
      · refine ⟨?_, ?_⟩
        · rw [any_records_concat]
          cases saving : turn.run.saving? with
          | some work => exact advances.explains_of_saving about stands explains saving
          | none =>
            rw [records_of_unsaving saving, Bool.or_false]
            exact advances.explains_of_unsaving sound about explains saving
        · intro execution comes
          rw [comes] at advances
          obtain ⟨work, closing, same⟩ := advances.closing_of_returned sound ended
          have counted : (past ++ [turn]).any records = past.any records := by
            rw [any_records_concat, records, closing, Bool.or_false]
          rw [closing] at explains
          exact ⟨turn, by simp, work, closing, same, by rw [counted, ← same]; exact explains⟩

end Turn

/-! ## The last call -/

theorem Engine.startExecution_reasons (engine : Engine η) (workflowId input : Value) :
    Turn.Reasons [] (engine.start (startExecution workflowId input)).1 := by
  obtain ⟨f, _, refused⟩ | ⟨-, -, ⟨f, refused⟩ | begun⟩ :=
    startExecution_cases workflowId input engine
  · rw [refused]
    exact ⟨trivial, nofun⟩
  · rw [refused]
    exact ⟨trivial, nofun⟩
  · obtain ⟨workflow, given, lock, ownership, -, -, -, begun⟩ := begun
    rw [begun]
    exact Turn.reasons_of_entering rfl _ _

theorem Engine.startResumption_reasons (engine : Engine η) (id : Value) :
    Turn.Reasons [] (engine.start (startResumption id)).1 := by
  obtain ⟨f, refused⟩ | ⟨-, -, loading⟩ := startResumption_cases id engine
  · rw [refused]
    exact ⟨trivial, nofun⟩
  · rw [loading]
    exact ⟨rfl, nofun⟩

/-- A call goes on with its reasons, whatever was done before it. -/
theorem Course.reasons {id : String} {earlier turns : List (Turn η)}
    {place final : Run η × Engine η} (course : Course (Secluded id) place turns final)
    (chronicles : Turn.Chronicles id earlier place.1 place.2)
    (reasons : Turn.Reasons [] place.1) : Turn.Reasons turns final.1 := by
  have both := course.preserves
    (fun past run left => Turn.Chronicles id (earlier ++ past) run left ∧ Turn.Reasons past run)
    (fun past left turn holds secluded => by
      obtain ⟨chronicles, reasons⟩ := holds
      have onward := Turn.carries_chronicles _ left turn chronicles secluded
      rw [List.append_assoc] at onward
      exact ⟨onward, Turn.carries_reasons chronicles.about chronicles.stands reasons⟩)
    [] ⟨by rwa [List.append_nil], reasons⟩
  exact both.2

namespace History

variable {id : String} {past turns : List (Turn η)} {place : Run η × Engine η}

theorem reasons (history : History id past turns place) : Turn.Reasons turns place.1 := by
  cases history with
  | @executed engine workflowId input turns place issued unsaved course =>
    exact course.reasons (Engine.startExecution_chronicles issued unsaved)
      (engine.startExecution_reasons workflowId input)
  | @resumed past turns more place final engine before between course =>
    exact course.reasons (Engine.startResumption_chronicles before.chronicles between)
      (engine.startResumption_reasons (.str id))

/-- Whatever calls there were before, the store holds the record that a call returns. If the record
was canceled it says before which step. If it failed, its last result is the failure that stopped
the run; then the record says so exactly when it was the last call that recorded the failure. -/
theorem ends_with_reason {execution : Execution} {left : Engine η}
    (history : History id past turns (.finished (.ok execution), left)) :
    left.store.Holds execution.copied ∧
      ∃ turn ∈ turns, ∃ work, turn.run = .closing work ∧ work.execution = execution ∧
        execution.Explains work.workflow.steps (turns.any Turn.records) := by
  obtain ⟨chronicle, stands, -, -⟩ := history.chronicles
  exact ⟨chronicle.held _ stands.1, history.reasons.returned execution rfl⟩

end History

namespace Letters

/-- A step that stops the run when it fails. -/
def strict : Step := { fetch with continueOnError := .bool false }

def strictWorkflow : Workflow := { workflow with steps := [strict] }

/-- The letters are fetched or given up. -/
def strictEngine : Engine Bool :=
  { engine with workflows := ⟨[(.str "letters", strictWorkflow)], 0⟩ }

def strictStarted : Run Bool × Engine Bool :=
  strictEngine.start (Engine.startExecution (.str "letters") .null)

/-- Fetching fails, and the record that comes back says so. -/
theorem told_of_failure : ∃ (turns : List (Turn Bool)) (execution : Execution) (left : Engine Bool),
    History "exec-1" [] turns (.finished (.ok execution), left) ∧
    left.store.Holds execution.copied ∧
    ∃ turn ∈ turns, ∃ work, turn.run = .closing work ∧
      execution.TellsFailed work.workflow.steps := by
  have issued : strictEngine.nextId = .str "exec-1" := rfl
  have lacks : strictEngine.store.Lacks (.str "exec-1") := rfl
  have history : History "exec-1" [] (Engine.turnsOf behave 5 strictStarted.1 strictStarted.2)
      (Engine.moves behave 5 strictStarted.1 strictStarted.2) :=
    .executed issued lacks (course_of_moves "exec-1" 5 (by decide +kernel))
  have ends : ((Engine.moves behave 5 strictStarted.1 strictStarted.2).1.record?.map
      fun execution => execution.status) = some .failed := by
    decide +kernel
  have recorded : (Engine.turnsOf behave 5 strictStarted.1 strictStarted.2).any Turn.records =
      true := by
    decide +kernel
  obtain ⟨execution, came, failed⟩ := Option.map_eq_some_iff.mp ends
  have arrived : Engine.moves behave 5 strictStarted.1 strictStarted.2 =
      (.finished (.ok execution), (Engine.moves behave 5 strictStarted.1 strictStarted.2).2) :=
    Prod.ext (Run.eq_of_record? came) rfl
  rw [arrived] at history
  obtain ⟨holds, turn, member, work, closing, -, explains⟩ := History.ends_with_reason history
  exact ⟨_, execution, _, history, holds, turn, member, work, closing,
    explains.failed failed recorded⟩

/-- A store that fails when it is to keep the end of the execution. -/
def strictUnreliable : Engine Bool :=
  { strictEngine with
    store := { engine.store with
      plan := fun call number =>
        if call = .save ∧ number = 3 then some (.valueError "full") else none } }

def strictBegun : Run Bool × Engine Bool :=
  strictUnreliable.start (Engine.startExecution (.str "letters") .null)

def strictInterrupted : Run Bool × Engine Bool :=
  Engine.moves behave 5 strictBegun.1 strictBegun.2

def strictResumed : Run Bool × Engine Bool :=
  strictInterrupted.2.start (Engine.startResumption (.str "exec-1"))

/-- The call that takes the failed execution up returns a record that is failed and has no error. -/
theorem failed_without_reason : ∃ (past turns : List (Turn Bool)) (execution : Execution)
    (left : Engine Bool), History "exec-1" past turns (.finished (.ok execution), left) ∧
    execution.status = .failed ∧ execution.error = .null := by
  have issued : strictUnreliable.nextId = .str "exec-1" := rfl
  have lacks : strictUnreliable.store.Lacks (.str "exec-1") := rfl
  have first : History "exec-1" [] _ strictInterrupted :=
    .executed issued lacks (course_of_moves "exec-1" 5 (by decide +kernel))
  have history : History "exec-1" _ (Engine.turnsOf behave 3 strictResumed.1 strictResumed.2)
      (Engine.moves behave 3 strictResumed.1 strictResumed.2) :=
    .resumed first (.refl _ _) (course_of_moves "exec-1" 3 (by decide +kernel))
  have ends : ((Engine.moves behave 3 strictResumed.1 strictResumed.2).1.record?.map
      fun execution => (execution.status, execution.error.isNull)) = some (.failed, true) := by
    decide +kernel
  obtain ⟨execution, came, last⟩ := Option.map_eq_some_iff.mp ends
  obtain ⟨failed, silent⟩ := Prod.mk.inj last
  have arrived : Engine.moves behave 3 strictResumed.1 strictResumed.2 =
      (.finished (.ok execution), (Engine.moves behave 3 strictResumed.1 strictResumed.2).2) :=
    Prod.ext (Run.eq_of_record? came) rfl
  rw [arrived] at history
  refine ⟨_, _, execution, _, history, failed, ?_⟩
  cases error : execution.error with
  | null => rfl
  | _ => simp [error, Value.isNull] at silent

end Letters

end Stepwise
