import Stepwise.Engine.Run
import Stepwise.Proofs.Effect

/-!
# How a step begins

Beginning a step reads the record, the clock and the limits of the engine and changes nothing. It
either settles the step at once, by skipping it or by its failure, or leaves it with a resolved
input that is sent to a handler. Which of them happens depends on the step, on the outputs bound
before it and on the input of the run, and on nothing else. Said as a function of these, the
outset of a step can be compared between two runs of one workflow.

A run that goes on after a save ends, stops, or begins its next step. All of it is said by one
relation between the work of the run and where the run stands next.
-/

namespace Stepwise

/-- What the beginning of a step comes to: a result without an output, or an input for its
handler. -/
inductive Outset where
  | settled (status : StepStatus) (error : Option StepError)
  | sent (input : Value)

namespace Step

/-- The outset of a step whose guard lets it through. The announcement of a step names it, so a
step whose names cannot be told gets no further. -/
def preparation (step : Step) (outputs input : Value) : Except Fault Outset :=
  match Template.resolve outputs input step.input with
  | .error f => do
    let _ ← step.id.text
    let error ← StepError.ofFault f
    return .settled .failed (some error)
  | .ok resolved => do
    let _ ← step.id.text
    let _ ← step.agent.text
    let _ ← step.action.text
    return .sent resolved

/-- The outset of a step that its guard keeps back, with the fault of the guard if it met one. -/
def skipping (step : Step) : Option Fault → Except Fault Outset
  | none => do
    let _ ← step.id.text
    return .settled .skipped none
  | some f => do
    let _ ← step.id.text
    let _ ← step.condition.shown
    let error ← StepError.ofFault f
    return .settled .skipped (some error)

/-- The outset of a step. A guard that does not hold skips the step, and so does one that is
refused or refers to something missing; any other fault of a guard is nobody's result. -/
def outset (step : Step) (outputs input : Value) : Except Fault Outset :=
  if step.condition.isNull then step.preparation outputs input
  else
    match Condition.evaluate step.condition outputs input with
    | .ok true => step.preparation outputs input
    | .ok false => step.skipping none
    | .error f => if f.isCondition then step.skipping (some f) else .error f

/-! ## What an outset says about its step -/

theorem preparation_settled {step : Step} {outputs input : Value} {status : StepStatus}
    {error : Option StepError}
    (comes : step.preparation outputs input = .ok (.settled status error)) :
    status = .failed ∧ ∃ f stated, Template.resolve outputs input step.input = .error f ∧
      StepError.ofFault f = .ok stated ∧ error = some stated := by
  unfold preparation at comes
  cases resolved : Template.resolve outputs input step.input with
  | error f =>
    simp only [resolved] at comes
    obtain ⟨_, -, comes⟩ := Result.bind_ok comes
    obtain ⟨stated, made, comes⟩ := Result.bind_ok comes
    cases comes
    exact ⟨rfl, f, stated, rfl, made, rfl⟩
  | ok v =>
    simp only [resolved] at comes
    obtain ⟨_, -, comes⟩ := Result.bind_ok comes
    obtain ⟨_, -, comes⟩ := Result.bind_ok comes
    obtain ⟨_, -, comes⟩ := Result.bind_ok comes
    cases comes

theorem preparation_sent {step : Step} {outputs input resolved : Value}
    (comes : step.preparation outputs input = .ok (.sent resolved)) :
    Template.resolve outputs input step.input = .ok resolved := by
  unfold preparation at comes
  cases made : Template.resolve outputs input step.input with
  | error f =>
    simp only [made] at comes
    obtain ⟨_, -, comes⟩ := Result.bind_ok comes
    obtain ⟨_, -, comes⟩ := Result.bind_ok comes
    cases comes
  | ok v =>
    simp only [made] at comes
    obtain ⟨_, -, comes⟩ := Result.bind_ok comes
    obtain ⟨_, -, comes⟩ := Result.bind_ok comes
    obtain ⟨_, -, comes⟩ := Result.bind_ok comes
    cases comes
    rfl

theorem skipping_ok {step : Step} {f : Option Fault} {outset : Outset}
    (comes : step.skipping f = .ok outset) :
    ∃ error, outset = .settled .skipped error ∧ (f = none → error = none) ∧
      ∀ g, f = some g → ∃ stated, StepError.ofFault g = .ok stated ∧ error = some stated := by
  cases f with
  | none =>
    obtain ⟨_, -, comes⟩ := Result.bind_ok comes
    cases comes
    exact ⟨none, rfl, fun _ => rfl, nofun⟩
  | some f =>
    obtain ⟨_, -, comes⟩ := Result.bind_ok comes
    obtain ⟨_, -, comes⟩ := Result.bind_ok comes
    obtain ⟨stated, made, comes⟩ := Result.bind_ok comes
    cases comes
    refine ⟨some stated, rfl, nofun, ?_⟩
    rintro _ ⟨⟩
    exact ⟨stated, made, rfl⟩

/-- A step is settled by an input that does not resolve, by a guard that does not hold, or by one
that cannot be decided; only the first is a failure, and only the second leaves no error. -/
theorem outset_settled {step : Step} {outputs input : Value} {status : StepStatus}
    {error : Option StepError} (comes : step.outset outputs input = .ok (.settled status error)) :
    (status = .failed ∧ ∃ f stated, Template.resolve outputs input step.input = .error f ∧
        StepError.ofFault f = .ok stated ∧ error = some stated) ∨
      (status = .skipped ∧ error = none) ∨
      (status = .skipped ∧ ∃ f stated,
        Condition.evaluate step.condition outputs input = .error f ∧
          StepError.ofFault f = .ok stated ∧ error = some stated) := by
  unfold outset at comes
  split at comes
  · exact .inl (preparation_settled comes)
  · split at comes
    · exact .inl (preparation_settled comes)
    · obtain ⟨made, same, free, -⟩ := skipping_ok comes
      cases same
      exact .inr (.inl ⟨rfl, free rfl⟩)
    · rename_i f met
      split at comes
      · obtain ⟨made, same, -, told⟩ := skipping_ok comes
        cases same
        obtain ⟨stated, formed, rfl⟩ := told f rfl
        exact .inr (.inr ⟨rfl, f, stated, met, formed, rfl⟩)
      · cases comes

/-- A step is sent to its handler with its resolved input. -/
theorem outset_sent {step : Step} {outputs input resolved : Value}
    (comes : step.outset outputs input = .ok (.sent resolved)) :
    Template.resolve outputs input step.input = .ok resolved := by
  unfold outset at comes
  split at comes
  · exact preparation_sent comes
  · split at comes
    · exact preparation_sent comes
    · obtain ⟨_, same, -⟩ := skipping_ok comes
      cases same
    · split at comes
      · obtain ⟨_, same, -⟩ := skipping_ok comes
        cases same
      · cases comes

end Step

namespace Work

/-- The work with one more result, which is that of the first step without one, and with the
outputs bound by then. -/
def recorded (work : Work) (outputs : Value) (result : StepResult) : Work :=
  { work with
    execution :=
      { work.execution with outputs, results := work.execution.results ++ [result] }
    remaining := work.remaining.drop 1 }

/-- The work whose record has come to its last status. -/
def closed (work : Work) (status : Status) (error : Value) (now : Moment) : Work :=
  { work with execution := { work.execution with status, error, finishedAt := some now } }

end Work

/-- Executions end in statuses that nothing follows. -/
theorem Execution.isTerminal_finalStatus (execution : Execution) (halted canceled : Bool) :
    (execution.finalStatus halted canceled).isTerminal = true := by
  unfold Execution.finalStatus
  repeat' split
  all_goals rfl

/-- Unless it was canceled, a record ends as failed only when the run was halted. -/
theorem Execution.finalStatus_cases (execution : Execution) (halted : Bool) :
    execution.finalStatus halted false ≠ .canceled ∧
      (execution.finalStatus halted false = .failed → halted = true) := by
  unfold Execution.finalStatus
  cases halted with
  | true => simp
  | false =>
    cases execution.hasFailures <;> simp

namespace Engine

variable {η : Type}

/-- The attempt at a step that begins now. -/
def attemptAt (engine : Engine η) (step : Step) : Attempt :=
  ⟨step, engine.now, step.timeout.orElse engine.options.stepTimeout⟩

/-- The result of a step that is settled now. -/
def settledResult (engine : Engine η) (step : Step) (status : StepStatus)
    (error : Option StepError) : StepResult :=
  ⟨step.id, status, .null, error, some engine.now, some engine.now⟩

/-- Where a run stands once its next step has begun. -/
def begun (engine : Engine η) (work : Work) (step : Step) : Outset → Run η
  | .settled status error =>
    let result := engine.settledResult step status error
    .recording (work.recorded work.execution.outputs result) step result
  | .sent input => .dispatching work (engine.attemptAt step) input

/-! ## Recording -/

/-- A record that is running takes every result. -/
theorem recordResult_eq {work : Work} (running : work.execution.status = .running) (step : Step)
    (result : StepResult) (engine : Engine η) :
    (recordResult work step result).runOn engine =
      (.ok (.recording (work.recorded work.execution.outputs result) step result), engine) := by
  have open_ : work.execution.isTerminal = false := by
    rw [Execution.isTerminal, running]
    rfl
  rw [recordResult, Execution.addResult, if_neg (by simp [open_]), Effect.runOn_lift_bind]
  rfl

/-- A failure is recorded with the text of its fault, and only a fault without a text is not. -/
theorem fail_eq {work : Work} (running : work.execution.status = .running) (attempt : Attempt)
    (f : Fault) (engine : Engine η) :
    (fail work attempt f).runOn engine =
      match StepError.ofFault f with
      | .ok error =>
        let result : StepResult := ⟨attempt.step.id, .failed, .null, some error,
          some attempt.started, some engine.now⟩
        (.ok (.recording (work.recorded work.execution.outputs result) attempt.step result),
          engine)
      | .error met => (.error met, engine) := by
  rw [fail, Effect.runOn_get_bind]
  rw [Effect.runOn_lift_bind, StepResult.failure]
  cases StepError.ofFault f with
  | ok error => exact recordResult_eq running attempt.step _ engine
  | error met => rfl

/-! ## Beginning -/

theorem prepare_eq {work : Work} (running : work.execution.status = .running) (step : Step)
    (engine : Engine η) :
    (prepare work step engine.now).runOn engine =
      match step.preparation work.execution.outputs work.execution.input with
      | .ok outset => (.ok (engine.begun work step outset), engine)
      | .error f => (.error f, engine) := by
  rw [prepare, Effect.runOn_get_bind, Step.preparation]
  cases Template.resolve work.execution.outputs work.execution.input step.input with
  | error f =>
    simp only [Effect.runOn_lift_bind, fail_eq running]
    cases step.id.text with
    | error met => rfl
    | ok id =>
      cases StepError.ofFault f <;> rfl
  | ok resolved =>
    simp only [Effect.runOn_lift_bind, Effect.runOn_pure]
    cases step.id.text with
    | error met => rfl
    | ok id =>
      cases step.agent.text with
      | error met => rfl
      | ok agent => cases step.action.text <;> rfl

theorem skip_eq {work : Work} (running : work.execution.status = .running) (step : Step)
    (f : Option Fault) (engine : Engine η) :
    (skip work step engine.now f).runOn engine =
      match step.skipping f with
      | .ok outset => (.ok (engine.begun work step outset), engine)
      | .error met => (.error met, engine) := by
  rw [skip, Effect.runOn_lift_bind]
  cases f with
  | none =>
    rw [Step.skipping]
    cases step.id.text with
    | error met => rfl
    | ok id => exact recordResult_eq running step _ engine
  | some f =>
    rw [Step.skipping]
    cases step.id.text with
    | error met => rfl
    | ok id =>
      simp only [Effect.runOn_get_bind, Effect.runOn_lift_bind, StepResult.skipFor]
      cases step.condition.shown with
      | error met => rfl
      | ok shown =>
        cases StepError.ofFault f with
        | error met => rfl
        | ok error => exact recordResult_eq running step _ engine

/-- Beginning a step carries out its outset and leaves the engine alone. -/
theorem beginStep_eq {work : Work} (running : work.execution.status = .running) (step : Step)
    (engine : Engine η) :
    (beginStep work step).runOn engine =
      match step.outset work.execution.outputs work.execution.input with
      | .ok outset => (.ok (engine.begun work step outset), engine)
      | .error f => (.error f, engine) := by
  rw [beginStep, Effect.runOn_get_bind, Step.outset]
  split
  · exact prepare_eq running step engine
  · cases Condition.evaluate step.condition work.execution.outputs work.execution.input with
    | ok holds =>
      cases holds with
      | true => exact prepare_eq running step engine
      | false => exact skip_eq running step none engine
    | error f =>
      cases condition : f.isCondition with
      | false => simp [condition]
      | true =>
        simp only [condition, if_true]
        exact skip_eq running step (some f) engine

/-! ## Going on after a save -/

/-- Where a run goes on to after a save. It is over when it is halted or no step is left, it is
closed as canceled when it was asked to stop, and otherwise its next step begins. -/
inductive Goes (engine : Engine η) (work : Work) : Run η → Prop where
  | ended (ends : work.remaining = [] ∨ work.halted = true) :
    Goes engine work (.closing (work.closed (work.execution.finalStatus work.halted false)
      work.execution.error engine.now))
  | stopped {step : Step} {later : List Step} {id : String} (left : work.remaining = step :: later)
    (unhalted : work.halted = false)
    (asked : engine.ownership.isCancelRequested work.execution.id = true)
    (told : step.id.text = .ok id) :
    Goes engine work
      (.closing (work.closed .canceled (.str s!"Canceled before step '{id}'") engine.now))
  | begins {step : Step} {later : List Step} {outset : Outset}
    (left : work.remaining = step :: later) (unhalted : work.halted = false)
    (unasked : engine.ownership.isCancelRequested work.execution.id = false)
    (comes : step.outset work.execution.outputs work.execution.input = .ok outset) :
    Goes engine work (engine.begun work step outset)

/-- What keeps a run from going on after a save: its next step cannot be named in the record of a
canceled run, or has no outset. -/
inductive Baulks (engine : Engine η) (work : Work) : Fault → Prop where
  | untold {step : Step} {later : List Step} {f : Fault} (left : work.remaining = step :: later)
    (unhalted : work.halted = false)
    (asked : engine.ownership.isCancelRequested work.execution.id = true)
    (met : step.id.text = .error f) :
    Baulks engine work f
  | unbegun {step : Step} {later : List Step} {f : Fault} (left : work.remaining = step :: later)
    (unhalted : work.halted = false)
    (unasked : engine.ownership.isCancelRequested work.execution.id = false)
    (met : step.outset work.execution.outputs work.execution.input = .error f) :
    Baulks engine work f

/-- A run either goes on or baulks, whatever is left of it. -/
theorem goes_or_baulks (engine : Engine η) (work : Work) :
    (∃ run, engine.Goes work run) ∨ ∃ f, engine.Baulks work f := by
  cases left : work.remaining with
  | nil => exact .inl ⟨_, .ended (.inl left)⟩
  | cons step later =>
    cases unhalted : work.halted with
    | true => exact .inl ⟨_, .ended (.inr unhalted)⟩
    | false =>
      cases asked : engine.ownership.isCancelRequested work.execution.id with
      | true =>
        cases told : step.id.text with
        | ok id => exact .inl ⟨_, .stopped left unhalted asked told⟩
        | error f => exact .inr ⟨f, .untold left unhalted asked told⟩
      | false =>
        cases comes : step.outset work.execution.outputs work.execution.input with
        | ok outset => exact .inl ⟨_, .begins left unhalted asked comes⟩
        | error f => exact .inr ⟨f, .unbegun left unhalted asked comes⟩

/-- A running record may take every status in which executions end. -/
theorem close_eq {work : Work} (running : work.execution.status = .running) (canceled : Bool)
    (engine : Engine η) :
    (close work canceled).runOn engine =
      (.ok (.closing (work.closed (work.execution.finalStatus work.halted canceled)
        work.execution.error engine.now)), engine) := by
  have terminal : (work.execution.finalStatus work.halted canceled).isTerminal = true :=
    work.execution.isTerminal_finalStatus work.halted canceled
  rw [close, Effect.runOn_get_bind, Effect.runOn_lift_bind, Execution.transition,
    if_pos (by rw [running]; exact terminal), if_pos terminal]
  rfl

theorem next_of_goes {work : Work} (running : work.execution.status = .running)
    {engine : Engine η} {run : Run η} (goes : engine.Goes work run) :
    (next work).runOn engine = (.ok run, engine) := by
  cases goes with
  | ended ends =>
    unfold next
    split
    · exact close_eq running false engine
    · rename_i step later left
      have halted : work.halted = true := by simpa [left] using ends
      rw [if_pos halted]
      exact close_eq running false engine
  | @stopped step later id left unhalted asked told =>
    obtain ⟨claimed, lock, workflow, execution, remaining, halted⟩ := work
    subst left unhalted
    simp only [next, Bool.false_eq_true, if_false, Effect.runOn_get_bind, asked, if_true,
      Effect.runOn_lift_bind, told]
    refine close_eq ?_ true engine
    exact running
  | @begins step later outset left unhalted unasked comes =>
    rw [next, left]
    simp only [unhalted, Bool.false_eq_true, if_false, Effect.runOn_get_bind, unasked,
      beginStep_eq running, comes]

theorem next_of_baulks {work : Work} (running : work.execution.status = .running)
    {engine : Engine η} {f : Fault} (baulks : engine.Baulks work f) :
    (next work).runOn engine = (.error f, engine) := by
  cases baulks with
  | untold left unhalted asked met =>
    rw [next, left]
    simp only [unhalted, Bool.false_eq_true, if_false, Effect.runOn_get_bind, asked, if_true,
      Effect.runOn_lift_bind, met]
  | unbegun left unhalted unasked met =>
    rw [next, left]
    simp only [unhalted, Bool.false_eq_true, if_false, Effect.runOn_get_bind, unasked,
      beginStep_eq running, met]

end Engine

end Stepwise
