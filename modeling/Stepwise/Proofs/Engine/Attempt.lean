import Stepwise.Proofs.Engine.Outset
import Stepwise.Proofs.Fault.Text

/-!
# How an attempt ends

An attempt is dispatched to the handler of its action, unless its limit leaves no time or there is
no such handler. What it comes to is a value, which is bound as the step says, or a fault, which is
recorded. Both ways a result is added to the record, and only the call of the handler leaves a
trace. The cases in which nothing can be recorded are said here too: they are those in which the
fault to be recorded has no text, or the name of the output is no key.
-/

namespace Stepwise

/-- Where the dispatch of an attempt leads: to a handler, to a fault, or past its limit. -/
inductive Reach (η : Type) where
  | handler (h : η)
  | refused (f : Fault)
  | late

/-- The outputs after a step that came to a value. -/
def Step.bound (step : Step) (outputs v : Value) : Except Fault Value :=
  if step.output.truthy then outputs.assign step.output v else .ok outputs

/-- The result of an attempt that comes to a fault. -/
def Attempt.failure (attempt : Attempt) (fault : Except Fault Fault) (now : Moment) :
    Except Fault StepResult := do
  let f ← fault
  StepResult.failure attempt.step.id f attempt.started now

/-- A failure has the id of its step and the error of its fault, and no output. -/
theorem Attempt.failure_ok {attempt : Attempt} {fault : Except Fault Fault} {now : Moment}
    {result : StepResult} (made : attempt.failure fault now = .ok result) :
    ∃ f error, fault = .ok f ∧ StepError.ofFault f = .ok error ∧
      result = ⟨attempt.step.id, .failed, .null, some error, some attempt.started, some now⟩ := by
  obtain ⟨f, formed, made⟩ := Result.bind_ok made
  obtain ⟨error, told, made⟩ := Result.bind_ok made
  exact ⟨f, error, formed, told, (Except.ok.inj made).symm⟩

/-- A fault with a text can be recorded. -/
theorem Attempt.failure_of_hasText (attempt : Attempt) {f : Fault} (told : f.HasText)
    (now : Moment) : ∃ result, attempt.failure (.ok f) now = .ok result := by
  obtain ⟨message, formed⟩ := told
  exact ⟨_, by simp [failure, StepResult.failure, StepError.ofFault, formed, bind, Except.bind,
    pure, Except.pure]; rfl⟩

namespace Engine

variable {η : Type}

/-- Where a dispatch leads now. -/
def reach (engine : Engine η) (attempt : Attempt) : Reach η :=
  match attempt.limit.allowance with
  | .error f => .refused f
  | .ok .nothing => .late
  | .ok allowance =>
    match engine.capabilities.handler attempt.step.agent attempt.step.action with
    | .error f => .refused f
    | .ok handler =>
      if allowance ≠ .all ∧ engine.worksApart handler then .late else .handler handler

/-- Where a run stands once an attempt has come to a fault. -/
def failed (engine : Engine η) (work : Work) (attempt : Attempt) (fault : Except Fault Fault) :
    Except Fault (Run η) :=
  (attempt.failure fault engine.now).map fun result =>
    .recording (work.recorded work.execution.outputs result) attempt.step result

/-- Where a run stands once an attempt has come to a value. -/
def answered (engine : Engine η) (work : Work) (attempt : Attempt) (v : Value) :
    Except Fault (Run η) :=
  (attempt.step.bound work.execution.outputs v).map fun outputs =>
    let result := StepResult.success attempt.step.id v attempt.started engine.now
    .recording (work.recorded outputs result) attempt.step result

/-- An attempt that comes to a fault leads to a record with its failure. -/
theorem failed_ok {engine : Engine η} {work : Work} {attempt : Attempt}
    {fault : Except Fault Fault} {next : Run η}
    (made : engine.failed work attempt fault = .ok next) :
    ∃ result, attempt.failure fault engine.now = .ok result ∧
      next = .recording (work.recorded work.execution.outputs result) attempt.step result := by
  obtain ⟨result, recorded, rfl⟩ := Result.map_ok made
  exact ⟨result, recorded, rfl⟩

/-- An attempt that comes to a value leads to a record with its success. -/
theorem answered_ok {engine : Engine η} {work : Work} {attempt : Attempt} {v : Value}
    {next : Run η} (made : engine.answered work attempt v = .ok next) :
    ∃ outputs, attempt.step.bound work.execution.outputs v = .ok outputs ∧
      next = .recording (work.recorded outputs
        (.success attempt.step.id v attempt.started engine.now)) attempt.step
        (.success attempt.step.id v attempt.started engine.now) := by
  obtain ⟨outputs, bound, rfl⟩ := Result.map_ok made
  exact ⟨outputs, bound, rfl⟩

theorem failing_eq {work : Work} (running : work.execution.status = .running) (attempt : Attempt)
    (fault : Except Fault Fault) (engine : Engine η) :
    (lift fault >>= fun f => fail work attempt f).runOn engine =
      (engine.failed work attempt fault, engine) := by
  rw [Effect.runOn_lift_bind]
  cases fault with
  | error met => rfl
  | ok f =>
    simp only [fail_eq running, failed, Attempt.failure, StepResult.failure, bind, Except.bind]
    cases StepError.ofFault f <;> rfl

/-- Dispatching an attempt calls the handler it reaches, and records its failure when it reaches
none. -/
theorem dispatch_eq {work : Work} (running : work.execution.status = .running) (attempt : Attempt)
    (input : Value) (engine : Engine η) :
    (dispatch work attempt input).runOn engine =
      match engine.reach attempt with
      | .handler h =>
        (.ok (.calling work attempt h input),
          engine.record (.called (some work.execution.id) attempt.step.agent attempt.step.action
            h input))
      | .refused f => (engine.failed work attempt (dispatchFault attempt.step f), engine)
      | .late => (engine.failed work attempt (expiry attempt), engine) := by
  have looking (allowance : Allowance) :
      (call allowance (some work.execution.id) attempt.step.agent attempt.step.action
          input).runOn engine =
        match engine.capabilities.handler attempt.step.agent attempt.step.action with
        | .error f => (.error f, engine)
        | .ok handler =>
          if allowance ≠ .all ∧ engine.worksApart handler then (.ok none, engine)
          else (.ok (some handler), engine.record (.called (some work.execution.id)
            attempt.step.agent attempt.step.action handler input)) := by
    rw [call, Effect.runOn_get_bind, Effect.runOn_lift_bind]
    cases engine.capabilities.handler attempt.step.agent attempt.step.action with
    | error f => rfl
    | ok handler =>
      simp only
      split
      · rfl
      · rw [Effect.runOn_modify_bind]
        rfl
  unfold dispatch reach
  cases attempt.limit.allowance with
  | error f => exact failing_eq running attempt _ engine
  | ok allowance =>
    cases allowance with
    | nothing => exact failing_eq running attempt _ engine
    | start | all =>
      simp only [Effect.runOn_attempt_bind, looking]
      cases engine.capabilities.handler attempt.step.agent attempt.step.action with
      | error f => exact failing_eq running attempt _ engine
      | ok handler =>
        simp only
        split
        · exact failing_eq running attempt _ engine
        · rfl

/-- An outcome that is no value is recorded as a failure, and a value is bound. -/
theorem receive_eq {work : Work} (running : work.execution.status = .running) (attempt : Attempt)
    (outcome : Outcome) (engine : Engine η) :
    (receive work attempt outcome).runOn engine =
      (match outcome with
        | .returned v => engine.answered work attempt v
        | .raised f => engine.failed work attempt
          (dispatchFault attempt.step (Fault.ofHandler attempt.step.agent attempt.step.action f))
        | .expired => engine.failed work attempt (expiry attempt), engine) := by
  cases outcome with
  | raised f => exact failing_eq running attempt _ engine
  | expired => exact failing_eq running attempt _ engine
  | returned v =>
    by_cases named : attempt.step.output.truthy = true
    · simp only [receive, answered, Step.bound, named, if_true, Execution.bindOutput,
        Effect.runOn_lift_bind]
      cases work.execution.outputs.assign attempt.step.output v with
      | error f => rfl
      | ok outputs =>
        refine recordResult_eq ?_ attempt.step _ engine
        exact running
    · simp only [receive, answered, Step.bound, named]
      exact recordResult_eq running attempt.step _ engine

end Engine

end Stepwise
