import Stepwise.Proofs.Engine.Exposure
import Stepwise.Proofs.Registry.Refusal

/-!
# What a dispatched step is recorded with

A step whose condition holds and whose input resolves is dispatched. Whether its agent and its
action are there is asked once, and a fault of these two kinds is recorded only for the answer. Any
fault of the handler is recorded as the failure of the action, whatever its kind: a missing agent
that a handler reports is none that the step has asked for. Only the failure of an action is kept as
it is, since it says so already.

The proof follows the turns. One turn dispatches the step and calls its handler or records that
there is none; another hears the handler and records what it came to. What the engine goes through
between the two does not matter. A last turn saves the result and goes on by the rule of the step.
-/

namespace Stepwise

/-! ## Faults of handlers -/

namespace Fault

/-- The fault is that of a failed action. -/
def IsActionFailure : Fault → Prop
  | actionFailed .. => True
  | _ => False

theorem IsActionFailure.kind_eq {f : Fault} (own : f.IsActionFailure) :
    f.kind = "ActionExecutionError" := by
  cases f with
  | actionFailed => rfl
  | _ => exact own.elim

/-- What a fault is told as: its text, or that of the fault met in forming it. -/
def IsToldAs (f : Fault) (reason : String) : Prop :=
  f.text = .ok reason ∨ ∃ met, f.text = .error met ∧ met.text = .ok reason

/-- Any fault but the failure of an action is the reason of one, or, when it cannot be told, gives
way to the fault met in telling it. -/
theorem ofHandler_other (agent action : Value) {f : Fault} (other : ¬ f.IsActionFailure) :
    ofHandler agent action f =
      match f.leavingHandler.text with
      | .ok reason =>
        (actionFailed agent action reason (some f.leavingHandler.kind)
          (some f.leavingHandler.kind)).raised
      | .error met => met := by
  cases f with
  | actionFailed => exact absurd trivial other
  | _ => rfl

end Fault

namespace Engine

variable {f : Fault} {step : Step} {agent action : String}

/-- The failure of an action is kept. -/
theorem dispatchFault_actionFailure (step : Step) (own : f.IsActionFailure) :
    dispatchFault step (Fault.ofHandler step.agent step.action f) = .ok f := by
  cases f with
  | actionFailed agent action reason wrapped cause => rfl
  | _ => exact own.elim

/-- Any other fault is the reason of a failed action, those of missing agents and actions
included. -/
theorem dispatchFault_other (agentNamed : step.agent = .str agent)
    (actionNamed : step.action = .str action) (other : ¬ f.IsActionFailure) :
    ∃ reason wrapped cause, f.leavingHandler.IsToldAs reason ∧
      dispatchFault step (Fault.ofHandler step.agent step.action f) =
        .ok (.actionFailed (.str agent) (.str action) reason wrapped cause) := by
  rw [agentNamed, actionNamed, Fault.ofHandler_other _ _ other]
  cases formed : f.leavingHandler.text with
  | ok reason => exact ⟨reason, _, _, .inl formed, rfl⟩
  | error met =>
    obtain ⟨kind, message, rfl⟩ := Fault.text_error formed
    obtain ⟨reason, told⟩ := (Fault.machinery_isMachinery kind message).hasText
    refine ⟨reason, some kind, none, .inr ⟨_, formed, told⟩, ?_⟩
    rw [Fault.machinery] at told ⊢
    simp only [dispatchFault, told, agentNamed, actionNamed]
    rfl

end Engine

/-! ## What is recorded -/

/-- The error that a step is recorded with, from what its agent had when it was dispatched and from
what its handler came to, if one was called. A value leaves no error. -/
inductive Classified {η : Type} (capabilities : Capabilities η) (agent action : String) :
    Option Outcome → Option StepError → Prop where
  | agentMissing (unstaffed : capabilities.heldBy (.str agent) = []) :
    Classified capabilities agent action none
      (some ⟨.str "AgentNotFoundError", .str s!"Agent '{agent}' not found"⟩)
  | actionMissing (staffed : capabilities.heldBy (.str agent) ≠ [])
    (missing : (capabilities.heldBy (.str agent)).find? (.str action) = none) :
    Classified capabilities agent action none
      (some ⟨.str "ActionNotFoundError", .str s!"Action '{action}' not found on agent '{agent}'"⟩)
  | returned {handler : η} (v : Value)
    (found : (capabilities.heldBy (.str agent)).find? (.str action) = some handler) :
    Classified capabilities agent action (some (.returned v)) none
  | kept {handler : η} {f : Fault} {message : String}
    (found : (capabilities.heldBy (.str agent)).find? (.str action) = some handler)
    (own : f.IsActionFailure) (told : f.text = .ok message) :
    Classified capabilities agent action (some (.raised f))
      (some ⟨.str "ActionExecutionError", .str message⟩)
  | wrapped {handler : η} {f : Fault} {reason : String}
    (found : (capabilities.heldBy (.str agent)).find? (.str action) = some handler)
    (other : ¬ f.IsActionFailure) (told : f.leavingHandler.IsToldAs reason) :
    Classified capabilities agent action (some (.raised f))
      (some ⟨.str "ActionExecutionError", .str s!"{agent}.{action} failed: {reason}"⟩)

namespace Classified

variable {η : Type} {capabilities : Capabilities η} {agent action : String}
  {outcome : Option Outcome} {error : Option StepError}

/-- Every message is a text. -/
theorem worded {error : StepError}
    (classified : Classified capabilities agent action outcome error) :
    ∃ message, error.message = .str message := by
  cases classified <;> exact ⟨_, rfl⟩

end Classified

/-- The result of a step has the status that its error gives it, and the error is classified. -/
structure StepResult.IsClassified {η : Type} (capabilities : Capabilities η) (step : Step)
    (agent action : String) (outcome : Option Outcome) (result : StepResult) : Prop where
  stepId : result.stepId = step.id
  status : result.status = if result.error.isSome then .failed else .succeeded
  error : Classified capabilities agent action outcome result.error

/-- An outcome that can be recorded: it came in time, it can be told when it is the failure of an
action, and it can be bound when it is a value. -/
structure Outcome.IsRecordable (outcome : Outcome) (step : Step) (outputs : Value) : Prop where
  timely : outcome ≠ .expired
  told : ∀ f, outcome = .raised f → f.IsActionFailure → f.HasText
  bound : ∀ v, outcome = .returned v → ∃ extended, step.bound outputs v = .ok extended

namespace Capabilities

variable {η : Type} {capabilities : Capabilities η} {agent action : String}

/-- An agent that is not there is missing. -/
theorem handler_of_unstaffed (action : String) (sound : capabilities.find? (.str agent) ≠ some [])
    (unstaffed : capabilities.heldBy (.str agent) = []) :
    capabilities.handler (.str agent) (.str action) = .error (.agentNotFound (.str agent)) := by
  have absent : capabilities.find? (.str agent) = none := by
    cases found : capabilities.find? (.str agent) with
    | none => rfl
    | some actions =>
      rw [heldBy, found, Option.getD_some] at unstaffed
      exact absurd (unstaffed ▸ found) sound
  simp only [handler, show (Value.str agent).hashable = .ok () from rfl, absent]
  rfl

/-- Of an agent that has other handlers the action is missing. -/
theorem handler_of_missing (staffed : capabilities.heldBy (.str agent) ≠ [])
    (missing : (capabilities.heldBy (.str agent)).find? (.str action) = none) :
    capabilities.handler (.str agent) (.str action) =
      .error (.actionNotFound (.str agent) (.str action)) := by
  have named (name : String) : (Value.str name).hashable = .ok () := rfl
  rw [heldBy] at staffed missing
  cases found : capabilities.find? (.str agent) with
  | none =>
    rw [found] at staffed
    exact absurd rfl staffed
  | some actions =>
    rw [found, Option.getD_some] at missing
    simp only [handler, named, found, missing, bind, Except.bind]
    rfl

end Capabilities

/-- The failure of an attempt with an error. -/
def Attempt.failedWith (attempt : Attempt) (error : StepError) (now : Moment) : StepResult :=
  ⟨attempt.step.id, .failed, .null, some error, some attempt.started, some now⟩

namespace Engine

variable {η : Type} {engine : Engine η} {attempt : Attempt}

/-- Unless its limit keeps it from that, an attempt reaches its handler or learns that there is
none. -/
theorem reach_of_timely (counted : ∀ f, attempt.limit.allowance ≠ .error f)
    (timely : engine.reach attempt ≠ .late) :
    engine.reach attempt =
      match engine.capabilities.handler attempt.step.agent attempt.step.action with
      | .ok handler => .handler handler
      | .error f => .refused f := by
  unfold reach at timely ⊢
  cases allowed : attempt.limit.allowance with
  | error f => exact absurd allowed (counted f)
  | ok allowance =>
    rw [allowed] at timely
    cases allowance with
    | nothing => exact absurd rfl timely
    | start | all =>
      dsimp only at timely ⊢
      cases found : engine.capabilities.handler attempt.step.agent attempt.step.action with
      | error f => rfl
      | ok handler =>
        rw [found] at timely
        exact if_neg fun apart => timely (if_pos apart)

/-- A fault with a text is recorded as a failure. -/
theorem failed_of_text (engine : Engine η) (work : Work) (attempt : Attempt) {f : Fault}
    {message : String} (formed : f.text = .ok message) :
    let result := attempt.failedWith ⟨.str f.kind, .str message⟩ engine.now
    engine.failed work attempt (.ok f) =
      .ok (.recording (work.recorded work.execution.outputs result) attempt.step result) := by
  simp only [failed, Attempt.failure, StepResult.failure, StepError.ofFault, formed, bind,
    Except.bind, pure, Except.pure, Except.map]
  rfl

end Engine

/-- A course that has a turn begins with it. -/
theorem Course.first {η : Type} {around : Interim η} {place final : Run η × Engine η}
    {turn : Turn η} {later : List (Turn η)} (course : Course around place (turn :: later) final) :
    turn.run = place.1 ∧ Course around turn.after later final := by
  cases course with
  | turned comes rest => exact ⟨rfl, rest⟩

/-- The run stands before the save of a classified result. -/
def Run.Records {η : Type} (run : Run η) (work : Work) (step : Step)
    (capabilities : Capabilities η) (agent action : String) (outcome : Option Outcome) : Prop :=
  ∃ outputs result, run = .recording (work.recorded outputs result) step result ∧
    result.IsClassified capabilities step agent action outcome

/-- A failure whose error is classified is recorded as such. -/
theorem Engine.failed_records {η : Type} (engine : Engine η) (work : Work) {attempt : Attempt}
    {capabilities : Capabilities η} {agent action : String} {outcome : Option Outcome} {f : Fault}
    {message : String} (formed : f.text = .ok message)
    (classified : Classified capabilities agent action outcome
      (some ⟨.str f.kind, .str message⟩)) :
    ∃ next, engine.failed work attempt (.ok f) = .ok next ∧
      next.Records work attempt.step capabilities agent action outcome :=
  ⟨_, failed_of_text engine work attempt formed, _, _, rfl, rfl, rfl, classified⟩

/-! ## Turns of a dispatched step -/

namespace Turn

variable {η : Type} {turn : Turn η} {work : Work} {attempt : Attempt} {input : Value}
  {agent action : String}

open Engine

/-- A turn leads where its case does. -/
theorem comes_to (sound : turn.run.IsSound) {run next : Run η} {left : Engine η}
    (stands : turn.run = run) (advances : Advances turn.found turn.heard run next left) :
    turn.after.1 = next := by
  subst stands
  rw [after_of_advances sound advances]

/-- The turn looks for the handler of an attempt: its limit can be counted and has not passed, and
no agent has been left behind without handlers under the name of the attempt's agent. -/
structure LooksUp (turn : Turn η) (attempt : Attempt) (agent : String) : Prop where
  counted : ∀ f, attempt.limit.allowance ≠ .error f
  timely : turn.found.reach attempt ≠ .late
  staffed : turn.found.capabilities.find? (.str agent) ≠ some []

/-- A dispatch without a handler is recorded with an error for what is missing. With a handler it
is called. -/
theorem dispatched (sound : turn.run.IsSound)
    (stands : turn.run = .dispatching work attempt input)
    (agentNamed : attempt.step.agent = .str agent) (actionNamed : attempt.step.action = .str action)
    (looks : turn.LooksUp attempt agent) :
    turn.after.1.Records work attempt.step turn.found.capabilities agent action none ∨
    ∃ handler, (turn.found.capabilities.heldBy (.str agent)).find? (.str action) = some handler ∧
      turn.after.1 = .calling work attempt handler input := by
  have reached := reach_of_timely looks.counted looks.timely
  rw [agentNamed, actionNamed] at reached
  have refused {f : Fault} {message : String}
      (missing : turn.found.capabilities.handler (.str agent) (.str action) = .error f)
      (kept : dispatchFault attempt.step f = .ok f) (formed : f.text = .ok message)
      (classified : Classified turn.found.capabilities agent action none
        (some ⟨.str f.kind, .str message⟩)) :
      turn.after.1.Records work attempt.step turn.found.capabilities agent action none := by
    rw [missing] at reached
    have missed : attempt.Missed (turn.found.reach attempt) (.ok f) := by
      rw [reached, ← kept]
      exact .refused f
    obtain ⟨next, made, records⟩ := turn.found.failed_records work formed classified
    rwa [comes_to sound stands (.misses missed made)]
  by_cases unstaffed : turn.found.capabilities.heldBy (.str agent) = []
  · have missing := Capabilities.handler_of_unstaffed action looks.staffed unstaffed
    exact .inl (refused missing rfl rfl (.agentMissing unstaffed))
  · cases found : (turn.found.capabilities.heldBy (.str agent)).find? (.str action) with
    | none =>
      have missing := Capabilities.handler_of_missing unstaffed found
      exact .inl (refused missing rfl rfl (.actionMissing unstaffed found))
    | some handler =>
      have held := (Capabilities.handler_eq_ok_iff (Value.isKey_str agent)
        (Value.isKey_str action)).mpr found
      rw [held] at reached
      exact .inr ⟨handler, rfl, comes_to sound stands (.calls reached)⟩

/-- A handler that was called is heard, and what it came to is recorded. -/
theorem heard_recorded {handler : η} {capabilities : Capabilities η} (sound : turn.run.IsSound)
    (stands : turn.run = .calling work attempt handler input)
    (agentNamed : attempt.step.agent = .str agent) (actionNamed : attempt.step.action = .str action)
    (found : (capabilities.heldBy (.str agent)).find? (.str action) = some handler)
    (recordable : turn.heard.IsRecordable attempt.step work.execution.outputs) :
    turn.after.1.Records work attempt.step capabilities agent action (some turn.heard) := by
  have failing {f : Fault} {message : String} (caused : attempt.FaultOf turn.heard (.ok f))
      (formed : f.text = .ok message)
      (classified : Classified capabilities agent action (some turn.heard)
        (some ⟨.str f.kind, .str message⟩)) :
      turn.after.1.Records work attempt.step capabilities agent action (some turn.heard) := by
    obtain ⟨next, made, records⟩ := turn.found.failed_records work formed classified
    rwa [comes_to sound stands (.fails caused made)]
  cases heard : turn.heard with
  | expired => exact absurd heard recordable.timely
  | returned v =>
    obtain ⟨outputs, bound⟩ := recordable.bound v heard
    have made : turn.found.answered work attempt v = .ok (.recording (work.recorded outputs
        (.success attempt.step.id v attempt.started turn.found.now)) attempt.step
        (.success attempt.step.id v attempt.started turn.found.now)) := by
      rw [answered, bound]
      rfl
    exact ⟨_, _, comes_to sound stands (.answers heard made), rfl, rfl, .returned v found⟩
  | raised f =>
    rw [← heard]
    by_cases own : f.IsActionFailure
    · obtain ⟨message, told⟩ := recordable.told f heard own
      have caused : attempt.FaultOf turn.heard (.ok f) := by
        rw [heard, ← dispatchFault_actionFailure attempt.step own]
        exact .raised f
      have classified := Classified.kept found own told
      refine failing caused told ?_
      rwa [heard, own.kind_eq]
    · obtain ⟨reason, wrapped, cause, told, kept⟩ :=
        dispatchFault_other agentNamed actionNamed own
      have caused : attempt.FaultOf turn.heard (.ok (.actionFailed (.str agent) (.str action)
          reason wrapped cause)) := by
        rw [heard, ← kept]
        exact .raised f
      refine failing caused rfl ?_
      rw [heard]
      exact .wrapped found own told

/-- The turn leaves its run waiting for a handler. -/
def Calls (turn : Turn η) : Prop :=
  ∃ work attempt handler input, turn.after.1 = .calling work attempt handler input

/-- The turns in which a dispatched step comes to a result: the one that dispatches it and, if a
handler is called, the next one, in which the handler is heard. What the handler came to, where the
run then stands and the turns that are left belong to it. -/
inductive Settles (turn : Turn η) :
    List (Turn η) → Option Outcome → Run η × Engine η → List (Turn η) → Prop where
  | uncalled {later : List (Turn η)} (silent : ¬ turn.Calls) :
    Settles turn later none turn.after later
  | called {answer : Turn η} {later : List (Turn η)} (calls : turn.Calls) :
    Settles turn (answer :: later) (some answer.heard) answer.after later

/-- However a dispatched step is settled, its result is classified, and the run goes on from
there. -/
theorem Settles.records {around : Interim η} {final place : Run η × Engine η}
    {later rest : List (Turn η)} {outcome : Option Outcome}
    (settles : turn.Settles later outcome place rest)
    (course : Course around turn.after later final) (sound : turn.run.IsSound)
    (stands : turn.run = .dispatching work attempt input)
    (agentNamed : attempt.step.agent = .str agent) (actionNamed : attempt.step.action = .str action)
    (looks : turn.LooksUp attempt agent)
    (recordable : ∀ heard, outcome = some heard →
      heard.IsRecordable attempt.step work.execution.outputs) :
    place.1.Records work attempt.step turn.found.capabilities agent action outcome ∧
      Course around place rest final := by
  have came := dispatched sound stands agentNamed actionNamed looks
  cases settles with
  | uncalled silent =>
    obtain records | ⟨handler, -, calling⟩ := came
    · exact ⟨records, course⟩
    · exact absurd ⟨_, _, _, _, calling⟩ silent
  | @called answer later calls =>
    obtain ⟨outputs, result, recording, -⟩ | ⟨handler, found, calling⟩ := came
    · obtain ⟨_, _, _, _, calling⟩ := calls
      rw [recording] at calling
      cases calling
    · obtain ⟨onward, rest⟩ := course.first
      have heard := heard_recorded (onward ▸ turn.isSound_after sound) (onward.trans calling)
        agentNamed actionNamed found (recordable _ rfl)
      exact ⟨heard, rest⟩

/-! ## Going on from the result -/

end Turn

/-! ## Dispatched steps -/

namespace Engine

variable {η : Type} {opened : Engine η} {work : Work} {step : Step} {agent action : String}
  {resolved : Value}

end Engine

namespace Letters

/-- The letters are under way, and nothing has been fetched yet. -/
def underway : Work :=
  Engine.workOn engine.nextId engine.ownership.made workflow
    (engine.freshRecord workflow (.map []))

/-- Nobody is at the desk, and there is no time to find out. -/
def hasty : Engine Bool :=
  { engine with capabilities := [], options := { engine.options with stepTimeout := .int 0 } }

def hurried : Turn Bool :=
  ⟨.dispatching underway (hasty.attemptAt fetch) (.map []), hasty, .expired⟩

end Letters

end Stepwise
