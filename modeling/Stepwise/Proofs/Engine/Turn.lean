import Stepwise.Engine.Completion
import Stepwise.Proofs.Engine.Attempt
import Stepwise.Proofs.Engine.Saving

/-!
# Turns and courses

A run moves in turns. Between two turns anything may happen to the engine, since other runs, the
host and the handlers use it too; so a turn is given by where the run stands, by the engine as it
is found, and by what is heard from the handler when the run waits for one. A course is a run's
turns one after the other. What may happen in between is a parameter of the course, and it is as
wide as a property allows.

The cases of a turn that meets no fault are listed once. Whatever holds of a run along its course
is then shown case by case, and by one induction over the turns.
-/

namespace Stepwise

/-- A turn of a run on the engine as it is found. What is heard counts only for a run that waits
for its handler. -/
structure Turn (η : Type) where
  run : Run η
  found : Engine η
  heard : Outcome

namespace Turn

variable {η : Type}

/-- Where a turn leaves the run and the engine. -/
def after (turn : Turn η) : Run η × Engine η :=
  match turn.run with
  | .calling .. => turn.found.deliver turn.run turn.heard
  | _ => turn.found.proceed turn.run

/-- What a turn adds to the trace. -/
def events (turn : Turn η) : List (Event η) :=
  turn.after.2.trace.drop turn.found.trace.length

end Turn

/-- What may happen before a turn: from the engine as the run left it to the turn. -/
abbrev Interim (η : Type) := Engine η → Turn η → Prop

/-- The turns that take a run from one place to another. -/
inductive Course {η : Type} (around : Interim η) :
    Run η × Engine η → List (Turn η) → Run η × Engine η → Prop where
  | ended (place : Run η × Engine η) : Course around place [] place
  | turned {left : Engine η} {turn : Turn η} {turns : List (Turn η)} {final : Run η × Engine η}
    (comes : around left turn) (rest : Course around turn.after turns final) :
    Course around (turn.run, left) (turn :: turns) final

namespace Course

variable {η : Type} {around : Interim η} {place final : Run η × Engine η}
  {turns : List (Turn η)}

/-- What every turn carries on holds at the end of a course. The turns taken so far may take part
in it, so that it can speak of what happened on the way. -/
theorem preserves (holds : List (Turn η) → Run η → Engine η → Prop)
    (carried : ∀ past left turn, holds past turn.run left → around left turn →
      holds (past ++ [turn]) turn.after.1 turn.after.2)
    (course : Course around place turns final) :
    ∀ past, holds past place.1 place.2 → holds (past ++ turns) final.1 final.2 := by
  induction course with
  | ended place =>
    intro past begun
    simpa using begun
  | @turned left turn turns final comes rest inductionHypothesis =>
    intro past begun
    have onward := inductionHypothesis (past ++ [turn]) (carried past left turn begun comes)
    simpa using onward

/-- A course may be taken to be among other surroundings that its turns fit into. -/
theorem mono {other : Interim η} (course : Course around place turns final)
    (allowed : ∀ left, ∀ turn ∈ turns, around left turn → other left turn) :
    Course other place turns final := by
  induction course with
  | ended place => exact .ended place
  | turned comes _ inductionHypothesis =>
    refine .turned (allowed _ _ List.mem_cons_self comes) (inductionHypothesis ?_)
    exact fun left turn member => allowed left turn (List.mem_cons_of_mem _ member)

/-- What every turn carries on holds before each of them. -/
theorem holding (holds : Run η → Engine η → Prop)
    (carried : ∀ left turn, holds turn.run left → around left turn →
      holds turn.after.1 turn.after.2)
    (course : Course around place turns final) (begun : holds place.1 place.2) :
    Course (fun left turn => holds turn.run left ∧ around left turn) place turns final := by
  induction course with
  | ended place => exact .ended place
  | turned comes _ inductionHypothesis =>
    exact .turned ⟨begun, comes⟩ (inductionHypothesis (carried _ _ begun comes))

/-- A course that has a turn leads to the turn and goes on from it. -/
theorem split {before later : List (Turn η)} {turn : Turn η}
    (course : Course around place (before ++ turn :: later) final) :
    ∃ left, Course around place before (turn.run, left) ∧ around left turn ∧
      Course around turn.after later final := by
  induction before generalizing place with
  | nil =>
    cases course with
    | turned comes rest => exact ⟨_, .ended _, comes, rest⟩
  | cons first before inductionHypothesis =>
    cases course with
    | turned comes rest =>
      obtain ⟨left, ahead, reached, behind⟩ := inductionHypothesis rest
      exact ⟨left, .turned comes ahead, reached, behind⟩

end Course

/-! ## Moves are turns -/

namespace Engine

variable {η : Type}

/-- The turn of a move, on the engine that the handler leaves when one is called. -/
def turnOf (behave : Behavior η) (run : Run η) (engine : Engine η) : Turn η :=
  match run with
  | .calling _ _ handler input =>
    ⟨run, (behave handler input engine).2, (behave handler input engine).1⟩
  | _ => ⟨run, engine, .expired⟩

theorem move_eq_after (behave : Behavior η) (run : Run η) (engine : Engine η) :
    move behave run engine = (turnOf behave run engine).after := by
  cases run <;> rfl

theorem turnOf_run (behave : Behavior η) (run : Run η) (engine : Engine η) :
    (turnOf behave run engine).run = run := by
  cases run <;> rfl

/-- Handlers that leave the engine alone leave it to the turn as it was. -/
theorem turnOf_found {behave : Behavior η}
    (still : ∀ handler input engine, (behave handler input engine).2 = engine) (run : Run η)
    (engine : Engine η) : (turnOf behave run engine).found = engine := by
  unfold turnOf
  split
  · exact still _ _ _
  · rfl

/-- The turns of a number of moves. -/
def turnsOf (behave : Behavior η) : Nat → Run η → Engine η → List (Turn η)
  | 0, _, _ => []
  | count + 1, run, engine =>
    turnOf behave run engine ::
      turnsOf behave count (move behave run engine).1 (move behave run engine).2

/-- Moving on is a course in which only the handlers act between two turns. -/
theorem moves_course (behave : Behavior η) (count : Nat) (run : Run η) (engine : Engine η) :
    Course (fun left turn => turn = turnOf behave turn.run left) (run, engine)
      (turnsOf behave count run engine) (moves behave count run engine) := by
  induction count generalizing run engine with
  | zero => exact .ended _
  | succ count inductionHypothesis =>
    have same := turnOf_run behave run engine
    have turned : Course (fun left turn => turn = turnOf behave turn.run left)
        ((turnOf behave run engine).run, engine) (turnsOf behave (count + 1) run engine)
        (moves behave (count + 1) run engine) := by
      refine .turned (by rw [same]) ?_
      rw [← move_eq_after]
      exact inductionHypothesis _ _
    rwa [same] at turned

end Engine

/-! ## The cases of a turn -/

namespace Run

variable {η : Type}

/-- How a run stands at its turns: its record is running while there is something to do, and a step
under way is the first one without a result. A record still to be loaded promises nothing. -/
def IsSound : Run η → Prop
  | .loading _ => False
  | .waiting work => work.execution.status = .running
  | .opening work => work.execution.status = .running
  | .dispatching work attempt _ =>
    work.execution.status = .running ∧ ∃ later, work.remaining = attempt.step :: later
  | .calling work attempt _ _ =>
    work.execution.status = .running ∧ ∃ later, work.remaining = attempt.step :: later
  | .recording work _ _ => work.execution.status = .running
  | .closing work => work.execution.isTerminal = true
  | .finished (.ok execution) => execution.isTerminal = true
  | .finished (.error _) => True

end Run

theorem Run.eq_of_result? {η : Type} {run : Run η} {result : Except Fault Execution}
    (came : run.result? = some result) : run = .finished result := by
  cases run <;> cases came
  rfl

/-- An outcome without a value, and the fault that is recorded for it. -/
inductive Attempt.FaultOf (attempt : Attempt) : Outcome → Except Fault Fault → Prop where
  | raised (f : Fault) :
    FaultOf attempt (.raised f) (Engine.dispatchFault attempt.step
      (Fault.ofHandler attempt.step.agent attempt.step.action f))
  | expired : FaultOf attempt .expired (Engine.expiry attempt)

/-- A dispatch without a handler, and the fault that is recorded for it. -/
inductive Attempt.Missed {η : Type} (attempt : Attempt) : Reach η → Except Fault Fault → Prop where
  | refused (f : Fault) : Missed attempt (.refused f) (Engine.dispatchFault attempt.step f)
  | late : Missed attempt .late (Engine.expiry attempt)

/-- A dispatch reaches a handler, or a fault is recorded for it. -/
theorem Attempt.reaches_or_missed {η : Type} (attempt : Attempt) (reach : Reach η) :
    (∃ handler, reach = .handler handler) ∨ ∃ fault, attempt.Missed reach fault := by
  cases reach with
  | handler handler => exact .inl ⟨handler, rfl⟩
  | refused f => exact .inr ⟨_, .refused f⟩
  | late => exact .inr ⟨_, .late⟩

/-- A handler returns a value, or a fault is recorded for it. -/
theorem Attempt.returned_or_faultOf (attempt : Attempt) (heard : Outcome) :
    (∃ v, heard = .returned v) ∨ ∃ fault, attempt.FaultOf heard fault := by
  cases heard with
  | returned v => exact .inl ⟨v, rfl⟩
  | raised f => exact .inr ⟨_, .raised f⟩
  | expired => exact .inr ⟨_, .expired⟩

/-- The work of a record that is opened: whether it is halted is for the record to say. -/
def Work.opened (work : Work) : Work :=
  { work with halted := work.workflow.haltedBy work.execution }

/-- A turn that meets no fault: from where the run stands to where it stands next and to the engine
it leaves. -/
inductive Advances {η : Type} (found : Engine η) (heard : Outcome) :
    Run η → Run η → Engine η → Prop where
  | waits {work : Work} (held : found.ownership.isHeld work.lock = true) :
    Advances found heard (.waiting work) (.waiting work) found
  | enters {work : Work} (free : found.ownership.isHeld work.lock = false) :
    Advances found heard (.waiting work) (.opening work)
      { found with ownership := found.ownership.hold work.lock }
  | opens {work : Work} {next : Run η} {left : Engine η}
    (saved : found.Saves work.execution left)
    (goes : left.Goes work.opened next) :
    Advances found heard (.opening work) next left
  | calls {work : Work} {attempt : Attempt} {input : Value} {handler : η}
    (reached : found.reach attempt = .handler handler) :
    Advances found heard (.dispatching work attempt input) (.calling work attempt handler input)
      (found.record (.called (some work.execution.id) attempt.step.agent attempt.step.action
        handler input))
  | misses {work : Work} {attempt : Attempt} {input : Value} {fault : Except Fault Fault}
    {next : Run η} (missed : attempt.Missed (found.reach attempt) fault)
    (made : found.failed work attempt fault = .ok next) :
    Advances found heard (.dispatching work attempt input) next found
  | answers {work : Work} {attempt : Attempt} {handler : η} {input v : Value} {next : Run η}
    (returned : heard = .returned v) (made : found.answered work attempt v = .ok next) :
    Advances found heard (.calling work attempt handler input) next found
  | fails {work : Work} {attempt : Attempt} {handler : η} {input : Value}
    {fault : Except Fault Fault} {next : Run η} (caused : attempt.FaultOf heard fault)
    (made : found.failed work attempt fault = .ok next) :
    Advances found heard (.calling work attempt handler input) next found
  | records {work settled : Work} {step : Step} {result : StepResult} {next : Run η}
    {left : Engine η} (saved : found.Saves work.execution left)
    (meant : Engine.settle work step result = .ok settled) (goes : left.Goes settled next) :
    Advances found heard (.recording work step result) next left
  | closes {work : Work} {left : Engine η} (saved : found.Saves work.execution left) :
    Advances found heard (.closing work) (.finished (.ok work.execution))
      (left.leave (.closing work))
  | rests (result : Except Fault Execution) :
    Advances found heard (.finished result) (.finished result) found

namespace Engine

variable {η : Type}

/-- Going on never finishes a run; its record has to be saved first. -/
theorem Goes.onward {engine : Engine η} {work : Work} {next : Run η}
    (goes : engine.Goes work next) : next.result? = none := by
  cases goes with
  | ended => rfl
  | stopped => rfl
  | @begins _ _ outset => cases outset <;> rfl

theorem failed_onward {engine : Engine η} {work : Work} {attempt : Attempt}
    {fault : Except Fault Fault} {next : Run η}
    (made : engine.failed work attempt fault = .ok next) : next.result? = none := by
  obtain ⟨result, -, rfl⟩ := failed_ok made
  rfl

theorem answered_onward {engine : Engine η} {work : Work} {attempt : Attempt} {v : Value}
    {next : Run η} (made : engine.answered work attempt v = .ok next) : next.result? = none := by
  obtain ⟨outputs, -, rfl⟩ := answered_ok made
  rfl

/-- A turn that comes to a place where the run goes on leaves the engine to it. -/
theorem conclude_onward {before next : Run η} {effect : Effect (Engine η) (Run η)}
    {found left : Engine η} (came : effect.runOn found = (.ok next, left))
    (onward : next.result? = none) : conclude before effect found = (next, left) := by
  rw [conclude, came]
  cases next with
  | finished result => cases onward
  | _ => rfl

theorem conclude_error {before : Run η} {effect : Effect (Engine η) (Run η)}
    {found left : Engine η} {f : Fault} (came : effect.runOn found = (.error f, left)) :
    conclude before effect found = (.finished (.error f), left.leave before) := by
  rw [conclude, came]

/-- What follows a save runs on the engine that the save left. -/
theorem persist_bind {execution : Execution} {found left : Engine η}
    (saved : found.Saves execution left) (rest : PUnit → Effect (Engine η) (Run η)) :
    (persist execution >>= rest).runOn found = (rest ⟨⟩).runOn left := by
  rw [Effect.runOn_bind, saved]

theorem persist_bind_error {execution : Execution} {found left : Engine η} {f : Fault}
    (met : (persist execution).runOn found = (.error f, left))
    (rest : PUnit → Effect (Engine η) (Run η)) :
    (persist execution >>= rest).runOn found = (.error f, left) := by
  rw [Effect.runOn_bind, met]

/-- A dispatch that reaches no handler comes to the failure of its step. -/
theorem dispatch_of_missed {work : Work} {attempt : Attempt} {found : Engine η}
    {fault : Except Fault Fault} (running : work.execution.status = .running)
    (missed : attempt.Missed (found.reach attempt) fault) (input : Value) :
    (dispatch work attempt input).runOn found = (found.failed work attempt fault, found) := by
  rw [dispatch_eq running]
  generalize Engine.reach found attempt = reached at missed ⊢
  cases missed <;> rfl

/-- A handler that returns no value comes to the failure of its step. -/
theorem receive_of_faultOf {work : Work} {attempt : Attempt} {heard : Outcome}
    {fault : Except Fault Fault} (running : work.execution.status = .running)
    (caused : attempt.FaultOf heard fault) (found : Engine η) :
    (receive work attempt heard).runOn found = (found.failed work attempt fault, found) := by
  rw [receive_eq running]
  cases caused <;> rfl

/-- What the result of a step means for the run is whether it is halted, and what its record says
went wrong; all else stays. -/
theorem settle_ok {work settled : Work} {step : Step} {result : StepResult}
    (meant : settle work step result = .ok settled) :
    ∃ halted error,
      settled = { work with halted, execution := { work.execution with error } } := by
  unfold settle at meant
  split at meant
  · obtain ⟨id, -, meant⟩ := Result.bind_ok meant
    obtain ⟨message, -, meant⟩ := Result.bind_ok meant
    split at meant
    · cases meant
      exact ⟨_, _, rfl⟩
    · cases meant
      exact ⟨_, _, rfl⟩
  · cases meant
    exact ⟨_, _, rfl⟩

theorem settle_running {work settled : Work} {step : Step} {result : StepResult}
    (meant : settle work step result = .ok settled) :
    settled.execution.status = work.execution.status := by
  obtain ⟨halted, error, rfl⟩ := settle_ok meant
  rfl

/-- Leaving is a matter of ownership alone. -/
theorem leave_eq (run : Run η) (engine : Engine η) :
    ∃ ownership, engine.leave run = { engine with ownership } := by
  cases run <;> exact ⟨_, rfl⟩

end Engine

namespace Turn

variable {η : Type}

/-- A turn that meets a fault finishes its run with it. -/
def Faults (turn : Turn η) : Prop := ∃ f, turn.after.1 = .finished (.error f)

open Engine

/-- A turn that advances does so as its case says. -/
theorem after_of_advances {turn : Turn η} (sound : turn.run.IsSound) {next : Run η}
    {left : Engine η} (advances : Advances turn.found turn.heard turn.run next left) :
    turn.after = (next, left) := by
  obtain ⟨run, found, heard⟩ := turn
  dsimp only at sound advances
  cases advances with
  | waits held =>
    refine conclude_onward ?_ rfl
    simp only [stage, enter, Effect.runOn_get_bind, held, if_true, Effect.runOn_pure]
  | enters free =>
    refine conclude_onward ?_ rfl
    simp only [stage, enter, Effect.runOn_get_bind, free, Bool.false_eq_true, if_false,
      Effect.runOn_modify_bind, Effect.runOn_pure]
  | @opens work next left saved goes =>
    refine conclude_onward ?_ goes.onward
    rw [stage, persist_bind saved]
    refine next_of_goes ?_ goes
    exact sound
  | calls reached =>
    refine conclude_onward ?_ rfl
    rw [stage, dispatch_eq sound.1, reached]
  | @misses work attempt input fault next missed made =>
    refine conclude_onward ?_ (failed_onward made)
    rw [stage, dispatch_of_missed sound.1 missed, made]
  | answers returned made =>
    refine conclude_onward ?_ (answered_onward made)
    rw [receive_eq sound.1, returned]
    simp only [made]
  | fails caused made =>
    refine conclude_onward ?_ (failed_onward made)
    rw [receive_of_faultOf sound.1 caused, made]
  | records saved meant goes =>
    refine conclude_onward ?_ goes.onward
    rw [stage, persist_bind saved, Effect.runOn_lift_bind, meant]
    exact next_of_goes ((settle_running meant).trans sound) goes
  | @closes work left saved =>
    have came : (stage (Run.closing work)).runOn found =
        (.ok (.finished (.ok work.execution)), left) := by
      rw [stage, persist_bind saved, Effect.runOn_pure]
    change conclude _ _ _ = _
    rw [conclude, came]
  | rests result => rfl

/-- Where a turn that meets a fault breaks off, before the run leaves the engine. Nothing was
saved, or the record could not be saved, or it was saved and the run could not go on. -/
inductive BreaksOff (turn : Turn η) : Engine η → Prop where
  | before : BreaksOff turn turn.found
  | unsaved {work : Work} {f : Fault} {left : Engine η}
    (met : (persist work.execution).runOn turn.found = (.error f, left)) : BreaksOff turn left
  | saved {work : Work} {left : Engine η}
    (about : turn.run = .opening work ∨ ∃ step result, turn.run = .recording work step result)
    (saved : turn.found.Saves work.execution left) : BreaksOff turn left

/-- A turn that does not advance breaks off, so the cases of advancing are complete. -/
theorem advances_or_breaksOff {turn : Turn η} (sound : turn.run.IsSound) :
    (∃ f left, turn.BreaksOff left ∧ turn.after = (.finished (.error f), left.leave turn.run)) ∨
      Advances turn.found turn.heard turn.run turn.after.1 turn.after.2 := by
  -- It is enough to know that the turn has a case, for that case says where the turn leads.
  suffices cases : (∃ f left, turn.BreaksOff left ∧
      turn.after = (.finished (.error f), left.leave turn.run)) ∨
      ∃ next left, Advances turn.found turn.heard turn.run next left by
    obtain breaks | ⟨next, left, advances⟩ := cases
    · exact .inl breaks
    · rw [after_of_advances sound advances]
      exact .inr advances
  obtain ⟨run, found, heard⟩ := turn
  dsimp only at sound ⊢
  cases run with
  | loading claimed => exact sound.elim
  | waiting work =>
    cases held : found.ownership.isHeld work.lock with
    | true => exact .inr ⟨_, _, .waits held⟩
    | false => exact .inr ⟨_, _, .enters held⟩
  | opening work =>
    rcases saved : (persist work.execution).runOn found with ⟨f | _, left⟩
    · exact .inl ⟨f, left, .unsaved saved, conclude_error (persist_bind_error saved _)⟩
    · obtain ⟨next, goes⟩ | ⟨f, baulks⟩ := goes_or_baulks left work.opened
      · exact .inr ⟨next, left, .opens saved goes⟩
      · refine .inl ⟨f, left, .saved (.inl rfl) saved, conclude_error ?_⟩
        rw [stage, persist_bind saved]
        refine next_of_baulks ?_ baulks
        exact sound
  | dispatching work attempt input =>
    obtain ⟨handler, reached⟩ | ⟨fault, missed⟩ := attempt.reaches_or_missed (found.reach attempt)
    · exact .inr ⟨_, _, .calls reached⟩
    · cases made : found.failed work attempt fault with
      | ok next => exact .inr ⟨_, _, .misses missed made⟩
      | error f =>
        refine .inl ⟨f, found, .before, conclude_error ?_⟩
        rw [stage, dispatch_of_missed sound.1 missed, made]
  | calling work attempt handler input =>
    obtain ⟨v, returned⟩ | ⟨fault, caused⟩ := attempt.returned_or_faultOf heard
    · cases made : found.answered work attempt v with
      | ok next => exact .inr ⟨_, _, .answers returned made⟩
      | error f =>
        refine .inl ⟨f, found, .before, conclude_error ?_⟩
        rw [receive_eq sound.1, returned]
        simp only [made]
    · cases made : found.failed work attempt fault with
      | ok next => exact .inr ⟨_, _, .fails caused made⟩
      | error f =>
        refine .inl ⟨f, found, .before, conclude_error ?_⟩
        rw [receive_of_faultOf sound.1 caused, made]
  | recording work step result =>
    rcases saved : (persist work.execution).runOn found with ⟨f | _, left⟩
    · exact .inl ⟨f, left, .unsaved saved, conclude_error (persist_bind_error saved _)⟩
    · have about : Run.recording (η := η) work step result = .opening work ∨
          ∃ other recorded, Run.recording (η := η) work step result =
            .recording work other recorded := .inr ⟨step, result, rfl⟩
      cases meant : settle work step result with
      | error f =>
        refine .inl ⟨f, left, .saved about saved, conclude_error ?_⟩
        rw [stage, persist_bind saved, Effect.runOn_lift_bind, meant]
      | ok settled =>
        obtain ⟨next, goes⟩ | ⟨f, baulks⟩ := goes_or_baulks left settled
        · exact .inr ⟨next, left, .records saved meant goes⟩
        · refine .inl ⟨f, left, .saved about saved, conclude_error ?_⟩
          rw [stage, persist_bind saved, Effect.runOn_lift_bind, meant]
          exact next_of_baulks ((settle_running meant).trans sound) baulks
  | closing work =>
    rcases saved : (persist work.execution).runOn found with ⟨f | _, left⟩
    · exact .inl ⟨f, left, .unsaved saved, conclude_error (persist_bind_error saved _)⟩
    · exact .inr ⟨_, _, .closes saved⟩
  | finished result => exact .inr ⟨_, _, .rests result⟩

theorem advances_or_faults {turn : Turn η} (sound : turn.run.IsSound) :
    turn.Faults ∨ Advances turn.found turn.heard turn.run turn.after.1 turn.after.2 := by
  obtain ⟨f, left, -, faults⟩ | advances := advances_or_breaksOff sound
  · exact .inl ⟨f, congrArg Prod.fst faults⟩
  · exact .inr advances

/-- Breaking off is not a matter of ownership. -/
theorem BreaksOff.ownership {turn : Turn η} {left : Engine η} (breaks : turn.BreaksOff left) :
    left.ownership = turn.found.ownership := by
  cases breaks with
  | before => rfl
  | @unsaved work f left met =>
    obtain ⟨store, trace, same⟩ := Engine.persist_left work.execution turn.found
    rw [met] at same
    change left = _ at same
    rw [same]
  | saved about saved => exact saved.ownership

/-- A run that is over stays where it is, and so does the engine. -/
theorem after_of_finished {turn : Turn η} {result : Except Fault Execution}
    (ended : turn.run = .finished result) : turn.after = (.finished result, turn.found) := by
  obtain ⟨run, found, heard⟩ := turn
  dsimp only at ended
  subst ended
  rfl

theorem events_of_finished {turn : Turn η} {result : Except Fault Execution}
    (ended : turn.run = .finished result) : turn.events = [] := by
  simp [events, after_of_finished ended]

/-- A run that is not over was not over before either. -/
theorem unfinished_before {turn : Turn η} (onward : turn.after.1.result? = none) :
    turn.run.result? = none := by
  cases ended : turn.run.result? with
  | none => rfl
  | some result =>
    rw [after_of_finished (Run.eq_of_result? ended)] at onward
    cases onward

end Turn

/-- A run that is over stays so, however often it has its turn. -/
theorem Course.idle {η : Type} {around : Interim η} {place final : Run η × Engine η}
    {turns : List (Turn η)} {result : Except Fault Execution}
    (course : Course around place turns final) (ended : place.1 = .finished result) :
    final.1 = .finished result ∧ ∀ turn ∈ turns, turn.run = .finished result := by
  induction course with
  | ended place => exact ⟨ended, by simp⟩
  | @turned left turn turns final comes rest inductionHypothesis =>
    obtain ⟨last, stays⟩ := inductionHypothesis (congrArg Prod.fst (Turn.after_of_finished ended))
    exact ⟨last, List.forall_mem_cons.mpr ⟨ended, stays⟩⟩

namespace Engine

variable {η : Type}

theorem Goes.sound {engine : Engine η} {work : Work} {next : Run η}
    (goes : engine.Goes work next) (running : work.execution.status = .running) :
    next.IsSound := by
  cases goes with
  | ended ends => exact work.execution.isTerminal_finalStatus work.halted false
  | stopped => rfl
  | @begins step later outset left =>
    cases outset with
    | settled status error => exact running
    | sent input => exact ⟨running, later, left⟩

end Engine

/-- A run that advances stands soundly again. -/
theorem Advances.sound {η : Type} {found left : Engine η} {heard : Outcome} {run next : Run η}
    (advances : Advances found heard run next left) (sound : run.IsSound) : next.IsSound := by
  cases advances with
  | waits held => exact sound
  | enters free => exact sound
  | opens saved goes => exact goes.sound sound
  | calls reached => exact sound
  | misses missed made =>
    obtain ⟨result, -, rfl⟩ := Engine.failed_ok made
    exact sound.1
  | answers returned made =>
    obtain ⟨outputs, -, rfl⟩ := Engine.answered_ok made
    exact sound.1
  | fails caused made =>
    obtain ⟨result, -, rfl⟩ := Engine.failed_ok made
    exact sound.1
  | records saved meant goes => exact goes.sound ((Engine.settle_running meant).trans sound)
  | closes saved => exact sound
  | rests result => exact sound

/-- A sound run stands soundly after its turn, whether it advances or meets a fault. -/
theorem Turn.isSound_after {η : Type} {turn : Turn η} (sound : turn.run.IsSound) :
    turn.after.1.IsSound := by
  obtain ⟨f, faults⟩ | advances := turn.advances_or_faults sound
  · rw [faults]
    trivial
  · exact advances.sound sound

end Stepwise
