import Stepwise.Proofs.Engine.Abort
import Stepwise.Proofs.Template.Fault
import Stepwise.Proofs.Value.Obstacle

/-!
# Whom a fault of persistence blames

A call that ends in a fault of persistence has called the store, and the store did not answer. All
else that can go wrong in a run is either recorded on a step or is a fault of another kind: a value
has no text or is no key, a record cannot be copied, a workflow is not found, a status may not
follow. So every part of a run but its calls of the store is blameless, and this is shown part by
part, in the order in which the parts are built from each other.
-/

namespace Stepwise

open Fault

/-! ## Blameless effects -/

/-- A fault that the result is, if it is one, is none of persistence. -/
def Result.IsBlameless {α : Type} (result : Except Fault α) : Prop :=
  ∀ f, result = .error f → f.isPersistence = false

namespace Effect

variable {σ τ α β : Type} {sort : α → Prop} {other : β → Prop}

/-- Whatever the state, the effect comes to a value of some sort or to a fault that is none of
persistence. -/
def IsBlameless (effect : Effect σ α) (sort : α → Prop) : Prop :=
  ∀ state, match (effect.runOn state).1 with
    | .ok a => sort a
    | .error f => f.isPersistence = false

theorem IsBlameless.pure {a : α} (fits : sort a) : IsBlameless (Pure.pure a : Effect σ α) sort :=
  fun _ => fits

theorem IsBlameless.throw {f : Fault} (other : f.isPersistence = false) :
    IsBlameless (MonadExcept.throw f : Effect σ α) sort := fun _ => other

theorem IsBlameless.lift {result : Except Fault α} (blameless : Result.IsBlameless result) :
    IsBlameless (Stepwise.lift result : Effect σ α) fun _ => True := by
  intro state
  rw [runOn_lift]
  cases result with
  | ok a => trivial
  | error f => exact blameless f rfl

theorem IsBlameless.get : IsBlameless (MonadState.get : Effect σ σ) fun _ => True :=
  fun _ => trivial

theorem IsBlameless.modify (change : σ → σ) :
    IsBlameless (modify change : Effect σ PUnit) fun _ => True := fun _ => trivial

/-- A chain is blameless when its parts are. -/
theorem IsBlameless.bind {effect : Effect σ α} {next : α → Effect σ β}
    (first : effect.IsBlameless sort) (later : ∀ a, sort a → (next a).IsBlameless other) :
    (effect >>= next).IsBlameless other := by
  intro state
  have start := first state
  rw [runOn_bind]
  rcases reached : effect.runOn state with ⟨f | a, changed⟩
  · rw [reached] at start
    exact start
  · rw [reached] at start
    exact later a start changed

/-- What was attempted comes to a value. -/
theorem IsBlameless.attempt (effect : Effect σ α) :
    effect.attempt.IsBlameless fun _ => True := fun _ => trivial

theorem IsBlameless.onPart {effect : Effect τ α} (blameless : effect.IsBlameless sort)
    (part : σ → τ) (replace : τ → σ → σ) : (effect.onPart part replace).IsBlameless sort := by
  intro state
  rw [runOn_onPart]
  exact blameless (part state)

end Effect

namespace Result

variable {α β : Type} {result : Except Fault α}

theorem IsBlameless.ok (a : α) : IsBlameless (.ok a : Except Fault α) := nofun

theorem IsBlameless.of_isMachinery (plain : ∀ f, result = .error f → f.IsMachinery) :
    IsBlameless result := fun f met => (plain f met).isPersistence

/-- What is refused is the fault itself or one met in forming its text. -/
theorem IsBlameless.refuse {f : Fault} (other : f.isPersistence = false) :
    IsBlameless (refuse f : Except Fault α) := by
  rintro _ ⟨⟩
  unfold raised
  split
  · exact other
  · rename_i met failed
    exact (text_error failed).isPersistence

theorem IsBlameless.bind {next : α → Except Fault β} (first : IsBlameless result)
    (later : ∀ a, IsBlameless (next a)) : IsBlameless (result >>= next) := by
  intro f met
  obtain start | ⟨a, -, behind⟩ := Result.bind_error met
  · exact first f start
  · exact later a f behind

theorem IsBlameless.text (v : Value) : IsBlameless v.text :=
  .of_isMachinery fun _ => Value.text_error

theorem IsBlameless.shown (v : Value) : IsBlameless v.shown :=
  .of_isMachinery fun _ => Value.shown_error

theorem IsBlameless.hashable (v : Value) : IsBlameless v.hashable :=
  .of_isMachinery fun _ => Value.hashable_error

theorem IsBlameless.told (f : Fault) : IsBlameless f.text :=
  .of_isMachinery fun _ => text_error

/-- An error that is recorded has the text of its fault. -/
theorem IsBlameless.ofFault (f : Fault) : IsBlameless (StepError.ofFault f) :=
  .bind (.told f) fun _ => .ok _

theorem IsBlameless.failure (stepId : Value) (f : Fault) (started now : Moment) :
    IsBlameless (StepResult.failure stepId f started now) :=
  .bind (.ofFault f) fun _ => .ok _

theorem IsBlameless.skipFor (stepId : Value) (f : Fault) (started now : Moment) :
    IsBlameless (StepResult.skipFor stepId f started now) :=
  .bind (.ofFault f) fun _ => .ok _

theorem IsBlameless.assign (v key content : Value) : IsBlameless (v.assign key content) := by
  unfold Value.assign
  split
  · exact .bind (.hashable key) fun _ => .ok _
  · split
    · exact .of_isMachinery fun f met => Except.error.inj met ▸ machinery_isMachinery _ _
    · split
      · exact .ok _
      · exact .of_isMachinery fun f met => Except.error.inj met ▸ machinery_isMachinery _ _
  · exact .of_isMachinery fun f met => Except.error.inj met ▸ machinery_isMachinery _ _

theorem IsBlameless.bindOutput (execution : Execution) (name output : Value) :
    IsBlameless (execution.bindOutput name output) :=
  .bind (.assign _ _ _) fun _ => .ok _

/-- A status that may not follow is a fault of the record. -/
theorem IsBlameless.transition (execution : Execution) (next : Status) (now : Moment) :
    IsBlameless (execution.transition next now) := by
  unfold Execution.transition
  split
  · exact .ok _
  · refine .bind (.text _) fun id => ?_
    rintro _ ⟨⟩
    rfl

theorem IsBlameless.addResult (execution : Execution) (result : StepResult) :
    IsBlameless (execution.addResult result) := by
  unfold Execution.addResult
  split
  · refine .bind (.text _) fun id => .bind (.text _) fun step => ?_
    rintro _ ⟨⟩
    rfl
  · exact .ok _

theorem IsBlameless.snapshot (execution : Execution) : IsBlameless execution.snapshot := by
  intro f met
  unfold Execution.snapshot barring at met
  split at met
  · rename_i obstacle
    rw [← Except.error.inj met]
    exact (Execution.obstacle?_isObstacle obstacle).isMachinery.isPersistence
  · cases met

theorem IsBlameless.resolveText (text : String) (outputs input : Value) (strict : Bool) :
    IsBlameless (Template.resolveText text outputs input strict) := by
  intro f met
  obtain parts | ⟨_, -, made⟩ := Result.bind_error met
  · obtain ⟨token, -, failed⟩ := Result.mapM_error parts
    unfold Template.resolveToken at failed
    split at failed
    · cases failed
    · split at failed
      · exact (Template.textOf_error failed).isPersistence
      · split at failed
        · rw [← Except.error.inj failed]
          rfl
        · cases failed
  · cases made

/-- A condition is refused, or refers to something that is missing or has no text. -/
theorem IsBlameless.evaluate (v outputs input : Value) :
    IsBlameless (Condition.evaluate v outputs input) := by
  refine .bind ?_ fun condition => ?_
  · unfold Condition.parse
    split
    · split
      · exact .ok _
      · rintro _ ⟨⟩
        rfl
    · rintro _ ⟨⟩
      rfl
  · cases condition with
    | constant holds => exact .ok _
    | equality operand expected => exact .bind (.resolveText _ _ _ _) fun _ => .ok _

theorem IsBlameless.settle (work : Work) (step : Step) (result : StepResult) :
    IsBlameless (Engine.settle work step result) := by
  unfold Engine.settle
  split
  · refine .bind (.text _) fun id => .bind (.text _) fun message => ?_
    split
    · exact .ok _
    · exact .ok _
  · exact .ok _

theorem IsBlameless.expiry (attempt : Attempt) : IsBlameless (Engine.expiry attempt) :=
  .bind (.text _) fun _ => .ok _

/-- A dispatch may fail with any fault, but what is recorded needs only its text. -/
theorem IsBlameless.dispatchFault (step : Step) (f : Fault) :
    IsBlameless (Engine.dispatchFault step f) := by
  unfold Engine.dispatchFault
  split
  · exact .ok _
  · exact .ok _
  · exact .ok _
  · exact .bind (.told f) fun _ => .ok _

/-- What a call of the store comes to is worded, unless there is no text for it. -/
theorem IsBlameless.persistenceFault (name : String) (limit : Value) (cause : Fault) :
    IsBlameless (Engine.persistenceFault name limit cause) := by
  unfold Engine.persistenceFault
  split
  · exact .bind (.text limit) fun _ => .ok _
  · split
    · exact .ok _
    · exact .bind (.told cause) fun _ => .ok _

/-- A workflow is not found when its id is no key or is not registered. -/
theorem IsBlameless.get (workflows : Workflows) (id : Value) : IsBlameless (workflows.get id) := by
  refine .bind (.hashable id) fun _ => ?_
  split
  · exact .ok _
  · exact .refuse rfl

end Result

/-! ## The parts of a run -/

namespace Engine

open Effect

variable {η : Type}

/-- The run has not come to a fault. -/
def IsUnharmed (run : Run η) : Prop := ∀ f, run ≠ .finished (.error f)

theorem enter_isBlameless (work : Work) :
    (enter work : Effect (Engine η) _).IsBlameless IsUnharmed := by
  refine .bind .get fun engine _ => ?_
  split
  · exact .pure nofun
  · exact .bind (.modify _) fun _ _ => .pure nofun

theorem lockOf_isBlameless (id : Value) : (Ownership.lockOf id).IsBlameless fun _ => True := by
  refine .bind (.lift (.hashable id)) fun _ _ => .bind .get fun ownership _ => ?_
  split
  · exact .pure trivial
  · exact fun _ => trivial

theorem begin_isBlameless (claimed : Value) (workflow : Workflow) (execution : Execution) :
    (begin claimed workflow execution : Effect (Engine η) _).IsBlameless IsUnharmed :=
  .bind (.lift (.text _)) fun _ _ => .bind (.lift (.text _)) fun _ _ =>
    .bind ((lockOf_isBlameless _).onPart _ _) fun _ _ => enter_isBlameless _

theorem takeUp_isBlameless (id : Value) (execution : Execution) :
    (takeUp id execution : Effect (Engine η) _).IsBlameless IsUnharmed := by
  unfold takeUp
  split
  · exact .bind (.lift (.text id)) fun _ _ => .throw rfl
  · exact .bind .get fun engine _ => .bind (.lift (.get _ _)) fun _ _ => begin_isBlameless _ _ _

theorem recordResult_isBlameless (work : Work) (step : Step) (result : StepResult) :
    (recordResult work step result : Effect (Engine η) _).IsBlameless IsUnharmed :=
  .bind (.lift (.addResult _ _)) fun _ _ => .pure nofun

theorem fail_isBlameless (work : Work) (attempt : Attempt) (f : Fault) :
    (fail work attempt f : Effect (Engine η) _).IsBlameless IsUnharmed :=
  .bind .get fun _ _ => .bind (.lift (.failure _ _ _ _)) fun _ _ => recordResult_isBlameless _ _ _

theorem skip_isBlameless (work : Work) (step : Step) (started : Moment) (f : Option Fault) :
    (skip work step started f : Effect (Engine η) _).IsBlameless IsUnharmed := by
  refine .bind (.lift (.text _)) fun _ _ => .bind .get fun engine _ => ?_
  split
  · exact recordResult_isBlameless _ _ _
  · exact .bind (.lift (.shown _)) fun _ _ => .bind (.lift (.skipFor _ _ _ _)) fun _ _ =>
      recordResult_isBlameless _ _ _

theorem prepare_isBlameless (work : Work) (step : Step) (started : Moment) :
    (prepare work step started : Effect (Engine η) _).IsBlameless IsUnharmed := by
  refine .bind .get fun engine _ => ?_
  dsimp only
  split
  · exact .bind (.lift (.text _)) fun _ _ => fail_isBlameless _ _ _
  · exact .bind (.lift (.text _)) fun _ _ => .bind (.lift (.text _)) fun _ _ =>
      .bind (.lift (.text _)) fun _ _ => .pure nofun

theorem beginStep_isBlameless (work : Work) (step : Step) :
    (beginStep work step : Effect (Engine η) _).IsBlameless IsUnharmed := by
  refine .bind .get fun engine _ => ?_
  dsimp only
  split
  · exact prepare_isBlameless _ _ _
  · split
    · exact prepare_isBlameless _ _ _
    · exact skip_isBlameless _ _ _ _
    · rename_i f met
      split
      · exact skip_isBlameless _ _ _ _
      · exact .throw (Result.IsBlameless.evaluate _ _ _ f met)

theorem close_isBlameless (work : Work) (canceled : Bool) :
    (close work canceled : Effect (Engine η) _).IsBlameless IsUnharmed :=
  .bind .get fun _ _ => .bind (.lift (.transition _ _ _)) fun _ _ => .pure nofun

theorem next_isBlameless (work : Work) :
    (next work : Effect (Engine η) _).IsBlameless IsUnharmed := by
  unfold next
  split
  · exact close_isBlameless _ _
  · split
    · exact close_isBlameless _ _
    · refine .bind .get fun engine _ => ?_
      split
      · exact .bind (.lift (.text _)) fun _ _ => close_isBlameless _ _
      · exact beginStep_isBlameless _ _

theorem expire_isBlameless (work : Work) (attempt : Attempt) :
    (expire work attempt : Effect (Engine η) _).IsBlameless IsUnharmed :=
  .bind (.lift (.expiry _)) fun _ _ => fail_isBlameless _ _ _

theorem dispatch_isBlameless (work : Work) (attempt : Attempt) (input : Value) :
    (dispatch work attempt input : Effect (Engine η) _).IsBlameless IsUnharmed := by
  have failing (f : Fault) : (do
      let f ← lift (dispatchFault attempt.step f)
      fail work attempt f : Effect (Engine η) (Run η)).IsBlameless IsUnharmed :=
    .bind (.lift (.dispatchFault _ _)) fun _ _ => fail_isBlameless _ _ _
  unfold dispatch
  dsimp only
  split
  · exact failing _
  · exact expire_isBlameless _ _
  · refine .bind (.attempt _) fun answer _ => ?_
    split
    · exact .pure nofun
    · exact expire_isBlameless _ _
    · exact failing _

theorem receive_isBlameless (work : Work) (attempt : Attempt) (outcome : Outcome) :
    (receive work attempt outcome : Effect (Engine η) _).IsBlameless IsUnharmed := by
  unfold receive
  dsimp only
  split
  · exact expire_isBlameless _ _
  · exact .bind (.lift (.dispatchFault _ _)) fun _ _ => fail_isBlameless _ _ _
  · split
    · exact .bind (.lift (.bindOutput _ _ _)) fun _ _ => .bind .get fun _ _ =>
        recordResult_isBlameless _ _ _
    · exact .bind (.pure trivial) fun (_ : Execution) (_ : True) => .bind .get fun _ _ =>
        recordResult_isBlameless _ _ _

theorem claim_isBlameless (id : Value) : (Ownership.claim id).IsBlameless fun _ => True := by
  refine .bind (.lift (.hashable id)) fun _ _ => .bind .get fun ownership _ => ?_
  split
  · exact .bind (.lift (.text id)) fun _ _ => .throw rfl
  · exact .modify _

/-! ## Calls of the store -/

/-- A call of the store that ends in a fault of persistence was kept from being answered. -/
theorem hinders_of_callStore {α : Type} {name : String} {effect : Effect (Engine η) α}
    {engine left : Engine η} {f : Fault}
    (met : (callStore name effect).runOn engine = (.error f, left))
    (persistence : f.isPersistence = true) :
    ∃ cause, engine.Hinders effect cause ∧
      persistenceFault name engine.options.persistTimeout cause = .ok f := by
  have worded {cause : Fault} {reached : Engine η}
      (refused : (storeRefusal (α := α) name engine.options.persistTimeout cause, reached) =
        (.error f, left)) :
      persistenceFault name engine.options.persistTimeout cause = .ok f := by
    have same := (Prod.mk.inj refused).1
    rw [storeRefusal] at same
    cases wording : persistenceFault name engine.options.persistTimeout cause with
    | ok wrapped =>
      rw [wording] at same
      exact congrArg Except.ok (Except.error.inj same)
    | error g =>
      rw [wording] at same
      have other := Result.IsBlameless.persistenceFault name _ cause g wording
      rw [← Except.error.inj same, other] at persistence
      cases persistence
  rw [callStore_eq] at met
  dsimp only at met
  split at met
  · rename_i timely
    rcases called : effect.runOn engine with ⟨cause | a, reached⟩
    · rw [called] at met
      exact ⟨cause, .failed timely called, worded met⟩
    · rw [called] at met
      cases met
  · rename_i hurried
    exact ⟨_, .late (.inl hurried), worded met⟩
  · rename_i hurried
    exact ⟨_, .late (.inr hurried), worded met⟩
  · rename_i cause refused
    exact ⟨cause, .unlimited refused, worded met⟩

end Engine

namespace Turn

open Engine

variable {η : Type} {turn : Turn η} {f : Fault}

/-- The store does not answer the turn: it is asked for the record of an id, or it is given a
record, and this call fails. -/
inductive IsUnanswered (turn : Turn η) (f : Fault) : Prop where
  | load {claimed : Value} {cause : Fault} (loading : turn.run = .loading claimed)
    (hinders : turn.found.Hinders (onStore (Store.load claimed)) cause)
    (worded : persistenceFault "load" turn.found.options.persistTimeout cause = .ok f) :
    IsUnanswered turn f
  | save {work : Work} {cause : Fault} (saving : turn.run.saving? = some work)
    (hinders : turn.found.Hinders (save work.execution.copied) cause)
    (worded : persistenceFault "save" turn.found.options.persistTimeout cause = .ok f) :
    IsUnanswered turn f

/-- A turn that does not call the store is not to blame. -/
theorem not_persistence {before : Run η} {effect : Effect (Engine η) (Run η)}
    (blameless : effect.IsBlameless IsUnharmed) {found : Engine η}
    (met : (conclude before effect found).1 = .finished (.error f)) :
    f.isPersistence = false := by
  have fits := blameless found
  unfold conclude at met
  rcases came : effect.runOn found with ⟨g | next, left⟩
  · rw [came] at met fits
    obtain rfl : g = f := by simpa using met
    exact fits
  · rw [came] at met fits
    cases next with
    | finished result => exact absurd met (fits f)
    | _ => cases met

/-- A turn that begins with a part of its own and goes on without blame meets a fault of
persistence in that part. -/
theorem met_of_persistence {α : Type} {before : Run η} {effect : Effect (Engine η) α}
    {rest : α → Effect (Engine η) (Run η)} (blameless : ∀ a, (rest a).IsBlameless IsUnharmed)
    {found : Engine η}
    (met : (conclude before (effect >>= rest) found).1 = .finished (.error f))
    (persistence : f.isPersistence = true) : ∃ left, effect.runOn found = (.error f, left) := by
  rcases came : effect.runOn found with ⟨g | a, left⟩
  · rw [conclude_error (by rw [Effect.runOn_bind, came])] at met
    obtain rfl : g = f := by simpa using met
    exact ⟨left, rfl⟩
  · have onward : (conclude before (effect >>= rest) found) = conclude before (rest a) left := by
      unfold conclude
      rw [Effect.runOn_bind, came]
    rw [onward] at met
    rw [not_persistence (blameless a) met] at persistence
    cases persistence

/-- A save that ends in a fault of persistence was kept from being answered. -/
theorem hinders_of_persist {execution : Execution} {found left : Engine η}
    (met : (persist execution).runOn found = (.error f, left))
    (persistence : f.isPersistence = true) :
    ∃ cause, found.Hinders (Engine.save execution.copied) cause ∧
      persistenceFault "save" found.options.persistTimeout cause = .ok f := by
  rw [persist, Effect.runOn_lift_bind] at met
  cases taken : execution.snapshot with
  | error g =>
    rw [taken] at met
    obtain ⟨rfl, -⟩ : g = f ∧ found = left := by simpa using met
    rw [Result.IsBlameless.snapshot execution g taken] at persistence
    cases persistence
  | ok snapshot =>
    rw [taken] at met
    obtain ⟨-, rfl⟩ := Execution.snapshot_eq_ok.mp taken
    exact hinders_of_callStore met persistence

/-- Loading ends in a fault of persistence only when the store does not answer. -/
theorem hinders_of_getExecution {id : Value} {found left : Engine η}
    (met : (getExecution id).runOn found = (.error f, left))
    (persistence : f.isPersistence = true) :
    ∃ cause, found.Hinders (onStore (Store.load id)) cause ∧
      persistenceFault "load" found.options.persistTimeout cause = .ok f := by
  rw [getExecution, Effect.runOn_bind] at met
  rcases called : (callStore "load" (onStore (Store.load id))).runOn found with ⟨g | answer, reached⟩
  · rw [called] at met
    obtain ⟨rfl, -⟩ : g = f ∧ reached = left := by simpa using met
    exact hinders_of_callStore called persistence
  · rw [called] at met
    cases answer with
    | some record => cases met
    | none =>
      have refused : refuse (α := Execution) (.executionNotFound id) = .error f :=
        (Prod.mk.inj met).1
      rw [Result.IsBlameless.refuse rfl f refused] at persistence
      cases persistence

/-- A turn that comes to a fault of persistence is one that the store does not answer. -/
theorem isUnanswered (onward : turn.run.result? = none)
    (met : turn.after.1 = .finished (.error f)) (persistence : f.isPersistence = true) :
    turn.IsUnanswered f := by
  obtain ⟨run, found, heard⟩ := turn
  have blameless {effect : Effect (Engine η) (Run η)} (fits : effect.IsBlameless IsUnharmed)
      (met : (conclude run effect found).1 = .finished (.error f)) :
      Turn.IsUnanswered ⟨run, found, heard⟩ f := by
    rw [not_persistence fits met] at persistence
    cases persistence
  cases run with
  | loading claimed =>
    obtain ⟨left, failed⟩ := met_of_persistence (fun _ => takeUp_isBlameless _ _) met persistence
    obtain ⟨cause, hinders, worded⟩ := hinders_of_getExecution failed persistence
    exact .load rfl hinders worded
  | waiting work => exact blameless (enter_isBlameless work) met
  | opening work =>
    obtain ⟨left, failed⟩ := met_of_persistence (fun _ => next_isBlameless _) met persistence
    obtain ⟨cause, hinders, worded⟩ := hinders_of_persist failed persistence
    exact .save rfl hinders worded
  | dispatching work attempt input => exact blameless (dispatch_isBlameless work attempt input) met
  | calling work attempt handler input =>
    exact blameless (receive_isBlameless work attempt heard) met
  | recording work step result =>
    obtain ⟨left, failed⟩ := met_of_persistence
      (fun _ => .bind (.lift (.settle _ _ _)) fun _ _ => next_isBlameless _) met persistence
    obtain ⟨cause, hinders, worded⟩ := hinders_of_persist failed persistence
    exact .save rfl hinders worded
  | closing work =>
    obtain ⟨left, failed⟩ := met_of_persistence
      (fun _ => .pure (by rintro g ⟨⟩)) met persistence
    obtain ⟨cause, hinders, worded⟩ := hinders_of_persist failed persistence
    exact .save rfl hinders worded
  | finished result => cases onward

end Turn

/-- A run that is under way and comes to a fault of persistence has a turn that the store does not
answer. -/
theorem Course.unanswered {η : Type} {around : Interim η} {place final : Run η × Engine η}
    {turns : List (Turn η)} {f : Fault} (course : Course around place turns final)
    (onward : place.1.result? = none) (met : final.1 = .finished (.error f))
    (persistence : f.isPersistence = true) : ∃ turn ∈ turns, turn.IsUnanswered f := by
  induction course with
  | ended place =>
    rw [met] at onward
    cases onward
  | @turned left turn turns final comes rest inductionHypothesis =>
    cases ended : turn.after.1.result? with
    | none =>
      obtain ⟨other, member, unanswered⟩ := inductionHypothesis ended met
      exact ⟨other, List.mem_cons_of_mem _ member, unanswered⟩
    | some result =>
      have stands := Run.eq_of_result? ended
      obtain ⟨last, -⟩ := rest.idle stands
      rw [last] at met
      obtain rfl : result = .error f := by simpa using met
      exact ⟨turn, List.mem_cons_self, Turn.isUnanswered onward stands persistence⟩

end Stepwise
