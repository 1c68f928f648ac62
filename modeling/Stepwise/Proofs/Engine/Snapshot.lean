import Stepwise.Proofs.Engine.Beginning
import Stepwise.Proofs.Engine.Constancy
import Stepwise.Proofs.Engine.WriteAhead

/-!
# What a turn saves

A run saves at three places: before its first step, after every step, and at the end. A turn there
comes to a save that is made or fails, and besides it changes nothing in the engine but who owns the
record. At all other places a turn leaves the store alone, and it adds to the trace only the call of
a handler. So what is in the store after a turn is known from what the turn has saved.
-/

namespace Stepwise

variable {η : Type}

/-- The work whose record a run is about to save. -/
def Run.saving? : Run η → Option Work
  | .opening work => some work
  | .recording work _ _ => some work
  | .closing work => some work
  | _ => none

theorem Run.work?_of_saving {run : Run η} {work : Work} (saving : run.saving? = some work) :
    run.work? = some work := by
  cases run <;> cases saving <;> rfl

theorem Run.execution?_of_saving {run : Run η} {work : Work} (saving : run.saving? = some work) :
    run.execution? = some work.execution := by
  cases run <;> cases saving <;> rfl

theorem Run.result?_of_saving {run : Run η} {work : Work} (saving : run.saving? = some work) :
    run.result? = none := by
  cases run <;> cases saving <;> rfl

/-- The snapshot that a turn has saved. -/
def Turn.saved? (turn : Turn η) : Option Execution :=
  turn.run.saving?.bind fun work =>
    match ((Engine.persist work.execution).runOn turn.found).1 with
    | .ok _ => some work.execution.copied
    | .error _ => none

namespace Engine

/-- Going on from a save leaves the engine to what comes next, also when it cannot go on. -/
theorem next_left {work : Work} (running : work.execution.status = .running)
    (engine : Engine η) : ((next work).runOn engine).2 = engine := by
  obtain ⟨run, goes⟩ | ⟨f, baulks⟩ := goes_or_baulks engine work
  · rw [next_of_goes running goes]
  · rw [next_of_baulks running baulks]

/-- What follows the save of a turn leaves the engine as the save left it. -/
theorem stage_of_saving {run : Run η} {work : Work} (sound : run.IsSound)
    (saving : run.saving? = some work) :
    ∃ rest : PUnit → Effect (Engine η) (Run η), stage run = persist work.execution >>= rest ∧
      ∀ engine, ((rest ⟨⟩).runOn engine).2 = engine := by
  cases run with
  | opening work =>
    cases saving
    refine ⟨_, rfl, fun engine => next_left ?_ engine⟩
    exact sound
  | recording work step result =>
    cases saving
    refine ⟨_, rfl, fun engine => ?_⟩
    rw [Effect.runOn_lift_bind]
    cases meant : settle work step result with
    | error f => rfl
    | ok settled => exact next_left ((settle_running meant).trans sound) engine
  | closing work =>
    cases saving
    exact ⟨_, rfl, fun engine => rfl⟩
  | _ => cases saving

/-- A turn leaves the engine to what its effect left, or the run leaves it. -/
theorem conclude_left (before : Run η) (effect : Effect (Engine η) (Run η)) (found : Engine η) :
    ∃ ownership, (conclude before effect found).2 =
      { (effect.runOn found).2 with ownership } := by
  rw [conclude]
  rcases effect.runOn found with ⟨f | run, left⟩
  · exact left.leave_eq before
  · cases run with
    | finished result => exact left.leave_eq before
    | _ => exact ⟨left.ownership, rfl⟩

/-- A save reaches the store and is noted, or it is not made at all. -/
theorem persist_cases (execution : Execution) (engine : Engine η) :
    ((persist execution).runOn engine).2 = engine ∨
      ∃ store kept, ((persist execution).runOn engine).2 =
        engine.stored store (.saved execution.copied kept) := by
  rw [persist, Effect.runOn_lift_bind]
  cases taken : execution.snapshot with
  | error f => exact .inl rfl
  | ok snapshot =>
    obtain ⟨-, rfl⟩ := Execution.snapshot_eq_ok.mp taken
    obtain same | made := callStore_left "save" (save execution.copied) engine
    · exact .inl same
    · rw [save_eq] at made
      exact .inr ⟨_, _, made⟩

end Engine

namespace Turn

open Engine

variable {turn : Turn η} {work : Work}

theorem after_of_saving (saving : turn.run.saving? = some work) :
    turn.after = conclude turn.run (stage turn.run) turn.found := by
  obtain ⟨run, found, heard⟩ := turn
  cases run with
  | calling work attempt handler input => cases saving
  | _ => rfl

/-- A save that fails ends the run. -/
theorem after_of_unsaved {f : Fault} {left : Engine η} (sound : turn.run.IsSound)
    (saving : turn.run.saving? = some work)
    (failed : (persist work.execution).runOn turn.found = (.error f, left)) :
    turn.after = (.finished (.error f), left.leave turn.run) := by
  obtain ⟨rest, staged, -⟩ := stage_of_saving sound saving
  rw [after_of_saving saving]
  refine conclude_error ?_
  rw [staged, Effect.runOn_bind, failed]

/-- A turn that saves leaves the engine as the save does, but for who owns the record. -/
theorem left_of_saving (sound : turn.run.IsSound) (saving : turn.run.saving? = some work) :
    ∃ ownership, turn.after.2 =
      { ((persist work.execution).runOn turn.found).2 with ownership } := by
  obtain ⟨rest, staged, unchanged⟩ := stage_of_saving sound saving
  obtain ⟨ownership, same⟩ := conclude_left turn.run (stage turn.run) turn.found
  refine ⟨ownership, ?_⟩
  rw [after_of_saving saving, same, staged, Effect.runOn_bind]
  rcases (persist work.execution).runOn turn.found with ⟨f | _, left⟩
  · rfl
  · dsimp only
    rw [unchanged]

/-- The call of a handler, which is all that a turn without a save adds to the trace. -/
def called (turn : Turn η) : List (Event η) :=
  match turn.run with
  | .dispatching work attempt input =>
    match turn.found.reach attempt with
    | .handler handler =>
      [.called (some work.execution.id) attempt.step.agent attempt.step.action handler input]
    | _ => []
  | _ => []

/-- A turn without a save leaves the store alone. -/
theorem left_of_unsaving (sound : turn.run.IsSound) (unsaving : turn.run.saving? = none) :
    ∃ ownership, turn.after.2 =
      { turn.found with ownership, trace := turn.found.trace ++ turn.called } := by
  obtain ⟨run, found, heard⟩ := turn
  cases run with
  | loading claimed => exact sound.elim
  | waiting work =>
    obtain ⟨ownership, same⟩ := conclude_left (.waiting work) (stage (.waiting work)) found
    refine ⟨ownership, ?_⟩
    change (conclude _ _ _).2 = _
    rw [same, stage, enter_eq, called, List.append_nil]
    obtain kept | held := entering_left found work
    · rw [kept]
    · rw [held]
  | dispatching work attempt input =>
    obtain ⟨ownership, same⟩ := conclude_left (.dispatching work attempt input)
      (stage (.dispatching work attempt input)) found
    refine ⟨ownership, ?_⟩
    change (conclude _ _ _).2 = _
    rw [same, stage, dispatch_eq sound.1]
    cases reached : found.reach attempt with
    | handler handler => simp only [called, reached, record]
    | refused f => simp [called, reached]
    | late => simp [called, reached]
  | calling work attempt handler input =>
    obtain ⟨ownership, same⟩ := conclude_left (.calling work attempt handler input)
      (receive work attempt heard) found
    refine ⟨ownership, ?_⟩
    change (conclude _ _ _).2 = _
    rw [same, receive_eq sound.1, called, List.append_nil]
  | finished result =>
    refine ⟨found.ownership, ?_⟩
    rw [after_of_finished rfl, called, List.append_nil]
  | opening work => cases unsaving
  | recording work step result => cases unsaving
  | closing work => cases unsaving

/-- Loading is not noted and leaves the record of every id what it is. -/
theorem left_of_loading {claimed : Value} (loading : turn.run = .loading claimed) (id : Value) :
    turn.events = [] ∧ turn.found.store.Keeps id turn.after.2.store := by
  have loads := turn.after_loads loading
  generalize final : turn.after = place at loads
  cases loads with
  | @refused f store alike =>
    refine ⟨events_of_trace (by rw [final]; simp [Engine.release]), alike.keeps id⟩
  | @taken record store workflow lock ownership alike loaded running registered locked =>
    obtain kept | held := entering_left { turn.found with store, ownership }
      (workOn claimed lock workflow record)
    · exact ⟨events_of_trace (by rw [final, kept]; simp), by rw [kept]; exact alike.keeps id⟩
    · exact ⟨events_of_trace (by rw [final, held]; simp), by rw [held]; exact alike.keeps id⟩

/-! ## Snapshots -/

theorem saved?_of_saves {left : Engine η} (saving : turn.run.saving? = some work)
    (saved : turn.found.Saves work.execution left) :
    turn.saved? = some work.execution.copied := by
  rw [saved?, saving, Option.bind_some, saved]

theorem saved?_of_unsaved {f : Fault} {left : Engine η} (saving : turn.run.saving? = some work)
    (failed : (persist work.execution).runOn turn.found = (.error f, left)) :
    turn.saved? = none := by
  rw [saved?, saving, Option.bind_some, failed]

theorem saved?_of_unsaving (unsaving : turn.run.saving? = none) : turn.saved? = none := by
  rw [saved?, unsaving, Option.bind_none]

/-- Whatever was saved is the snapshot of a record that was to be saved. -/
theorem saves_of_saved? {snapshot : Execution} (saved : turn.saved? = some snapshot) :
    ∃ work left, turn.run.saving? = some work ∧ turn.found.Saves work.execution left ∧
      snapshot = work.execution.copied := by
  obtain ⟨work, saving, made⟩ := Option.bind_eq_some_iff.mp saved
  rcases came : (persist work.execution).runOn turn.found with ⟨_ | ⟨⟨⟩⟩, left⟩
  · simp [came] at made
  · rw [came] at made
    exact ⟨work, left, saving, came, (Option.some.inj made).symm⟩

/-- A turn that has saved a snapshot noted it, and the store holds it. -/
theorem holds_of_saves {left : Engine η} {id : String} (sound : turn.run.IsSound)
    (saving : turn.run.saving? = some work) (named : work.execution.id = .str id)
    (saved : turn.found.Saves work.execution left) :
    turn.events = [.saved work.execution.copied true] ∧
      turn.after.2.store.Holds work.execution.copied := by
  obtain ⟨trace, holds⟩ := saved.holds named
  obtain ⟨ownership, same⟩ := left_of_saving sound saving
  rw [saved] at same
  exact ⟨events_of_trace (by rw [same]; exact trace), by rw [same]; exact holds⟩

/-- What was not saved leaves at most a note. -/
theorem events_of_saving (sound : turn.run.IsSound) (saving : turn.run.saving? = some work) :
    turn.events = [] ∨ ∃ kept, turn.events = [.saved work.execution.copied kept] := by
  obtain ⟨ownership, same⟩ := left_of_saving sound saving
  obtain unmade | ⟨store, kept, made⟩ := persist_cases work.execution turn.found
  · rw [unmade] at same
    exact .inl (events_of_trace (by rw [same]; simp))
  · rw [made] at same
    exact .inr ⟨kept, events_of_trace (by rw [same]; rfl)⟩

theorem events_of_unsaving (sound : turn.run.IsSound) (unsaving : turn.run.saving? = none) :
    turn.events = turn.called := by
  obtain ⟨ownership, same⟩ := left_of_unsaving sound unsaving
  exact events_of_trace (by rw [same])

end Turn

end Stepwise
