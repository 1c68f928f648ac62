import Stepwise.Proofs.Engine.Quiet

/-!
# Turns on a quiet engine

Where a turn leads on a quiet engine, and what it notes, is a function of the run, of the registries
and limits of the engine, of the time, and of what is heard. What it leaves to other runs is as
little: in the store it changes at most the record of its own id, and it owns what it has owned or
gives it up, but for the one lock that a run takes when it has loaded its record.
-/

namespace Stepwise

variable {η : Type}

namespace Engine

/-- Where a turn leads and what it notes. -/
def play (engine : Engine η) (heard : Outcome) : Run η → Run η × List (Event η)
  | .opening work =>
    (.orFault (engine.keeping work.execution >>= fun _ => engine.onward work.opened),
      engine.noted work.execution)
  | .recording work step result =>
    (.orFault (engine.keeping work.execution >>= fun _ =>
      settle work step result >>= engine.onward), engine.noted work.execution)
  | .closing work =>
    (.orFault (engine.keeping work.execution >>= fun _ => .ok (.finished (.ok work.execution))),
      engine.noted work.execution)
  | .dispatching work attempt input =>
    match engine.reach attempt with
    | .handler h =>
      (.calling work attempt h input,
        [.called (some work.execution.id) attempt.step.agent attempt.step.action h input])
    | .refused f => (.orFault (engine.failed work attempt (dispatchFault attempt.step f)), [])
    | .late => (.orFault (engine.failed work attempt (expiry attempt)), [])
  | .calling work attempt _ _ =>
    (.orFault (match heard with
      | .returned v => engine.answered work attempt v
      | .raised f => engine.failed work attempt
        (dispatchFault attempt.step (Fault.ofHandler attempt.step.agent attempt.step.action f))
      | .expired => engine.failed work attempt (expiry attempt)), [])
  | run => (run, [])

/-- A turn comes to what its effect comes to, and leaving adds nothing to the trace. -/
theorem conclude_run (before : Run η) (effect : Effect (Engine η) (Run η)) (found : Engine η) :
    (conclude before effect found).1 = .orFault (effect.runOn found).1 := by
  rw [conclude]
  rcases effect.runOn found with ⟨f | run, left⟩
  · rfl
  · cases run <;> rfl

theorem conclude_trace (before : Run η) (effect : Effect (Engine η) (Run η)) (found : Engine η) :
    (conclude before effect found).2.trace = (effect.runOn found).2.trace := by
  obtain ⟨ownership, left⟩ := conclude_left before effect found
  rw [left]

end Engine

/-- A run that goes on does not wait. -/
theorem Engine.Goes.free {engine : Engine η} {work : Work} {next : Run η}
    (goes : engine.Goes work next) : ∀ other, next ≠ .waiting other := by
  intro other waits
  cases goes with
  | ended ends => cases waits
  | stopped left unhalted asked told => cases waits
  | @begins step later outset left unhalted unasked comes => cases outset <;> cases waits

/-- A run that does not wait does not come to wait. -/
theorem Advances.free {found left : Engine η} {heard : Outcome} {run next : Run η}
    (advances : Advances found heard run next left) (free : ∀ work, run ≠ .waiting work) :
    ∀ work, next ≠ .waiting work := by
  intro other waits
  cases advances with
  | waits held => exact free _ rfl
  | enters unheld => cases waits
  | opens saved goes => exact goes.free other waits
  | calls reached => cases waits
  | misses missed made =>
    obtain ⟨result, -, rfl⟩ := Engine.failed_ok made
    cases waits
  | answers returned made =>
    obtain ⟨outputs, -, rfl⟩ := Engine.answered_ok made
    cases waits
  | fails caused made =>
    obtain ⟨result, -, rfl⟩ := Engine.failed_ok made
    cases waits
  | records saved meant goes => exact goes.free other waits
  | closes saved => cases waits
  | rests result => cases waits

namespace Turn

open Engine

variable {turn : Turn η}

/-- What a run works on has a name, and the run does not wait for a lock. -/
structure IsAtWork (run : Run η) : Prop where
  sound : run.IsSound
  named : ∀ work, run.work? = some work → work.execution.id.IsName
  free : ∀ work, run ≠ .waiting work

/-- A turn that saves comes to what its save and what follows it come to. -/
theorem play_of_saving {work : Work} {rest : PUnit → Effect (Engine η) (Run η)}
    {next : Except Fault (Run η)} (quiet : turn.found.IsQuiet)
    (name : work.execution.id.IsName) (saving : turn.run.saving? = some work)
    (staged : stage turn.run = persist work.execution >>= rest)
    (goesOn : ∀ store trace, IsQuiet { turn.found with store, trace } →
      (rest ⟨⟩).runOn { turn.found with store, trace } =
        (next, { turn.found with store, trace })) :
    turn.after.1 = .orFault (turn.found.keeping work.execution >>= fun _ => next) ∧
      turn.events = turn.found.noted work.execution := by
  obtain ⟨store, came, plan, backing⟩ := persist_of_quiet quiet name
  have left : IsQuiet { turn.found with
      store, trace := turn.found.trace ++ turn.found.noted work.execution } := by
    obtain ⟨⟨kept, inMemory⟩, unplanned, unasked⟩ := quiet
    refine ⟨?_, plan.trans unplanned, unasked⟩
    obtain same | changed := backing kept inMemory
    · exact ⟨_, same⟩
    · exact ⟨_, changed⟩
  have effect : (stage turn.run).runOn turn.found =
      (turn.found.keeping work.execution >>= fun _ => next,
        { turn.found with
          store, trace := turn.found.trace ++ turn.found.noted work.execution }) := by
    rw [staged, Effect.runOn_bind, came]
    cases turn.found.keeping work.execution with
    | error f => rfl
    | ok _ => exact goesOn _ _ left
  rw [after_of_saving saving, conclude_run, effect]
  refine ⟨rfl, events_of_trace ?_⟩
  rw [after_of_saving saving, conclude_trace, effect]

/-- The turn of a run at work on a quiet engine leads where it is played to, and notes no more. -/
theorem after_of_quiet (quiet : turn.found.IsQuiet) (atWork : IsAtWork turn.run) :
    turn.after.1 = (turn.found.play turn.heard turn.run).1 ∧
      turn.events = (turn.found.play turn.heard turn.run).2 := by
  obtain ⟨sound, named, free⟩ := atWork
  obtain ⟨run, found, heard⟩ := turn
  dsimp only at quiet sound named free ⊢
  cases run with
  | loading claimed => exact sound.elim
  | waiting work => exact absurd rfl (free work)
  | opening work =>
    refine play_of_saving quiet (named work rfl) rfl rfl fun store trace left => ?_
    exact next_of_quiet left sound
  | recording work step result =>
    refine play_of_saving quiet (named work rfl) rfl rfl fun store trace left => ?_
    rw [Effect.runOn_lift_bind]
    cases meant : settle work step result with
    | error f => rfl
    | ok settled => exact next_of_quiet left ((settle_running meant).trans sound)
  | closing work =>
    exact play_of_saving quiet (named work rfl) rfl rfl fun store trace left => rfl
  | dispatching work attempt input =>
    have effect := dispatch_eq sound.1 attempt input found
    have came : (Turn.after ⟨.dispatching work attempt input, found, heard⟩) =
        conclude (.dispatching work attempt input) (dispatch work attempt input) found := rfl
    refine ⟨?_, events_of_trace ?_⟩
    · rw [came, conclude_run, effect, play]
      cases found.reach attempt <;> rfl
    · rw [came, conclude_trace, effect, play]
      cases found.reach attempt with
      | handler h => rfl
      | _ => exact (List.append_nil _).symm
  | calling work attempt handler input =>
    have effect := receive_eq sound.1 attempt heard found
    have came : (Turn.after ⟨.calling work attempt handler input, found, heard⟩) =
        conclude (.calling work attempt handler input) (receive work attempt heard) found := rfl
    refine ⟨?_, events_of_trace ?_⟩
    · rw [came, conclude_run, effect]
      cases heard <;> rfl
    · rw [came, conclude_trace, effect]
      exact (List.append_nil _).symm
  | finished result =>
    have silent : Turn.events ⟨.finished result, found, heard⟩ = [] := events_of_finished rfl
    exact ⟨rfl, silent⟩

/-- A run that has nothing to load and does not wait stands so after its turn, with work that
continues what it had. -/
theorem place_of_sound (turn : Turn η) (sound : turn.run.IsSound)
    (free : ∀ work, turn.run ≠ .waiting work) :
    (∀ claimed, turn.after.1 ≠ .loading claimed) ∧ (∀ work, turn.after.1 ≠ .waiting work) ∧
      ∀ later, turn.after.1.work? = some later →
        ∃ work, turn.run.work? = some work ∧ work.Continues later := by
  obtain ⟨f, left, -, broken⟩ | advances := turn.advances_or_breaksOff sound
  · rw [broken]
    refine ⟨fun claimed loading => ?_, fun work waiting => ?_, fun later comes => ?_⟩
    · cases loading
    · cases waiting
    · cases comes
  · refine ⟨fun claimed loading => ?_, advances.free free, fun later comes => ?_⟩
    · have soundly := advances.sound sound
      rw [loading] at soundly
      exact soundly
    · obtain ⟨work, stands, continues, -⟩ := advances.work_before sound comes
      exact ⟨work, stands, continues⟩

/-- A run that does not wait owns after its turn what it owned, or it has given it up. -/
theorem leadsTo_of_work {work : Work} (sound : turn.run.IsSound)
    (free : ∀ work, turn.run ≠ .waiting work) (stands : turn.run.work? = some work) :
    turn.found.ownership.LeadsTo turn.after.2.ownership work.claimed := by
  have unmoved := turn.found.ownership.leadsTo_refl work.claimed
  have leaving {left : Engine η} (same : left.ownership = turn.found.ownership) :
      turn.found.ownership.LeadsTo (left.leave turn.run).ownership work.claimed := by
    have left := (turn.found.ownership.leadsTo_letGo work.lock work.claimed).trans
      (Ownership.leadsTo_release _ work.claimed work.claimed)
    rw [← same] at left ⊢
    generalize turn.run = run at free stands
    cases run with
    | waiting other => exact absurd rfl (free other)
    | loading claimed => cases stands
    | finished result => cases stands
    | _ =>
      cases stands
      exact left
  obtain ⟨f, left, breaks, broken⟩ | advances := turn.advances_or_breaksOff sound
  · rw [broken]
    exact leaving breaks.ownership
  · obtain ⟨run, found, heard⟩ := turn
    dsimp only at free leaving stands unmoved ⊢
    generalize place : Turn.after ⟨run, found, heard⟩ = after at advances ⊢
    obtain ⟨next, left⟩ := after
    dsimp only at advances ⊢
    cases advances with
    | waits held => exact absurd rfl (free _)
    | enters unheld => exact absurd rfl (free _)
    | opens saved goes => exact saved.ownership ▸ unmoved
    | records saved meant goes => exact saved.ownership ▸ unmoved
    | closes saved => exact leaving saved.ownership
    | _ => exact unmoved

/-- What the turn of a run at work leaves to others: in the store only the record of its own id may
have changed, and the run owns what it owned or has given it up. -/
theorem left_of_quiet (turn : Turn η) {work : Work} (quiet : turn.found.IsQuiet)
    (atWork : IsAtWork turn.run) (stands : turn.run.work? = some work) :
    ∃ store ownership trace, turn.after.2 = { turn.found with store, ownership, trace } ∧
      store.plan = turn.found.store.plan ∧
      (∀ kept, turn.found.store.backing = .memory kept → store.backing = .memory kept ∨
        store.backing = .memory (kept.insert work.execution.id work.execution.copied.copied)) ∧
      turn.found.ownership.LeadsTo ownership work.claimed := by
  obtain ⟨sound, named, free⟩ := atWork
  have owns := leadsTo_of_work sound free stands
  cases saving : turn.run.saving? with
  | some saved =>
    obtain rfl : saved = work :=
      Option.some.inj ((Run.work?_of_saving saving).symm.trans stands)
    obtain ⟨ownership, left⟩ := left_of_saving sound saving
    obtain ⟨store, came, plan, backing⟩ := persist_of_quiet quiet (named saved stands)
    rw [came] at left
    rw [left] at owns ⊢
    exact ⟨store, ownership, _, rfl, plan, backing, owns⟩
  | none =>
    obtain ⟨ownership, left⟩ := left_of_unsaving sound saving
    rw [left] at owns ⊢
    exact ⟨turn.found.store, ownership, _, rfl, rfl, fun _ same => .inl same, owns⟩

/-- The turn that loads a record on a quiet engine leads where the record is taken up, and the only
lock that is new is one under its id. -/
theorem after_of_quiet_loading (turn : Turn η) {id : String} (quiet : turn.found.IsQuiet)
    (loading : turn.run = .loading (.str id))
    (filed : ∀ record, turn.found.store.kept? id = some record → record.id = .str id)
    (orderly : turn.found.ownership.IsOrderly)
    (unlocked : turn.found.ownership.locks.find? (.str id) = none) :
    turn.after.1 = .orFault (turn.found.loaded id >>= turn.found.takingUp (.str id)) ∧
      ∃ store ownership, turn.after.2 = { turn.found with store, ownership } ∧
        store.plan = turn.found.store.plan ∧ store.backing = turn.found.store.backing ∧
        turn.found.ownership.LeadsTo ownership (.str id) := by
  obtain ⟨run, found, heard⟩ := turn
  dsimp only at quiet loading filed orderly unlocked ⊢
  subst loading
  obtain ⟨store, given, plan, backing⟩ := getExecution_of_quiet quiet id
  have came : Turn.after ⟨.loading (.str id), found, heard⟩ =
      conclude (.loading (.str id)) (stage (.loading (.str id))) found := rfl
  rw [came]
  cases answer : found.loaded id with
  | error f =>
    rw [answer] at given
    have refused : (stage (Run.loading (.str id))).runOn found =
        (.error f, { found with store }) := by
      rw [stage, Effect.runOn_bind, given]
    rw [conclude_error refused]
    exact ⟨rfl, store, _, rfl, plan, backing, Ownership.leadsTo_release _ _ _⟩
  | ok record =>
    rw [answer] at given
    have staged : (stage (Run.loading (.str id))).runOn found =
        (takeUp (.str id) record).runOn { found with store } := by
      rw [stage, Effect.runOn_bind, given]
    have named := loaded_named filed answer
    obtain ⟨f, met, refused⟩ | ⟨run, begun, onward, taken⟩ :=
      takeUp_of_unlocked { found with store } named orderly unlocked
    · have same : found.takingUp (.str id) record = .error f := met
      rw [conclude_error (staged.trans refused)]
      refine ⟨?_, store, _, rfl, plan, backing, Ownership.leadsTo_release _ _ _⟩
      exact congrArg Run.orFault same.symm
    · have same : found.takingUp (.str id) record = .ok run := begun
      rw [conclude_onward (staged.trans taken) onward]
      refine ⟨?_, store, _, rfl, plan, backing, Ownership.leadsTo_locking unlocked⟩
      exact congrArg Run.orFault same.symm

end Turn

end Stepwise
