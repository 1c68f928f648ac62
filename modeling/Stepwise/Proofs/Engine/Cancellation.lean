import Stepwise.Proofs.Engine.Reason
import Stepwise.Proofs.Engine.Stopping

/-!
# Canceling

Asking a run to stop takes effect at the next place where the run would begin a step. Between the
request and that place anything may happen on the engine: other calls start, take turns, ask and
end, and handlers do so from inside. Along every path of the system from the request on, the run
keeps its place, the request stands until the run is over, and so each of its turns is one of a run
that begins no step any more.
-/

namespace Stepwise

variable {η : Type}

namespace Turn

variable {turn : Turn η} {execution : Execution}

/-- A run that has not come to its end keeps its claim. -/
theorem claimed?_after (own : turn.run.IsOwn) (onward : turn.after.1.result? = none) :
    turn.after.1.claimed? = turn.run.claimed? := by
  obtain ⟨claimed, loading⟩ | sound := own.sound
  · have loads := turn.after_loads loading
    generalize turn.after = place at loads onward ⊢
    cases loads with
    | refused alike => cases onward
    | taken alike loaded running registered locked =>
      rw [Engine.entering_claimed, loading]
      rfl
  · obtain ⟨f, faults⟩ | advances := turn.advances_or_faults sound
    · rw [faults] at onward
      cases onward
    · cases ended : turn.run.result? with
      | some result =>
        rw [after_of_finished (Run.eq_of_result? ended)] at onward
        cases onward
      | none =>
        obtain ⟨work, stands⟩ := sound.work ended
        obtain ⟨later, comes, continues, -⟩ | ⟨-, finished⟩ := advances.continues stands
        · rw [Run.claimed?_of_work comes, Run.claimed?_of_work stands, continues.claimed]
        · rw [finished] at onward
          cases onward

theorem isAware_after (own : turn.run.IsOwn) (aware : turn.run.IsAware) :
    turn.after.1.IsAware := by
  obtain ⟨claimed, loading⟩ | sound := own.sound
  · have loads := turn.after_loads loading
    generalize turn.after = place at loads ⊢
    cases loads with
    | refused alike => trivial
    | taken alike loaded running registered locked =>
      exact Engine.entering_holds Run.IsAware trivial trivial _
  · obtain ⟨f, faults⟩ | advances := turn.advances_or_faults sound
    · rw [faults]
      trivial
    · exact advances.isAware aware

/-- What a run comes to after a turn it came to before it, unless a step begins in the turn. -/
theorem stopsAt (own : turn.run.IsOwn) (aware : turn.run.IsAware) (last : turn.run.IsLast turn.found)
    (comes : turn.after.1.StopsAt execution) : turn.run.StopsAt execution := by
  obtain ⟨claimed, loading⟩ | sound := own.sound
  · rw [loading]
    trivial
  · obtain ⟨f, faults⟩ | advances := turn.advances_or_faults sound
    · rw [faults] at comes
      exact comes.elim
    · exact advances.stopsAt aware last comes

/-- A turn in which no step begins keeps the number of steps that have begun. -/
theorem begun_after (own : turn.run.IsOwn) (last : turn.run.IsLast turn.found)
    (present : turn.run.begun? ≠ none) (onward : turn.after.1.result? = none) :
    turn.after.1.begun? = turn.run.begun? ∧ turn.after.1.left = turn.run.left := by
  obtain ⟨claimed, loading⟩ | sound := own.sound
  · rw [loading] at present
    exact absurd rfl present
  · obtain ⟨f, faults⟩ | advances := turn.advances_or_faults sound
    · rw [faults] at onward
      cases onward
    · exact advances.begun last onward

end Turn

namespace Run

variable {run : Run η}

/-- Where a run has work, it can be told how many of its steps have begun. -/
theorem begun?_of_work {work : Work} (stands : run.work? = some work) : run.begun? ≠ none := by
  cases run <;> cases stands <;> exact Option.some_ne_none _

end Run

namespace System

variable {system next final : System η} {place : Nat} {run : Run η} {id : String}
  {execution : Execution}

/-- All runs stand as runs do, and know what they have to about stopping. -/
structure IsSound (system : System η) : Prop where
  orderly : system.IsOrderly
  aware : ∀ run ∈ system.runs, run.IsAware

theorem Step.isSound (step : Step system next) (sound : system.IsSound) : next.IsSound := by
  refine ⟨step.isOrderly sound.orderly, ?_⟩
  obtain ⟨orderly, aware⟩ := sound
  cases step with
  | executed runs engine workflowId input =>
    refine List.forall_mem_append.mpr ⟨aware, List.forall_mem_singleton.mpr ?_⟩
    obtain ⟨f, issued, refused⟩ | ⟨-, -, ⟨f, refused⟩ | begun⟩ :=
      Engine.startExecution_cases workflowId input engine
    · rw [refused]
      trivial
    · rw [refused]
      trivial
    · obtain ⟨workflow, given, lock, ownership, -, -, -, begun⟩ := begun
      rw [begun]
      exact Engine.entering_holds Run.IsAware trivial trivial _
  | resumed runs engine other =>
    refine List.forall_mem_append.mpr ⟨aware, List.forall_mem_singleton.mpr ?_⟩
    obtain ⟨f, refused⟩ | ⟨-, -, begun⟩ := Engine.startResumption_cases other engine
    · rw [refused]
      trivial
    · rw [begun]
      trivial
  | turned before later turn faithful =>
    simp only [List.forall_mem_append, List.forall_mem_cons] at aware ⊢
    have own := orderly.own turn.run (by simp)
    exact ⟨aware.1, turn.isAware_after own aware.2.1, aware.2.2⟩
  | canceled runs engine other => exact aware
  | abandoned before later given engine f onward =>
    simp only [List.forall_mem_append, List.forall_mem_cons] at aware ⊢
    exact ⟨aware.1, trivial, aware.2.2⟩
  | elsewhere runs engine changed unowned => exact aware

theorem Reachable.isSound (reachable : system.Reachable) : system.IsSound := by
  induction reachable with
  | idle engine unowned =>
    exact ⟨(Reachable.idle engine unowned).isOrderly, by simp⟩
  | stepped _ step inductionHypothesis => exact step.isSound inductionHypothesis

theorem Reachable.along (reachable : system.Reachable)
    (path : Relation.ReflTransGen Step system next) : next.Reachable := by
  induction path with
  | refl => exact reachable
  | tail _ step inductionHypothesis => exact .stepped inductionHypothesis step

theorem IsSound.along (sound : system.IsSound) (path : Relation.ReflTransGen Step system next) :
    next.IsSound := by
  induction path with
  | refl => exact sound
  | tail _ step inductionHypothesis => exact step.isSound inductionHypothesis

/-- The run at a place, as long as it is under way, is of the id and has been asked to stop. -/
def Asks (system : System η) (place : Nat) (id : String) : Prop :=
  ∀ run, system.runs[place]? = some run → run.result? = none →
    run.claimed? = some (.str id) ∧
      system.engine.ownership.isCancelRequested (.str id) = true

/-- What a run under way has claimed is active. -/
theorem IsOrderly.isActive (orderly : system.IsOrderly) (stands : system.runs[place]? = some run)
    (claimed : run.claimed? = some (.str id)) :
    system.engine.ownership.isActive (.str id) = true := by
  rw [orderly.registers.isActive_eq]
  have member : .str id ∈ system.claims :=
    List.mem_filterMap.mpr ⟨run, List.mem_of_getElem? stands, claimed⟩
  exact Value.isAmong_iff.mpr ⟨_, member, Value.same_str_self id⟩

/-- A step that takes a run somewhere under way takes it from somewhere under way, and the run keeps
its claim. -/
theorem MovesTo.claimed {later : Run η} (moves : MovesTo system next run later)
    (own : run.IsOwn) (onward : later.result? = none) :
    run.result? = none ∧ later.claimed? = run.claimed? := by
  cases moves with
  | stays => exact ⟨onward, rfl⟩
  | ends f => cases onward
  | turns turn stands found faithful left =>
    subst stands
    exact ⟨Turn.unfinished_before onward, turn.claimed?_after own onward⟩

/-- The request stands as long as the run is under way. -/
theorem Step.asks (step : Step system next) (orderly : system.IsOrderly)
    (stands : system.runs[place]? = some run) (asks : system.Asks place id) :
    next.Asks place id := by
  intro later there onward
  obtain ⟨moved, reached, moves⟩ := step.movesTo stands
  obtain rfl : moved = later := Option.some.inj (reached.symm.trans there)
  obtain ⟨before, same⟩ := moves.claimed (orderly.own run (List.mem_of_getElem? stands)) onward
  obtain ⟨claimed, made⟩ := asks run stands before
  rw [claimed] at same
  exact ⟨same, step.requested orderly made ((step.isOrderly orderly).isActive there same)⟩

/-- A run that was asked to stop begins no step any more. -/
theorem Asks.isLast (asks : system.Asks place id) (orderly : system.IsOrderly)
    (stands : system.runs[place]? = some run) : run.IsLast system.engine := by
  intro work there
  have onward : run.result? = none := by cases run <;> cases there <;> rfl
  obtain ⟨claimed, made⟩ := asks run stands onward
  have own := (orderly.own run (List.mem_of_getElem? stands)).own work there
  rw [Run.claimed?_of_work there, Option.some.injEq] at claimed
  rw [claimed] at own
  rw [Value.eq_str_of_same own]
  exact .inl made

/-- What a run at a place comes to that begins no step any more, step by step of the system. -/
theorem Step.stopsAt (step : Step system next) (sound : system.IsSound)
    (stands : system.runs[place]? = some run) (last : run.IsLast system.engine)
    (comes : ∀ later, next.runs[place]? = some later → later.StopsAt execution) :
    run.StopsAt execution := by
  obtain ⟨later, there, moves⟩ := step.movesTo stands
  have onward := comes later there
  cases moves with
  | stays => exact onward
  | ends f => exact onward.elim
  | turns turn same found faithful left =>
    subst same
    have member := List.mem_of_getElem? stands
    exact turn.stopsAt (sound.orderly.own _ member) (sound.aware _ member) (found ▸ last) onward

/-- The places of runs stay. -/
theorem stays_along (path : Relation.ReflTransGen Step system next)
    (stands : system.runs[place]? = some run) : ∃ later, next.runs[place]? = some later := by
  induction path with
  | refl => exact ⟨run, stands⟩
  | tail _ step inductionHypothesis =>
    obtain ⟨later, there⟩ := inductionHypothesis
    obtain ⟨moved, reached, -⟩ := step.movesTo there
    exact ⟨moved, reached⟩

theorem Asks.along (asks : system.Asks place id) (sound : system.IsSound)
    (stands : system.runs[place]? = some run) (path : Relation.ReflTransGen Step system next) :
    next.Asks place id := by
  induction path with
  | refl => exact asks
  | tail path step inductionHypothesis =>
    obtain ⟨later, there⟩ := stays_along path stands
    exact step.asks (sound.along path).orderly there inductionHypothesis

/-- The record that a run returns is the one that it comes to from each place where it begins no step
any more. The induction goes from the end of the path backwards. -/
theorem stopsAt_along (path : Relation.ReflTransGen Step system final) (sound : system.IsSound)
    (last : ∀ mid, Relation.ReflTransGen Step system mid →
      ∀ run, mid.runs[place]? = some run → run.IsLast mid.engine)
    (returned : final.runs[place]? = some (.finished (.ok execution))) :
    ∀ run, system.runs[place]? = some run → run.StopsAt execution := by
  induction path using Relation.ReflTransGen.head_induction_on with
  | refl =>
    intro run stands
    obtain rfl := Option.some.inj (returned.symm.trans stands)
    rfl
  | head step path inductionHypothesis =>
    intro run stands
    have onward := inductionHypothesis (step.isSound sound)
      fun mid later => last mid (.head step later)
    exact step.stopsAt sound stands (last _ .refl run stands) onward

/-- The run at a place, as long as it is under way, has no step left. -/
def HasNoneLeft (system : System η) (place : Nat) : Prop :=
  ∀ run, system.runs[place]? = some run → run.result? = none →
    run.begun? ≠ none ∧ run.left = []

theorem HasNoneLeft.isLast (none_left : system.HasNoneLeft place)
    (stands : system.runs[place]? = some run) : run.IsLast system.engine := by
  intro work there
  have onward : run.result? = none := by cases run <;> cases there <;> rfl
  exact .inr (none_left run stands onward).2

/-- Where no step is left, none is left later on. -/
theorem Step.hasNoneLeft (step : Step system next) (sound : system.IsSound)
    (stands : system.runs[place]? = some run) (none_left : system.HasNoneLeft place) :
    next.HasNoneLeft place := by
  intro later there onward
  obtain ⟨moved, reached, moves⟩ := step.movesTo stands
  obtain rfl : moved = later := Option.some.inj (reached.symm.trans there)
  have member := List.mem_of_getElem? stands
  have own := sound.orderly.own run member
  obtain ⟨before, -⟩ := moves.claimed own onward
  obtain ⟨present, nothing⟩ := none_left run stands before
  cases moves with
  | stays => exact ⟨present, nothing⟩
  | ends f => cases onward
  | turns turn same found faithful left =>
    subst same
    have last := found ▸ none_left.isLast stands
    obtain ⟨counted, rest⟩ := turn.begun_after own last present onward
    exact ⟨counted ▸ present, rest.trans nothing⟩

theorem HasNoneLeft.along (none_left : system.HasNoneLeft place) (sound : system.IsSound)
    (stands : system.runs[place]? = some run) (path : Relation.ReflTransGen Step system next) :
    next.HasNoneLeft place := by
  induction path with
  | refl => exact none_left
  | tail path step inductionHypothesis =>
    obtain ⟨later, there⟩ := stays_along path stands
    exact step.hasNoneLeft (sound.along path) there inductionHypothesis

/-- From a request on, the number of steps that have begun stays what it is as long as the run is
under way. -/
theorem Asks.begun_along (asks : system.Asks place id) (sound : system.IsSound)
    (stands : system.runs[place]? = some run) (present : run.begun? ≠ none)
    (path : Relation.ReflTransGen Step system next) :
    ∀ later, next.runs[place]? = some later → later.result? = none → later.begun? = run.begun? := by
  induction path with
  | refl =>
    intro later there _
    obtain rfl := Option.some.inj (there.symm.trans stands)
    rfl
  | tail path step inductionHypothesis =>
    intro later there onward
    obtain ⟨mid, reached⟩ := stays_along path stands
    obtain ⟨moved, arrived, moves⟩ := step.movesTo reached
    obtain rfl : moved = later := Option.some.inj (arrived.symm.trans there)
    have along := sound.along path
    have own := along.orderly.own mid (List.mem_of_getElem? reached)
    obtain ⟨before, -⟩ := moves.claimed own onward
    have counted := inductionHypothesis mid reached before
    cases moves with
    | stays => exact counted
    | ends f => cases onward
    | turns turn same found faithful left =>
      subst same
      have asking := asks.along sound stands path
      have last := found ▸ asking.isLast along.orderly reached
      exact (turn.begun_after own last (counted ▸ present) onward).1.trans counted

/-- Asking a run to stop succeeds exactly when its id is claimed, and otherwise changes nothing.

When it succeeds for a run of a system, then from there on, whatever happens on the engine, the
number of its steps that have begun stays what it is as long as the run is under way. And when the
run returns a record, it is the one that the run stops at from wherever it stood since the request:
it has the results on record and that of the step in progress, and no others; it is failed if the
step in progress, or else the last one recorded, ends the run; otherwise it is canceled before the
next step if one is left; and if none is left its status is the one that is decided without a
cancellation, and the one that the run comes to from there on any other engine, asked or not, with
results of the same statuses. -/
theorem cancellation (id : String) :
    (∀ engine : Engine η, (Engine.cancel (.str id)).runOn engine =
      if engine.ownership.isActive (.str id) = true then (.ok true, engine.asked (.str id))
      else (.ok false, engine)) ∧
    ∀ (runs : List (Run η)) (engine asked : Engine η) (place : Nat) (run : Run η),
      Reachable ⟨runs, engine⟩ → runs[place]? = some run → run.claimed? = some (.str id) →
      (Engine.cancel (.str id)).runOn engine = (.ok true, asked) →
      ∀ (mid : System η) (going : Run η), Relation.ReflTransGen Step ⟨runs, asked⟩ mid →
        mid.runs[place]? = some going →
        (∀ (next : System η) (later : Run η), Relation.ReflTransGen Step mid next →
          next.runs[place]? = some later → going.begun? ≠ none → later.result? = none →
          later.begun? = going.begun?) ∧
        ∀ (final : System η) (execution : Execution), Relation.ReflTransGen Step mid final →
          final.runs[place]? = some (.finished (.ok execution)) →
          going.StopsAt execution ∧
          (going.work?.isSome = true → going.left = [] →
            ∀ (elsewhere last : System η) (spot : Nat) (other : Execution),
              elsewhere.Reachable → elsewhere.runs[spot]? = some going →
              Relation.ReflTransGen Step elsewhere last →
              last.runs[spot]? = some (.finished (.ok other)) →
              other.results.map StepResult.status = execution.results.map StepResult.status →
              other.status = execution.status) := by
  refine ⟨fun engine => engine.cancel_eq id, ?_⟩
  intro runs engine asked place run reachable stands claimed accepted mid going path there
  have left : asked = engine.asked (.str id) := by
    rw [engine.cancel_eq id, if_pos (reachable.isOrderly.isActive stands claimed)] at accepted
    exact (Prod.mk.inj accepted).2.symm
  have sound : IsSound ⟨runs, asked⟩ := by
    have step : Step ⟨runs, engine⟩ ⟨runs, asked⟩ := by
      have canceled := Step.canceled runs engine (.str id)
      rwa [accepted] at canceled
    exact (Reachable.stepped reachable step).isSound
  have asks : Asks ⟨runs, asked⟩ place id := by
    intro other same _
    obtain rfl := Option.some.inj (stands.symm.trans same)
    exact ⟨claimed, left ▸ engine.asked_requested id⟩
  have asking := asks.along sound stands path
  have along := sound.along path
  refine ⟨?_, ?_⟩
  · intro next later further reached present onward
    exact asking.begun_along along there present further later reached onward
  · intro final execution further returned
    have stops : going.StopsAt execution := by
      refine stopsAt_along further along ?_ returned going there
      intro state between other standing
      exact (asking.along along there between).isLast (along.along between).orderly standing
    refine ⟨stops, ?_⟩
    intro present nothing elsewhere last spot other possible standing onward came statuses
    obtain ⟨work, has⟩ := Option.isSome_iff_exists.mp present
    have firm := possible.isSound
    have none_left : elsewhere.HasNoneLeft spot := by
      intro one same _
      obtain rfl := Option.some.inj (standing.symm.trans same)
      exact ⟨Run.begun?_of_work has, nothing⟩
    have also : going.StopsAt other := by
      refine stopsAt_along onward firm ?_ came going standing
      intro state between one same
      exact (none_left.along firm standing between).isLast same
    exact stops.status_eq also has nothing statuses

/-! ## Moves as a path -/

/-- A run that is moved on among others, by handlers that leave the engine alone, takes its turns in
the system. -/
theorem path_of_moves {behave : Behavior η}
    (still : ∀ handler input engine, (behave handler input engine).2 = engine)
    (before later : List (Run η)) (count : Nat) (run : Run η) (engine : Engine η)
    (faithful : ∀ turn ∈ Engine.turnsOf behave count run engine, turn.IsFaithful) :
    Relation.ReflTransGen Step ⟨before ++ run :: later, engine⟩
      ⟨before ++ (Engine.moves behave count run engine).1 :: later,
        (Engine.moves behave count run engine).2⟩ := by
  induction count generalizing run engine with
  | zero => exact .refl
  | succ count inductionHypothesis =>
    rw [Engine.turnsOf, List.forall_mem_cons] at faithful
    have turned := Step.turned before later (Engine.turnOf behave run engine) faithful.1
    rw [Engine.turnOf_run, Engine.turnOf_found still, ← Engine.move_eq_after] at turned
    exact .head turned (inductionHypothesis _ _ faithful.2)

end System

/-- Whether a turn is faithful can be seen by loading. -/
def Turn.loadsOwn (turn : Turn η) : Bool :=
  match turn.run with
  | .loading claimed =>
    ((Store.load claimed).runOn turn.found.store).1.toOption.join.all fun record =>
      record.id.same claimed
  | _ => true

theorem Turn.isFaithful_of_loadsOwn {turn : Turn η} (own : turn.loadsOwn = true) :
    turn.IsFaithful := by
  intro claimed record left loading loaded
  simpa [loadsOwn, loading, loaded, Except.toOption] using own

namespace Letters

theorem behave_still (handler : Bool) (input : Value) (engine : Engine Bool) :
    (behave handler input engine).2 = engine := rfl

theorem faithful_of_all {turns : List (Turn Bool)} (own : turns.all Turn.loadsOwn = true) :
    ∀ turn ∈ turns, turn.IsFaithful :=
  fun turn member => Turn.isFaithful_of_loadsOwn (List.all_eq_true.mp own turn member)

/-- The first letter is being fetched. -/
def fetching : Run Bool × Engine Bool := Engine.moves behave 2 started.1 started.2

/-- Asked to stop while the first letter is fetched, the execution is canceled with its result. -/
theorem canceled_while_fetching : ∃ (execution : Execution) (left : Engine Bool),
    (Engine.cancel (.str "exec-1")).runOn fetching.2 =
      (.ok true, fetching.2.asked (.str "exec-1")) ∧
    Relation.ReflTransGen System.Step ⟨[fetching.1], fetching.2.asked (.str "exec-1")⟩
      ⟨[.finished (.ok execution)], left⟩ ∧
    execution.status = .canceled ∧ execution.results.length = 1 := by
  have first : System.Reachable ⟨[started.1], started.2⟩ :=
    .stepped (.idle engine rfl) (.executed [] engine (.str "letters") .null)
  have reachable : System.Reachable ⟨[fetching.1], fetching.2⟩ := by
    have path := System.path_of_moves behave_still [] [] 2 started.1 started.2
      (faithful_of_all (by decide +kernel))
    exact first.along path
  have accepted : (Engine.cancel (.str "exec-1")).runOn fetching.2 =
      (.ok true, fetching.2.asked (.str "exec-1")) := by
    rw [Engine.cancel_eq, if_pos (by decide +kernel)]
  have path := System.path_of_moves behave_still [] [] 3 fetching.1
    (fetching.2.asked (.str "exec-1")) (faithful_of_all (by decide +kernel))
  have ends : (Engine.moves behave 3 fetching.1
      (fetching.2.asked (.str "exec-1"))).1.record?.isSome = true := by
    decide +kernel
  obtain ⟨execution, came⟩ := Option.isSome_iff_exists.mp ends
  rw [Run.eq_of_record? came] at path
  have claimed : fetching.1.claimed? = some (.str "exec-1") := by
    have named : (fetching.1.claimed?.map fun id => id.same (.str "exec-1")) = some true := by
      decide +kernel
    obtain ⟨id, came, same⟩ := Option.map_eq_some_iff.mp named
    rw [came, Value.eq_str_of_same same]
  obtain ⟨-, stopping⟩ := (System.cancellation "exec-1").2 [fetching.1] fetching.2
    (fetching.2.asked (.str "exec-1")) 0 fetching.1 reachable rfl claimed accepted _ _ .refl rfl
  obtain ⟨stops, -⟩ := stopping _ execution path rfl
  refine ⟨execution, _, accepted, path, ?_⟩
  have place : (fetching.1.inProgress?.map fun place => (place.1.execution.results.length,
      (place.1.remaining.drop 1).length, place.2.step.stopsOnFailure)) = some (0, 1, false) := by
    decide +kernel
  obtain ⟨⟨work, attempt⟩, there, counted⟩ := Option.map_eq_some_iff.mp place
  simp only [Prod.mk.injEq, List.length_eq_zero_iff] at counted
  obtain ⟨unrecorded, single, goesOn⟩ := counted
  obtain ⟨step, left⟩ := List.length_eq_one_iff.mp single
  obtain ⟨result, -, results, ended⟩ := stops.of_inProgress there
  have goes : ¬ attempt.step.Stops result := fun stops => by
    simp [Stepwise.Step.Stops, goesOn] at stops
  exact ⟨(ended.canceled goes step [] left).1, by simp [results, unrecorded]⟩

/-- Fetching ends the run, and the note is not written. -/
def halting : Engine Bool :=
  { strictUnreliable with
    workflows := ⟨[(.str "letters", { workflow with steps := [strict, note] })], 0⟩ }

def haltingBegun : Run Bool × Engine Bool :=
  halting.start (Engine.startExecution (.str "letters") .null)

/-- The execution breaks off as it is to be saved for good. -/
def haltingInterrupted : Run Bool × Engine Bool :=
  Engine.moves behave 5 haltingBegun.1 haltingBegun.2

def haltingResumed : Run Bool × Engine Bool :=
  haltingInterrupted.2.start (Engine.startResumption (.str "exec-1"))

/-- A run is asked to stop as it takes up a record whose last result ended the execution. No step is
in progress and one is left, and yet the run is not canceled: it ends as the record says. -/
theorem failed_despite_request : ∃ (runs : List (Run Bool)) (engine asked left : Engine Bool)
    (execution : Execution) (workflow : Workflow), System.Reachable ⟨runs, engine⟩ ∧
    runs[1]? = some (.loading (.str "exec-1")) ∧
    (Engine.cancel (.str "exec-1")).runOn engine = (.ok true, asked) ∧
    Relation.ReflTransGen System.Step ⟨runs, asked⟩
      ⟨runs.take 1 ++ [.finished (.ok execution)], left⟩ ∧
    engine.workflows.get execution.workflow = .ok workflow ∧
    execution.results.length < workflow.steps.length ∧ execution.status = .failed := by
  have first : System.Reachable ⟨[haltingBegun.1], haltingBegun.2⟩ :=
    .stepped (.idle halting rfl) (.executed [] halting (.str "letters") .null)
  have broken := first.along (System.path_of_moves behave_still [] [] 5 haltingBegun.1
    haltingBegun.2 (faithful_of_all (by decide +kernel)))
  have resumed := broken.stepped (.resumed _ _ (.str "exec-1"))
  have loading : haltingResumed.1 = .loading (.str "exec-1") :=
    congrArg Prod.fst (Engine.startResumption_of_free (Value.isKey_str "exec-1") (by decide +kernel))
  have accepted : (Engine.cancel (.str "exec-1")).runOn haltingResumed.2 =
      (.ok true, haltingResumed.2.asked (.str "exec-1")) := by
    rw [Engine.cancel_eq, if_pos (by decide +kernel)]
  have path := System.path_of_moves behave_still [haltingInterrupted.1] [] 3 haltingResumed.1
    (haltingResumed.2.asked (.str "exec-1")) (faithful_of_all (by decide +kernel))
  have ends : ((Engine.moves behave 3 haltingResumed.1
      (haltingResumed.2.asked (.str "exec-1"))).1.record?.map fun execution =>
        (execution.status, (haltingResumed.2.workflows.get execution.workflow).toOption.any
          fun workflow => execution.results.length < workflow.steps.length)) =
        some (.failed, true) := by
    decide +kernel
  obtain ⟨execution, came, verdict⟩ := Option.map_eq_some_iff.mp ends
  obtain ⟨failed, short⟩ := Prod.mk.inj verdict
  cases registered : haltingResumed.2.workflows.get execution.workflow with
  | error f =>
    rw [registered] at short
    cases short
  | ok workflow =>
    rw [registered] at short
    rw [Run.eq_of_record? came] at path
    exact ⟨_, _, _, _, execution, workflow, resumed, congrArg some loading, accepted, path,
      registered, by simpa [Except.toOption] using short, failed⟩

end Letters

end Stepwise
