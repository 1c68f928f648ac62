import Stepwise.Proofs.Engine.Beginning
import Stepwise.Proofs.Engine.Constancy

/-!
# Many calls on one engine

A host may have any number of calls under way on one engine, and its handlers may make more of them
from inside. The system of an engine has the runs of all calls so far with where each of them
stands. In a step of the system a call is made, one of the runs takes a turn, a run is asked to
stop, a call is given up by who waits for it, or anything else happens to the engine that is not a
matter of ownership. No order is imposed on the steps, so that calls overlap and nest in every way.

What the engine says about ownership is a register of the runs under way in every state that the
system reaches. Every step keeps it one: a call that is refused leaves the claim of the run that
owns the id, and a run that ends, however it ends, gives up its own claim with all that is said
about it.
-/

namespace Stepwise

variable {η : Type}

/-- The runs of the calls on an engine. Those of calls that have ended are finished. -/
structure System (η : Type) where
  runs : List (Run η)
  engine : Engine η

/-- A load in the turn gives only a record of the id that was asked for. -/
def Turn.IsFaithful (turn : Turn η) : Prop :=
  ∀ claimed record store, turn.run = .loading claimed →
    (Store.load claimed).runOn turn.found.store = (.ok (some record), store) →
    record.id.same claimed = true

namespace System

/-- The claimed ids, in the order in which their calls were made. -/
def claims (system : System η) : List Value := system.runs.filterMap Run.claimed?

/-- What may happen next. -/
inductive Step : System η → System η → Prop where
  | executed (runs : List (Run η)) (engine : Engine η) (workflowId input : Value) :
    Step ⟨runs, engine⟩
      ⟨runs ++ [(engine.start (Engine.startExecution workflowId input)).1],
        (engine.start (Engine.startExecution workflowId input)).2⟩
  | resumed (runs : List (Run η)) (engine : Engine η) (id : Value) :
    Step ⟨runs, engine⟩
      ⟨runs ++ [(engine.start (Engine.startResumption id)).1],
        (engine.start (Engine.startResumption id)).2⟩
  | turned (before later : List (Run η)) (turn : Turn η) (faithful : turn.IsFaithful) :
    Step ⟨before ++ turn.run :: later, turn.found⟩
      ⟨before ++ turn.after.1 :: later, turn.after.2⟩
  | canceled (runs : List (Run η)) (engine : Engine η) (id : Value) :
    Step ⟨runs, engine⟩ ⟨runs, ((Engine.cancel id).runOn engine).2⟩
  | abandoned (before later : List (Run η)) (run : Run η) (engine : Engine η) (f : Fault)
    (onward : run.result? = none) :
    Step ⟨before ++ run :: later, engine⟩
      ⟨before ++ .finished (.error f) :: later, engine.leave run⟩
  | elsewhere (runs : List (Run η)) (engine changed : Engine η)
    (unowned : changed.ownership = engine.ownership) : Step ⟨runs, engine⟩ ⟨runs, changed⟩

/-- The states that come of an engine on which no call was made. -/
inductive Reachable : System η → Prop where
  | idle (engine : Engine η) (unowned : engine.ownership = .none) : Reachable ⟨[], engine⟩
  | stepped {system next : System η} (reachable : Reachable system) (step : Step system next) :
    Reachable next

end System

/-! ## What every step keeps -/

/-- A run has its record under the id that it has claimed, and stands soundly once it has one. -/
structure Run.IsOwn (run : Run η) : Prop where
  sound : (∃ claimed, run = .loading claimed) ∨ run.IsSound
  own : ∀ work, run.work? = some work → work.execution.id.same work.claimed = true

theorem Run.isOwn_finished (f : Fault) : (Run.finished (η := η) (.error f)).IsOwn :=
  ⟨.inr trivial, nofun⟩

namespace Engine

variable {engine : Engine η} {run : Run η} {before later : List Value} {claimed : Value}

/-- Leaving gives up the claim of the run and nothing else. -/
theorem leave_registers
    (registers : engine.ownership.Registers (before ++ claimed :: later))
    (claims : run.claimed? = some claimed) :
    (engine.leave run).ownership.Registers (before ++ later) := by
  cases run with
  | loading id =>
    cases claims
    exact registers.release
  | waiting work =>
    cases claims
    exact registers.release
  | finished result => cases claims
  | _ =>
    cases claims
    exact (registers.letGo _).release

/-- Coming to a lock changes no claim. -/
theorem entering_registers {work : Work} {claims : List Value}
    (registers : engine.ownership.Registers claims) :
    (engine.entering work).2.ownership.Registers claims := by
  obtain same | held := engine.entering_left work
  · rw [same]
    exact registers
  · rw [held]
    exact registers.hold work.lock

theorem entering_requested (engine : Engine η) (work : Work) :
    (engine.entering work).2.ownership.cancelRequested = engine.ownership.cancelRequested := by
  obtain same | held := engine.entering_left work
  · rw [same]
  · rw [held]
    rfl

theorem entering_claimed (engine : Engine η) (work : Work) :
    (engine.entering work).1.claimed? = some work.claimed :=
  Run.claimed?_of_work (engine.entering_work? work)

/-- A run that comes to the lock of a running record stands soundly. -/
theorem entering_isOwn {work : Work} (running : work.execution.status = .running)
    (own : work.execution.id.same work.claimed = true) : (engine.entering work).1.IsOwn := by
  refine ⟨.inr (entering_isSound running engine), ?_⟩
  rw [entering_work?]
  rintro _ ⟨⟩
  exact own

end Engine

/-- A run that advances keeps its claim, and gives it up when it comes to its end. -/
theorem Advances.registers {found left : Engine η} {heard : Outcome} {run next : Run η}
    {before later : List Value} (advances : Advances found heard run next left)
    (registers : found.ownership.Registers (before ++ run.claimed?.toList ++ later)) :
    left.ownership.Registers (before ++ next.claimed?.toList ++ later) := by
  have kept {work : Work} (stands : run.work? = some work) (onward : next.result? = none) :
      next.claimed? = run.claimed? := by
    obtain ⟨after, comes, continues, -⟩ | ⟨-, ended⟩ := advances.continues stands
    · rw [Run.claimed?_of_work comes, Run.claimed?_of_work stands, continues.claimed]
    · rw [ended] at onward
      cases onward
  cases advances with
  | waits held => exact registers
  | enters free => exact registers.hold _
  | opens saved goes =>
    rw [kept rfl goes.onward, saved.ownership]
    exact registers
  | calls reached => exact registers
  | misses missed made =>
    rw [kept rfl (Engine.failed_onward made)]
    exact registers
  | answers returned made =>
    rw [kept rfl (Engine.answered_onward made)]
    exact registers
  | fails caused made =>
    rw [kept rfl (Engine.failed_onward made)]
    exact registers
  | records saved meant goes =>
    rw [kept rfl goes.onward, saved.ownership]
    exact registers
  | @closes work reached saved =>
    rw [← saved.ownership] at registers
    have claims : (Run.closing (η := η) work).claimed? = some work.claimed := rfl
    rw [claims, Option.toList_some, List.append_assoc] at registers
    have released := Engine.leave_registers registers claims
    simpa [Run.claimed?] using released
  | rests result => exact registers

theorem Advances.isOwn {found left : Engine η} {heard : Outcome} {run next : Run η}
    (advances : Advances found heard run next left) (own : run.IsOwn) (sound : run.IsSound) :
    next.IsOwn := by
  refine ⟨.inr (advances.sound sound), ?_⟩
  intro later comes
  obtain ⟨work, stands, continues, -⟩ := advances.work_before sound comes
  rw [continues.named, continues.claimed]
  exact own.own work stands

namespace Turn

variable {turn : Turn η} {before later : List Value}

/-- A turn that loads keeps the claim of its run with a lock for the record, or gives it up. -/
theorem registers_of_loading {claimed : Value} (loading : turn.run = .loading claimed)
    (faithful : turn.IsFaithful)
    (registers : turn.found.ownership.Registers (before ++ claimed :: later)) :
    turn.after.1.IsOwn ∧
      turn.after.2.ownership.Registers (before ++ turn.after.1.claimed?.toList ++ later) := by
  obtain ⟨run, found, heard⟩ := turn
  have loads := Turn.after_loads loading
  generalize Turn.after ⟨run, found, heard⟩ = place at loads ⊢
  dsimp only at registers
  cases loads with
  | @refused f store alike =>
    have released : (Engine.release claimed { found with store }).ownership.Registers
        (before ++ later) := registers.release
    exact ⟨Run.isOwn_finished _, by simpa [Run.claimed?] using released⟩
  | @taken record store workflow lock ownership alike loaded running registered locked =>
    have same : record.id.same claimed = true := faithful claimed record store loading loaded
    refine ⟨Engine.entering_isOwn running same, ?_⟩
    rw [Engine.entering_claimed]
    have own : claimed.IsKey := registers.keys claimed (by simp)
    have among : record.id.isAmong (before ++ claimed :: later) = true := by
      obtain ⟨f, refused, impossible⟩ | ⟨key, -⟩ :=
        Ownership.lockOf_cases found.ownership record.id
      · rw [locked] at impossible
        cases impossible
      · exact Value.isAmong_iff.mpr ⟨claimed, by simp, own.same_comm key ▸ same⟩
    have taken : ({ found with store, ownership }.entering
        (Engine.workOn claimed lock workflow record)).2.ownership.Registers
        (before ++ claimed :: later) :=
      Engine.entering_registers (registers.lockOf among locked)
    simpa [Engine.workOn] using taken

/-- Every turn keeps the register of claims. -/
theorem registers (own : turn.run.IsOwn) (faithful : turn.IsFaithful)
    (registers : turn.found.ownership.Registers
      (before ++ turn.run.claimed?.toList ++ later)) :
    turn.after.1.IsOwn ∧
      turn.after.2.ownership.Registers (before ++ turn.after.1.claimed?.toList ++ later) := by
  obtain ⟨claimed, loading⟩ | sound := own.sound
  · rw [loading] at registers
    exact registers_of_loading loading faithful (by simpa [Run.claimed?] using registers)
  · obtain ⟨f, left, breaks, broken⟩ | advances := turn.advances_or_breaksOff sound
    · cases ended : turn.run.result? with
      | some result =>
        -- A run that is over has nothing to give up.
        have stands := Run.eq_of_result? ended
        rw [stands] at registers own
        rw [after_of_finished stands]
        exact ⟨own, registers⟩
      | none =>
        obtain ⟨work, stands⟩ := sound.work ended
        have claims := Run.claimed?_of_work stands
        rw [broken]
        refine ⟨Run.isOwn_finished f, ?_⟩
        rw [claims, Option.toList_some, List.append_assoc, List.singleton_append,
          ← breaks.ownership] at registers
        simpa [Run.claimed?] using Engine.leave_registers registers claims
    · exact ⟨advances.isOwn own sound, advances.registers registers⟩

end Turn

namespace Engine

variable {engine : Engine η} {claims : List Value}

/-- An execution that starts claims its id, and one that is refused leaves the claims as they
were. -/
theorem startExecution_registers (workflowId input : Value)
    (registers : engine.ownership.Registers claims) :
    let started := engine.start (startExecution workflowId input)
    started.1.IsOwn ∧ started.2.ownership.Registers (claims ++ started.1.claimed?.toList) ∧
      ∀ id, started.1.claimed? = some id → started.2.ownership.isCancelRequested id = false := by
  intro started
  obtain ⟨f, issued, refused⟩ | ⟨key, free, ⟨f, refused⟩ | begun⟩ :=
    startExecution_cases workflowId input engine
  · rw [show started = _ from refused]
    exact ⟨Run.isOwn_finished f, by simpa [Run.claimed?] using registers, nofun⟩
  · rw [show started = _ from refused]
    refine ⟨Run.isOwn_finished f, ?_, nofun⟩
    simp only [Run.claimed?, Option.toList_none]
    exact (registers.claiming key free).release
  · obtain ⟨workflow, given, lock, ownership, -, -, locked, begun⟩ := begun
    rw [show started = _ from begun]
    have claiming := registers.claiming key free
    have among : engine.nextId.isAmong (claims ++ [engine.nextId]) = true :=
      Value.isAmong_iff.mpr ⟨engine.nextId, by simp, Value.same_self _⟩
    refine ⟨entering_isOwn rfl (Value.same_self _), ?_, ?_⟩
    · rw [entering_claimed]
      exact entering_registers (claiming.lockOf among locked)
    · intro id claimed
      rw [entering_claimed] at claimed
      cases claimed
      have unrequested := registers.unrequested free
      unfold Ownership.isCancelRequested at unrequested ⊢
      rw [entering_requested, Ownership.lockOf_requested locked]
      exact unrequested

/-- A run that starts to take a record up claims its id, and one that is refused leaves the claims
as they were. -/
theorem startResumption_registers (id : Value) (registers : engine.ownership.Registers claims) :
    let started := engine.start (startResumption id)
    started.1.IsOwn ∧ started.2.ownership.Registers (claims ++ started.1.claimed?.toList) ∧
      ∀ claimed, started.1.claimed? = some claimed →
        started.2.ownership.isCancelRequested claimed = false := by
  intro started
  obtain ⟨f, refused⟩ | ⟨key, free, begun⟩ := startResumption_cases id engine
  · rw [show started = _ from refused]
    exact ⟨Run.isOwn_finished f, by simpa [Run.claimed?] using registers, nofun⟩
  · rw [show started = _ from begun]
    refine ⟨⟨.inl ⟨id, rfl⟩, nofun⟩, registers.claiming key free, ?_⟩
    rintro _ ⟨⟩
    exact registers.unrequested free

end Engine

/-! ## Every reachable state -/

namespace System

variable {system next : System η}

/-- What the engine says about ownership is a register of the runs under way. -/
structure IsOrderly (system : System η) : Prop where
  registers : system.engine.ownership.Registers system.claims
  own : ∀ run ∈ system.runs, run.IsOwn

theorem claims_append (before later : List (Run η)) (run : Run η) (engine : Engine η) :
    claims ⟨before ++ run :: later, engine⟩ =
      before.filterMap Run.claimed? ++ run.claimed?.toList ++ later.filterMap Run.claimed? := by
  rw [claims, List.filterMap_append, List.filterMap_cons]
  cases run.claimed? <;> simp

/-- What holds of the other runs and of one run holds of all of them. -/
theorem own_of_parts {before later : List (Run η)} {run other : Run η}
    (own : ∀ place ∈ before ++ run :: later, place.IsOwn) (also : other.IsOwn) :
    ∀ place ∈ before ++ other :: later, place.IsOwn := by
  intro place member
  obtain earlier | last := List.mem_append.mp member
  · exact own place (List.mem_append_left _ earlier)
  · obtain rfl | later := List.mem_cons.mp last
    · exact also
    · exact own place (List.mem_append_right _ (List.mem_cons_of_mem _ later))

theorem claims_started (runs : List (Run η)) (run : Run η) (engine : Engine η) :
    claims ⟨runs ++ [run], engine⟩ = runs.filterMap Run.claimed? ++ run.claimed?.toList := by
  rw [claims_append, List.filterMap_nil, List.append_nil]

theorem own_started {runs : List (Run η)} {run : Run η} (own : ∀ place ∈ runs, place.IsOwn)
    (also : run.IsOwn) : ∀ place ∈ runs ++ [run], place.IsOwn := by
  intro place member
  obtain earlier | last := List.mem_append.mp member
  · exact own place earlier
  · exact List.mem_singleton.mp last ▸ also

/-- Every step keeps the register. -/
theorem Step.isOrderly (step : Step system next) (orderly : system.IsOrderly) :
    next.IsOrderly := by
  obtain ⟨registers, own⟩ := orderly
  cases step with
  | executed runs engine workflowId input =>
    obtain ⟨also, started, -⟩ := Engine.startExecution_registers workflowId input registers
    exact ⟨by rw [claims_started]; exact started, own_started own also⟩
  | resumed runs engine id =>
    obtain ⟨also, started, -⟩ := Engine.startResumption_registers id registers
    exact ⟨by rw [claims_started]; exact started, own_started own also⟩
  | turned before later turn faithful =>
    rw [claims_append] at registers
    obtain ⟨also, taken⟩ := turn.registers (own turn.run (by simp)) faithful registers
    exact ⟨by rw [claims_append]; exact taken, own_of_parts own also⟩
  | canceled runs engine id => exact ⟨registers.requestCancel id, own⟩
  | abandoned before later run engine f onward =>
    refine ⟨?_, own_of_parts own (Run.isOwn_finished f)⟩
    rw [claims_append] at registers ⊢
    cases claimed : run.claimed? with
    | none =>
      cases run with
      | finished result => cases onward
      | _ => cases claimed
    | some id =>
      rw [claimed, Option.toList_some, List.append_assoc, List.singleton_append] at registers
      simpa [Run.claimed?] using Engine.leave_registers registers claimed
  | elsewhere runs engine changed unowned => exact ⟨by rw [unowned]; exact registers, own⟩

theorem Reachable.isOrderly (reachable : system.Reachable) : system.IsOrderly := by
  induction reachable with
  | idle engine unowned =>
    refine ⟨?_, by simp⟩
    dsimp only
    rw [unowned]
    exact Ownership.registers_none
  | stepped _ step inductionHypothesis => exact step.isOrderly inductionHypothesis

/-- In every state that a system reaches, no two runs under way are of one id, and each of them
works on the record of the id that it has claimed. The engine counts exactly the claims of these
runs as active, and it has requests to stop and locks for none but them. So nothing is left when no
call is under way, and a run that starts has not been asked to stop. -/
theorem reachable_bookkeeping (reachable : system.Reachable) :
    (system.runs.Pairwise fun run other => ∀ id ∈ run.claimed?, ∀ otherId ∈ other.claimed?,
        id.same otherId = false) ∧
      (∀ run ∈ system.runs, ∀ work, run.work? = some work →
        run.claimed? = some work.claimed ∧ work.execution.id.same work.claimed = true) ∧
      (system.runs.filterMap Run.claimed?).Perm system.engine.ownership.active ∧
      (∀ id ∈ system.engine.ownership.cancelRequested,
        system.engine.ownership.isActive id = true) ∧
      (∀ entry ∈ system.engine.ownership.locks,
        system.engine.ownership.isActive entry.1 = true) ∧
      ((∀ run ∈ system.runs, run.claimed? = none) → system.engine.ownership.active = [] ∧
        system.engine.ownership.cancelRequested = [] ∧ system.engine.ownership.locks = []) ∧
      system.engine.stats.active = system.runs.countP (fun run => run.claimed?.isSome) ∧
      ∀ started : Run η × Engine η,
        ((∃ workflowId input, started =
            system.engine.start (Engine.startExecution workflowId input)) ∨
          ∃ id, started = system.engine.start (Engine.startResumption id)) →
        ∀ id, started.1.claimed? = some id →
          started.2.ownership.isCancelRequested id = false := by
  obtain ⟨registers, own⟩ := reachable.isOrderly
  have active := registers.isActive_eq
  refine ⟨?_, ?_, registers.active, ?_, ?_, ?_, ?_, ?_⟩
  · have apart := registers.apart
    rw [claims, List.pairwise_filterMap] at apart
    exact apart
  · intro run member work stands
    exact ⟨Run.claimed?_of_work stands, (own run member).own work stands⟩
  · intro id member
    rw [active]
    exact (registers.requested id member).2
  · intro entry member
    rw [active]
    exact (registers.locked entry member).2
  · intro idle
    have unclaimed : system.claims = [] := List.filterMap_eq_nil_iff.mpr idle
    rw [unclaimed] at registers
    refine ⟨registers.active.nil_eq.symm, ?_, ?_⟩
    · refine List.eq_nil_iff_forall_not_mem.mpr fun id member => ?_
      cases (registers.requested id member).2
    · refine List.eq_nil_iff_forall_not_mem.mpr fun entry member => ?_
      cases (registers.locked entry member).2
  · rw [Engine.stats, ← registers.active.length_eq, claims, List.length_filterMap_eq_countP]
  · rintro started (⟨workflowId, input, rfl⟩ | ⟨id, rfl⟩)
    · exact (Engine.startExecution_registers workflowId input registers).2.2
    · exact (Engine.startResumption_registers id registers).2.2

end System

/-- The letters are executed twice at a time. The first execution is asked to stop, and it cannot be
taken up while it is under way. -/
theorem Letters.two_under_way : ∃ system : System Bool, system.Reachable ∧
    system.runs.length = 3 ∧
    system.engine.ownership.isCancelRequested (.str "exec-1") = true ∧
    system.engine.stats.active = 2 := by
  have first : System.Reachable ⟨[started.1], started.2⟩ :=
    .stepped (.idle engine rfl) (.executed [] engine (.str "letters") .null)
  have second := System.Reachable.stepped first (.executed _ _ (.str "letters") .null)
  have asked := System.Reachable.stepped second (.canceled _ _ (.str "exec-1"))
  have refused := System.Reachable.stepped asked (.resumed _ _ (.str "exec-1"))
  obtain ⟨-, -, -, -, -, -, counted, -⟩ := System.reachable_bookkeeping refused
  refine ⟨_, refused, by decide +kernel, by decide +kernel, ?_⟩
  rw [counted]
  decide +kernel

end Stepwise
