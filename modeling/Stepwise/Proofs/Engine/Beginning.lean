import Stepwise.Proofs.Engine.Claims
import Stepwise.Proofs.Engine.Start
import Stepwise.Proofs.Store.Reading

/-!
# How a run begins

Whoever begins a run tells the ids of the workflow and of the record, looks the lock of the record
up and takes it if it is free. A run is begun on a new record or on a loaded one, and what comes
before differs: an execution claims the id that it was issued, and a run that takes a record up has
claimed the id before it loads. So a turn that loads either meets a fault, after which the store has
its content and nobody owns the id, or it stands where a run stands that has begun.
-/

namespace Stepwise

namespace Engine

variable {η : Type}

/-- Where a run stands that has come to the lock of its record. -/
def entering (engine : Engine η) (work : Work) : Run η × Engine η :=
  if engine.ownership.isHeld work.lock then (.waiting work, engine)
  else (.opening work, { engine with ownership := engine.ownership.hold work.lock })

theorem enter_eq (work : Work) (engine : Engine η) :
    (enter work).runOn engine = (.ok (engine.entering work).1, (engine.entering work).2) := by
  rw [enter, Effect.runOn_get_bind, entering]
  split
  · rfl
  · rw [Effect.runOn_modify_bind, Effect.runOn_pure]

/-- A run that has come to a lock waits for it or is about to save. -/
theorem entering_holds {work : Work} (holds : Run η → Prop) (waiting : holds (.waiting work))
    (opening : holds (.opening work)) (engine : Engine η) : holds (engine.entering work).1 := by
  unfold entering
  split
  · exact waiting
  · exact opening

theorem entering_onward (engine : Engine η) (work : Work) :
    (engine.entering work).1.result? = none :=
  entering_holds (fun run => run.result? = none) rfl rfl engine

theorem entering_work? (engine : Engine η) (work : Work) :
    (engine.entering work).1.work? = some work :=
  entering_holds (fun run => run.work? = some work) rfl rfl engine

/-- It stands soundly when its record is running. -/
theorem entering_isSound {work : Work} (running : work.execution.status = .running)
    (engine : Engine η) : (engine.entering work).1.IsSound :=
  entering_holds Run.IsSound running running engine

/-- Only who holds locks may have changed. -/
theorem entering_left (engine : Engine η) (work : Work) :
    (engine.entering work).2 = engine ∨
      (engine.entering work).2 =
        { engine with ownership := engine.ownership.hold work.lock } := by
  unfold entering
  split
  · exact .inl rfl
  · exact .inr rfl

theorem entering_store (engine : Engine η) (work : Work) :
    (engine.entering work).2.store = engine.store := by
  obtain same | held := entering_left engine work
  · rw [same]
  · rw [held]

/-- A run whose ids can be told begins with the lock of its record. -/
theorem begin_of_lock {claimed : Value} {workflow : Workflow} {execution : Execution}
    {engine : Engine η} {lock : Nat} {ownership : Ownership}
    (told : ∃ text, workflow.id.text = .ok text) (named : ∃ text, execution.id.text = .ok text)
    (locked : (Ownership.lockOf execution.id).runOn engine.ownership = (.ok lock, ownership)) :
    (begin claimed workflow execution).runOn engine =
      (.ok ({ engine with ownership }.entering (workOn claimed lock workflow execution)).1,
        ({ engine with ownership }.entering (workOn claimed lock workflow execution)).2) := by
  obtain ⟨_, told⟩ := told
  obtain ⟨_, named⟩ := named
  rw [begin, Effect.runOn_lift_bind, told]
  dsimp only
  rw [Effect.runOn_lift_bind, named]
  dsimp only
  rw [Effect.runOn_bind, onOwnership, Effect.runOn_onPart, locked]
  exact enter_eq _ _

/-- A run begins with the lock of its record, or it is refused and nothing has changed. -/
theorem begin_cases (claimed : Value) (workflow : Workflow) (execution : Execution)
    (engine : Engine η) :
    (∃ f, (begin claimed workflow execution).runOn engine = (.error f, engine)) ∨
      ∃ lock ownership,
        (Ownership.lockOf execution.id).runOn engine.ownership = (.ok lock, ownership) ∧
        (begin claimed workflow execution).runOn engine =
          (.ok ({ engine with ownership }.entering (workOn claimed lock workflow execution)).1,
            ({ engine with ownership }.entering (workOn claimed lock workflow execution)).2) := by
  cases told : workflow.id.text with
  | error f => exact .inl ⟨f, by rw [begin, Effect.runOn_lift_bind, told]⟩
  | ok text =>
    cases named : execution.id.text with
    | error f =>
      refine .inl ⟨f, ?_⟩
      rw [begin, Effect.runOn_lift_bind, told]
      dsimp only
      rw [Effect.runOn_lift_bind, named]
    | ok name =>
      rcases locked : (Ownership.lockOf execution.id).runOn engine.ownership with
        ⟨f | lock, ownership⟩
      · refine .inl ⟨f, ?_⟩
        obtain ⟨_, -, same⟩ | ⟨-, ⟨_, found⟩ | ⟨-, made⟩⟩ :=
          Ownership.lockOf_cases engine.ownership execution.id
        · rw [locked] at same
          obtain ⟨-, rfl⟩ := Prod.mk.inj same
          rw [begin, Effect.runOn_lift_bind, told]
          dsimp only
          rw [Effect.runOn_lift_bind, named]
          dsimp only
          rw [Effect.runOn_bind, onOwnership, Effect.runOn_onPart, locked]
        · rw [locked] at found
          cases found
        · rw [locked] at made
          cases made
      · exact .inr ⟨lock, ownership, rfl, begin_of_lock ⟨text, told⟩ ⟨name, named⟩ locked⟩

/-! ## New records -/

/-- An execution is refused before its id is claimed, or it claims it; then it is refused and has
given it up again, or it begins on a new record. -/
theorem startExecution_cases (workflowId input : Value) (engine : Engine η) :
    (∃ f issued, engine.start (startExecution workflowId input) =
        (.finished (.error f), { engine with issued })) ∨
      engine.nextId.IsKey ∧ engine.ownership.isActive engine.nextId = false ∧
        let claimed : Engine η :=
          { engine with
            issued := engine.issued + 1
            ownership := engine.ownership.claiming engine.nextId }
        (∃ f, engine.start (startExecution workflowId input) =
            (.finished (.error f), claimed.release engine.nextId)) ∨
          ∃ workflow given lock ownership, engine.workflows.get workflowId = .ok workflow ∧
            givenInput input = .ok given ∧
            (Ownership.lockOf engine.nextId).runOn claimed.ownership = (.ok lock, ownership) ∧
            engine.start (startExecution workflowId input) =
              { claimed with ownership }.entering
                (workOn engine.nextId lock workflow (engine.freshRecord workflow given)) := by
  unfold start
  rw [startExecution_eq]
  cases found : engine.workflows.get workflowId with
  | error f => exact .inl ⟨f, engine.issued, rfl⟩
  | ok workflow =>
    cases copied : givenInput input with
    | error f => exact .inl ⟨f, _, rfl⟩
    | ok given =>
      obtain ⟨f, refused⟩ | ⟨key, free, claim⟩ :=
        Ownership.claim_cases engine.ownership engine.nextId
      · refine .inl ⟨f, engine.issued + 1, ?_⟩
        dsimp only
        rw [onOwnership, Effect.runOn_onPart, refused]
      · refine .inr ⟨key, free, ?_⟩
        dsimp only
        rw [onOwnership, Effect.runOn_onPart, claim]
        dsimp only
        obtain ⟨f, refused⟩ | ⟨lock, ownership, locked, begun⟩ :=
          begin_cases engine.nextId workflow (engine.freshRecord workflow given)
            { engine with
              issued := engine.issued + 1
              ownership := engine.ownership.claiming engine.nextId }
        · refine .inl ⟨f, ?_⟩
          rw [refused]
        · refine .inr ⟨workflow, given, lock, ownership, rfl, rfl, locked, ?_⟩
          rw [begun]

/-! ## Records that are taken up -/

/-- Under a free id a call that takes a record up claims the id. -/
theorem startResumption_of_free {id : Value} {engine : Engine η} (key : id.IsKey)
    (free : engine.ownership.isActive id = false) :
    engine.start (startResumption id) =
      (.loading id, { engine with ownership := engine.ownership.claiming id }) := by
  rw [start, startResumption, Effect.runOn_bind, onOwnership, Effect.runOn_onPart,
    Ownership.claim_of_free key free]
  rfl

/-- Taking a record up starts with a claim on its id, or is refused and changes nothing. -/
theorem startResumption_cases (id : Value) (engine : Engine η) :
    (∃ f, engine.start (startResumption id) = (.finished (.error f), engine)) ∨
      id.IsKey ∧ engine.ownership.isActive id = false ∧
        engine.start (startResumption id) =
          (.loading id, { engine with ownership := engine.ownership.claiming id }) := by
  obtain ⟨f, refused⟩ | ⟨key, free, -⟩ := Ownership.claim_cases engine.ownership id
  · refine .inl ⟨f, ?_⟩
    rw [start, startResumption, Effect.runOn_bind, onOwnership, Effect.runOn_onPart, refused]
  · exact .inr ⟨key, free, startResumption_of_free key free⟩

/-- Loading leaves the content of the store and everything else, whatever comes of it. -/
theorem getExecution_cases (id : Value) (engine : Engine η) :
    ∃ store : Store, store.Alike engine.store ∧
      ((∃ f, (getExecution id).runOn engine = (.error f, { engine with store })) ∨
        ∃ record, (Store.load id).runOn engine.store = (.ok (some record), store) ∧
          (getExecution id).runOn engine = (.ok record, { engine with store })) := by
  have loading : (onStore (Store.load id) : Effect (Engine η) (Option Execution)).runOn engine =
      (((Store.load id).runOn engine.store).1,
        { engine with store := engine.store.counting .load }) := by
    rw [onStore, Effect.runOn_onPart, Store.load_left]
  have counted := Store.load_left engine.store id
  have alike := Store.alike_counting engine.store .load
  rw [getExecution, Effect.runOn_bind]
  rcases called : (callStore "load" (onStore (Store.load id))).runOn engine with
    ⟨f | answer, left⟩
  · have either := callStore_left "load" (onStore (Store.load id)) engine
    rw [called, loading] at either
    obtain rfl | rfl := either
    · exact ⟨_, Store.alike_refl _, .inl ⟨f, rfl⟩⟩
    · exact ⟨_, alike, .inl ⟨f, rfl⟩⟩
  · have answered := callStore_ok called
    rw [loading] at answered
    obtain ⟨given, rfl⟩ := Prod.mk.inj answered
    refine ⟨_, alike, ?_⟩
    cases answer with
    | none => exact .inl ⟨_, rfl⟩
    | some record => exact .inr ⟨record, Prod.ext given counted, rfl⟩

/-- A running record of a registered workflow is taken up by beginning a run on it. -/
theorem takeUp_eq {id : Value} {record : Execution} {engine : Engine η} {workflow : Workflow}
    (running : record.status = .running)
    (registered : engine.workflows.get record.workflow = .ok workflow) :
    (takeUp id record).runOn engine = (begin id workflow record).runOn engine := by
  rw [takeUp, if_neg (by simp [running]), Effect.runOn_get_bind, Effect.runOn_lift_bind,
    registered]

/-- A record is taken up when it is running, or it is refused and nothing has changed. -/
theorem takeUp_cases (id : Value) (record : Execution) (engine : Engine η) :
    (∃ f, (takeUp id record).runOn engine = (.error f, engine)) ∨
      record.status = .running ∧
        ∃ workflow, engine.workflows.get record.workflow = .ok workflow ∧
          (takeUp id record).runOn engine = (begin id workflow record).runOn engine := by
  by_cases running : record.status = .running
  · cases registered : engine.workflows.get record.workflow with
    | ok workflow => exact .inr ⟨running, workflow, rfl, takeUp_eq running registered⟩
    | error f =>
      refine .inl ⟨f, ?_⟩
      rw [takeUp, if_neg (by simp [running]), Effect.runOn_get_bind, Effect.runOn_lift_bind,
        registered]
  · rw [takeUp, if_pos (by simpa using running), Effect.runOn_lift_bind]
    cases id.text with
    | error f => exact .inl ⟨f, rfl⟩
    | ok text => exact .inl ⟨_, rfl⟩

end Engine

namespace Turn

variable {η : Type} {turn : Turn η} {claimed : Value}

open Engine

/-- What a turn that loads comes to. It meets a fault and gives the claimed id up, or it begins a
run on the record that was loaded. -/
inductive Loads (turn : Turn η) (claimed : Value) : Run η × Engine η → Prop where
  | refused {f : Fault} {store : Store} (alike : store.Alike turn.found.store) :
    Loads turn claimed (.finished (.error f), { turn.found with store }.release claimed)
  | taken {record : Execution} {store : Store} {workflow : Workflow} {lock : Nat}
    {ownership : Ownership} (alike : store.Alike turn.found.store)
    (loaded : (Store.load claimed).runOn turn.found.store = (.ok (some record), store))
    (running : record.status = .running)
    (registered : turn.found.workflows.get record.workflow = .ok workflow)
    (locked : (Ownership.lockOf record.id).runOn turn.found.ownership = (.ok lock, ownership)) :
    Loads turn claimed
      ({ turn.found with store, ownership }.entering (workOn claimed lock workflow record))

/-- The cases of a turn that loads are complete. -/
theorem after_loads (loading : turn.run = .loading claimed) : turn.Loads claimed turn.after := by
  obtain ⟨run, found, heard⟩ := turn
  dsimp only at loading
  subst loading
  have conclusion : Turn.after ⟨.loading claimed, found, heard⟩ =
      conclude (.loading claimed) (stage (.loading claimed)) found := rfl
  rw [conclusion]
  obtain ⟨store, alike, ⟨f, refused⟩ | ⟨record, loaded, given⟩⟩ :=
    getExecution_cases claimed found
  all_goals
    have refusal {f : Fault} (met : (stage (Run.loading claimed)).runOn found =
        (.error f, { found with store })) : Turn.Loads ⟨.loading claimed, found, heard⟩ claimed
          (conclude (.loading claimed) (stage (.loading claimed)) found) := by
      rw [conclude_error met]
      exact .refused alike
  · exact refusal (by rw [stage, Effect.runOn_bind, refused])
  · obtain ⟨f, refused⟩ | ⟨running, workflow, registered, taken⟩ :=
      takeUp_cases claimed record { found with store }
    · exact refusal (by rw [stage, Effect.runOn_bind, given]; exact refused)
    · obtain ⟨f, refused⟩ | ⟨lock, ownership, locked, begun⟩ :=
        begin_cases claimed workflow record { found with store }
      · exact refusal (by rw [stage, Effect.runOn_bind, given]; exact taken.trans refused)
      · rw [conclude_onward (by rw [stage, Effect.runOn_bind, given]; exact taken.trans begun)
          (entering_onward _ _)]
        exact .taken alike loaded running registered locked

end Turn

end Stepwise
