import Stepwise.Proofs.Engine.Blame
import Stepwise.Proofs.Engine.System

/-!
# Rejected calls

A call that takes a record up may be rejected for four reasons. Its id is active, and then nothing
is touched, least of all what belongs to the run under way. Or the id is claimed, and when the
record is asked for there is none, or it is not running, or its workflow is not found. Then the
claim is given up, and with it goes all that was said of the id in the meantime. Before the claim
nothing was said of it, so a call that is rejected at once leaves everything as it was; all that is
left of it is that the store was asked.
-/

namespace Stepwise

variable {η : Type}

namespace Ownership

variable {id other : String}

/-- An id that is a text is apart from what is said of another one. -/
theorem unlike_and_same (apart : other ≠ id) (v : Value) :
    (!v.same (.str id) && v.same (.str other)) = v.same (.str other) := by
  cases same : v.same (.str other) with
  | false => rw [Bool.and_false]
  | true =>
    rw [Value.eq_str_of_same same, Value.same_str, decide_eq_false apart]
    rfl

theorem find?_erase_of_ne (apart : other ≠ id) (locks : Table Nat) :
    (locks.erase (.str id)).find? (.str other) = locks.find? (.str other) := by
  induction locks with
  | nil => rfl
  | cons entry rest inductionHypothesis =>
    obtain ⟨key, lock⟩ := entry
    rw [Table.erase]
    cases own : key.same (.str id) with
    | true =>
      rw [if_pos rfl, Table.find?, Value.eq_str_of_same own, Value.same_str,
        decide_eq_false apart.symm, if_neg Bool.false_ne_true]
    | false =>
      rw [if_neg Bool.false_ne_true, Table.find?, Table.find?, inductionHypothesis]

/-- Giving up an id leaves what is said of another one: whether it is active and asked to stop, and
its lock, be it held or not. -/
theorem release_of_ne (apart : other ≠ id) (ownership : Ownership) :
    (ownership.release (.str id)).isActive (.str other) = ownership.isActive (.str other) ∧
      (ownership.release (.str id)).isCancelRequested (.str other) =
        ownership.isCancelRequested (.str other) ∧
      (ownership.release (.str id)).locks.find? (.str other) =
        ownership.locks.find? (.str other) ∧
      (ownership.release (.str id)).held = ownership.held := by
  refine ⟨?_, ?_, find?_erase_of_ne apart ownership.locks, rfl⟩
  · simp only [isActive, release, Value.isAmong, List.any_filter, unlike_and_same apart]
  · simp only [isCancelRequested, release, Value.isAmong, List.any_filter, unlike_and_same apart]

end Ownership

namespace Engine

/-- What an engine hears when it asks its store for the record of an id. -/
def heard (engine : Engine η) (id : String) : Except Fault (Option Execution) :=
  ((callStore "load" (onStore (Store.load (.str id)))).runOn engine).1

/-- Why the record of an id is not taken up when the id has been claimed, and the fault that this
comes to. The store does not answer, it has no record, the record is not running, or its workflow is
not found, be it that its id is not registered or that it is no key. A workflow whose id has no
text comes to the fault of that. -/
inductive Refuses (engine : Engine η) (id : String) : Fault → Prop where
  | unanswered {f : Fault} (answer : engine.heard id = .error f) : Refuses engine id f
  | absent (answer : engine.heard id = .ok none) : Refuses engine id (.executionNotFound (.str id))
  | ended {record : Execution} (answer : engine.heard id = .ok (some record))
    (ceased : record.status ≠ .running) :
    Refuses engine id (.stateOf s!"Execution {id} is {record.status.name}, not running")
  | unregistered {record : Execution} {name : String}
    (answer : engine.heard id = .ok (some record)) (running : record.status = .running)
    (key : record.workflow.IsKey) (told : record.workflow.text = .ok name)
    (unknown : engine.workflows.table.find? record.workflow = none) :
    Refuses engine id (.workflowNotFound record.workflow)
  | keyless {record : Execution} {f : Fault} (answer : engine.heard id = .ok (some record))
    (running : record.status = .running) (met : record.workflow.hashable = .error f) :
    Refuses engine id f
  | untold {record : Execution} {f : Fault} (answer : engine.heard id = .ok (some record))
    (running : record.status = .running) (key : record.workflow.IsKey)
    (met : record.workflow.text = .error f)
    (unknown : engine.workflows.table.find? record.workflow = none) : Refuses engine id f

variable {engine : Engine η} {id : String} {f : Fault}

/-! ## What the engine hears -/

/-- Who owns what makes no difference to the store. -/
theorem heard_owned (engine : Engine η) (ownership : Ownership) (id : String) :
    ({ engine with ownership } : Engine η).heard id = engine.heard id := by
  rw [heard, heard, callStore_eq, callStore_eq, onStore, Effect.runOn_onPart,
    Effect.runOn_onPart]
  dsimp only
  split
  · rcases (Store.load (.str id)).runOn engine.store with ⟨g | answer, left⟩ <;> rfl
  all_goals rfl

/-- Asking for a record leaves the content of the store and all else, and comes to what was heard;
no record is refused. -/
theorem getExecution_eq (engine : Engine η) (id : String) :
    ∃ store : Store, store.Alike engine.store ∧
      (getExecution (.str id)).runOn engine =
        (match engine.heard id with
          | .error f => .error f
          | .ok none => .error (.executionNotFound (.str id))
          | .ok (some record) => .ok record, { engine with store }) := by
  have left : ∃ store : Store, store.Alike engine.store ∧
      ((callStore "load" (onStore (Store.load (.str id)))).runOn engine).2 =
        { engine with store } := by
    obtain same | called := callStore_left "load" (onStore (Store.load (.str id))) engine
    · exact ⟨engine.store, Store.alike_refl _, same⟩
    · refine ⟨engine.store.counting .load, Store.alike_counting _ _, called.trans ?_⟩
      rw [onStore, Effect.runOn_onPart, Store.load_left]
  obtain ⟨store, alike, reached⟩ := left
  refine ⟨store, alike, ?_⟩
  rw [getExecution, Effect.runOn_bind]
  unfold heard
  rcases called : (callStore "load" (onStore (Store.load (.str id)))).runOn engine with
    ⟨g | _ | record, changed⟩
  all_goals
    rw [called] at reached
    change changed = _ at reached
    subst reached
    rfl

/-- A workflow is looked up by a key and found, or the fault is one of three. -/
theorem refuses_of_get {record : Execution} (answer : engine.heard id = .ok (some record))
    (running : record.status = .running)
    (met : engine.workflows.get record.workflow = .error f) : engine.Refuses id f := by
  cases key : record.workflow.hashable with
  | error g =>
    rw [Workflows.get, key] at met
    obtain rfl : g = f := Except.error.inj met
    exact .keyless answer running key
  | ok _ =>
    cases known : engine.workflows.table.find? record.workflow with
    | some workflow =>
      rw [Workflows.get, key] at met
      simp [known, bind, Except.bind, pure, Except.pure] at met
    | none =>
      have refused : Fault.raised (.workflowNotFound record.workflow) = f := by
        rw [Workflows.get, key] at met
        simp only [known, bind, Except.bind] at met
        exact Except.error.inj met
      rw [Fault.raised] at refused
      cases told : record.workflow.text with
      | ok name =>
        simp only [Fault.text, told, bind, Except.bind, pure, Except.pure] at refused
        exact refused ▸ .unregistered answer running key told known
      | error g =>
        simp only [Fault.text, told, bind, Except.bind] at refused
        exact refused ▸ .untold answer running key told known

/-- The record is refused, or it is running and its workflow is found. -/
theorem refuses_or_finds (engine : Engine η) (id : String) : (∃ f, engine.Refuses id f) ∨
    ∃ record workflow, engine.heard id = .ok (some record) ∧ record.status = .running ∧
      engine.workflows.get record.workflow = .ok workflow := by
  cases answer : engine.heard id with
  | error f => exact .inl ⟨f, .unanswered answer⟩
  | ok found =>
    cases found with
    | none => exact .inl ⟨_, .absent answer⟩
    | some record =>
      by_cases running : record.status = .running
      · cases met : engine.workflows.get record.workflow with
        | ok workflow => exact .inr ⟨record, workflow, rfl, running, met⟩
        | error f => exact .inl ⟨f, refuses_of_get answer running met⟩
      · exact .inl ⟨_, .ended answer running⟩

/-- A record that is refused is not taken up. -/
theorem Refuses.stage (refuses : engine.Refuses id f) :
    ∃ store : Store, store.Alike engine.store ∧
      (Engine.stage (.loading (.str id))).runOn engine = (.error f, { engine with store }) := by
  obtain ⟨store, alike, asked⟩ := getExecution_eq engine id
  refine ⟨store, alike, ?_⟩
  rw [Engine.stage, Effect.runOn_bind, asked]
  have looked {record : Execution} (running : record.status = .running)
      (met : engine.workflows.get record.workflow = .error f) :
      (takeUp (.str id) record).runOn { engine with store } = (.error f, { engine with store }) := by
    rw [takeUp, if_neg (by simp [running]), Effect.runOn_get_bind, Effect.runOn_lift_bind, met]
  cases refuses with
  | unanswered answer => rw [answer]
  | absent answer => rw [answer]
  | ended answer ceased =>
    rw [answer]
    simp only [takeUp, if_pos ceased]
    rfl
  | unregistered answer running key told unknown =>
    rw [answer]
    refine looked running ?_
    rw [Workflows.get, key]
    simp only [bind, Except.bind, unknown, refuse, Fault.raised, Fault.text, told, pure, Except.pure]
  | keyless answer running met =>
    rw [answer]
    refine looked running ?_
    rw [Workflows.get, met]
    rfl
  | untold answer running key met unknown =>
    rw [answer]
    refine looked running ?_
    rw [Workflows.get, key]
    simp only [bind, Except.bind, unknown, refuse, Fault.raised, Fault.text, met]

/-- Who owns what makes no difference to whether a record is refused. -/
theorem Refuses.owned (refuses : engine.Refuses id f) (ownership : Ownership) :
    ({ engine with ownership } : Engine η).Refuses id f := by
  have same := heard_owned engine ownership id
  cases refuses with
  | unanswered answer => exact .unanswered (same.trans answer)
  | absent answer => exact .absent (same.trans answer)
  | ended answer ceased => exact .ended (same.trans answer) ceased
  | unregistered answer running key told unknown =>
    exact .unregistered (same.trans answer) running key told unknown
  | keyless answer running met => exact .keyless (same.trans answer) running met
  | untold answer running key met unknown =>
    exact .untold (same.trans answer) running key met unknown

end Engine

/-- A turn whose record is refused gives up the id, and that is all it does but asking the store. -/
theorem Turn.after_of_refuses (turn : Turn η) {id : String} {f : Fault}
    (loading : turn.run = .loading (.str id)) (refuses : turn.found.Refuses id f) :
    ∃ store : Store, store.Alike turn.found.store ∧
      turn.after = (.finished (.error f),
        { turn.found with store, ownership := turn.found.ownership.release (.str id) }) := by
  obtain ⟨run, found, heard⟩ := turn
  dsimp only at loading
  subst loading
  obtain ⟨store, alike, refused⟩ := refuses.stage
  exact ⟨store, alike, Engine.conclude_error refused⟩

namespace Engine

variable {engine : Engine η} {claims : List Value} {id : String} {f : Fault}

/-- A call on an active id is rejected before anything is done. -/
theorem start_of_active (active : engine.ownership.isActive (.str id) = true) :
    engine.start (startResumption (.str id)) =
      (.finished (.error (.stateOf s!"Execution {id} is already running in this process")),
        engine) := by
  have hashable : (Value.str id).hashable = .ok () := rfl
  have claimed : (Ownership.claim (.str id)).runOn engine.ownership =
      (.error (.stateOf s!"Execution {id} is already running in this process"),
        engine.ownership) := by
    rw [Ownership.claim, Effect.runOn_lift_bind, hashable]
    simp only [Effect.runOn_get_bind, active, if_true]
    rfl
  rw [start, startResumption, Effect.runOn_bind, onOwnership, Effect.runOn_onPart, claimed]

theorem resume_of_active (active : engine.ownership.isActive (.str id) = true)
    (behave : Behavior η) :
    engine.resume behave (.str id) =
      (.finished (.error (.stateOf s!"Execution {id} is already running in this process")),
        engine) := by
  rw [resume, start_of_active active]
  rfl

/-- A call whose record is refused at once leaves the engine as it was. -/
theorem resume_of_refuses (registers : engine.ownership.Registers claims)
    (free : engine.ownership.isActive (.str id) = false) (refuses : engine.Refuses id f)
    (behave : Behavior η) :
    ∃ store : Store, store.Alike engine.store ∧
      engine.resume behave (.str id) = (.finished (.error f), { engine with store }) := by
  let claimed : Engine η := { engine with ownership := engine.ownership.claiming (.str id) }
  obtain ⟨store, alike, after⟩ :=
    Turn.after_of_refuses ⟨.loading (.str id), claimed, .expired⟩ rfl (refuses.owned _)
  have restored : ({ claimed with
      store, ownership := claimed.ownership.release (.str id) } : Engine η) =
      { engine with store } := by
    rw [registers.release_claiming free]
  have proceeded : claimed.proceed (.loading (.str id)) =
      (.finished (.error f), { engine with store }) := by
    rw [← restored]
    exact after
  refine ⟨store, alike, ?_⟩
  rw [resume, startResumption_of_free (Value.isKey_str id) free]
  dsimp only
  rw [complete]
  dsimp only
  rw [show proceed _ _ = _ from proceeded]
  rfl

/-- How an engine rejects calls that take up the record of an id. -/
structure Rejects (engine : Engine η) (id : String) : Prop where
  active : engine.ownership.isActive (.str id) = true → ∀ behave : Behavior η,
    engine.start (startResumption (.str id)) =
        (.finished (.error (.stateOf s!"Execution {id} is already running in this process")),
          engine) ∧
      engine.resume behave (.str id) =
        (.finished (.error (.stateOf s!"Execution {id} is already running in this process")),
          engine)
  refused : engine.ownership.isActive (.str id) = false → ∀ f, engine.Refuses id f →
    ∀ behave : Behavior η, ∃ store : Store, store.Alike engine.store ∧
      engine.resume behave (.str id) = (.finished (.error f), { engine with store })
  otherwise : (∃ f, engine.Refuses id f) ∨
    ∃ record workflow, engine.heard id = .ok (some record) ∧ record.status = .running ∧
      engine.workflows.get record.workflow = .ok workflow
  claimed : engine.ownership.isActive (.str id) = false →
    engine.start (startResumption (.str id)) =
      (.loading (.str id), { engine with ownership := engine.ownership.claiming (.str id) })
  refusedLater : ∀ (turn : Turn η) (f : Fault), turn.run = .loading (.str id) →
    turn.found.Refuses id f → ∃ store : Store, store.Alike turn.found.store ∧
      turn.after = (.finished (.error f),
        { turn.found with store, ownership := turn.found.ownership.release (.str id) })
  apart : ∀ (other : String), other ≠ id → ∀ ownership : Ownership,
    (ownership.release (.str id)).isActive (.str other) = ownership.isActive (.str other) ∧
      (ownership.release (.str id)).isCancelRequested (.str other) =
        ownership.isCancelRequested (.str other) ∧
      (ownership.release (.str id)).locks.find? (.str other) =
        ownership.locks.find? (.str other) ∧
      (ownership.release (.str id)).held = ownership.held
  blamed : ∀ (around : Interim η) (turns : List (Turn η)) (final : Run η × Engine η) (f : Fault),
    Course around (engine.start (startResumption (.str id))) turns final →
    final.1 = .finished (.error f) → f.isPersistence = true →
    ∃ turn ∈ turns, turn.IsUnanswered f

/-- A call that is rejected when it is made is not to blame. -/
theorem start_not_persistence (id : Value)
    (met : (engine.start (startResumption id)).1 = .finished (.error f)) :
    f.isPersistence = false := by
  have fits : (startResumption id : Effect (Engine η) _).IsBlameless IsUnharmed :=
    .bind ((claim_isBlameless id).onPart _ _) fun _ _ => .pure nofun
  have blameless := fits engine
  unfold start at met
  rcases came : (startResumption id).runOn engine with ⟨g | run, left⟩
  · rw [came] at met blameless
    obtain rfl : g = f := by simpa using met
    exact blameless
  · rw [came] at met blameless
    exact absurd met (blameless f)

end Engine

/-- Whatever state an engine has come to, it rejects calls that take a record up without a trace.
Under an active id such a call changes nothing. Under a free id the record is asked for, and it is
refused unless it is running and its workflow is found; then nothing was saved or called, the store
has the content it had, and who owns what is as it was before the call. Where others have acted
between the claim and the refusal, the id is given up and other ids are left alone. Only a call of
the store that fails makes such a call end in a fault of persistence. -/
theorem System.Reachable.rejects {system : System η} (reachable : system.Reachable)
    (id : String) : system.engine.Rejects id where
  active active behave := ⟨Engine.start_of_active active, Engine.resume_of_active active behave⟩
  refused free f refuses behave :=
    Engine.resume_of_refuses reachable.isOrderly.registers free refuses behave
  otherwise := Engine.refuses_or_finds system.engine id
  claimed free := Engine.startResumption_of_free (Value.isKey_str id) free
  refusedLater turn _ loading refuses := turn.after_of_refuses loading refuses
  apart _ apart ownership := Ownership.release_of_ne apart ownership
  blamed around turns final f course met persistence := by
    cases begun : (system.engine.start (Engine.startResumption (.str id))).1.result? with
    | none => exact course.unanswered begun met persistence
    | some result =>
      have stands := Run.eq_of_result? begun
      obtain ⟨last, -⟩ := course.idle stands
      rw [last] at met
      obtain rfl : result = .error f := by simpa using met
      rw [Engine.start_not_persistence _ stands] at persistence
      cases persistence

namespace Letters

/-- While the letters are executed their record cannot be taken up, and trying to changes
nothing. -/
theorem rejected_while_active :
    System.Reachable ⟨[started.1], started.2⟩ ∧
      Engine.Rejects started.2 "exec-1" ∧ Engine.Rejects started.2 "exec-2" ∧
      started.2.resume behave (.str "exec-1") =
        (.finished (.error (.stateOf "Execution exec-1 is already running in this process")),
          started.2) := by
  have reachable : System.Reachable ⟨[started.1], started.2⟩ :=
    .stepped (.idle engine rfl) (.executed [] engine (.str "letters") .null)
  have active : started.2.ownership.isActive (.str "exec-1") = true := by decide +kernel
  exact ⟨reachable, reachable.rejects "exec-1", reachable.rejects "exec-2",
    ((reachable.rejects "exec-1").active active behave).2⟩

/-- The letters, left running in a record that gives a list for its workflow. -/
def misdirected : Execution where
  id := .str "exec-1"
  workflow := .list [.str "letters"]
  input := .map []
  status := .running
  outputs := .map []
  results := []
  startedAt := none
  finishedAt := none
  error := .null

/-- The record is running and its workflow is not registered, but looking that up is a fault of its
own. -/
theorem keyless_workflow :
    let holding : Engine Bool :=
      { engine with store := .create (.memory [(.str "exec-1", misdirected)]) default }
    System.Reachable ⟨[], holding⟩ ∧ holding.ownership.isActive (.str "exec-1") = false ∧
      holding.heard "exec-1" = .ok (some misdirected) ∧ misdirected.status = .running ∧
      holding.workflows.table.find? misdirected.workflow = none ∧
      (holding.resume behave (.str "exec-1")).1 ≠
        .finished (.error (.workflowNotFound misdirected.workflow)) := by
  intro holding
  have found : Table.find? (.str "exec-1") [(.str "exec-1", misdirected)] = some misdirected := by
    rw [Table.find?, Value.same_str_self, if_pos rfl]
  have copied : misdirected.snapshot = .ok misdirected := by
    simp [misdirected, Execution.snapshot, Execution.obstacle?, Execution.copied, Value.obstacle?,
      Value.itemObstacle?, Value.entryObstacle?, Value.copied, Value.copiedItems,
      Value.copiedEntries, Fault.barring]
  have loaded : (Store.load (.str "exec-1")).runOn holding.store =
      (.ok (some misdirected), holding.store.counting .load) := by
    have unplanned : holding.store.plan .load (holding.store.made .load + 1) = none := rfl
    have backing : (holding.store.counting .load).backing =
        .memory [(.str "exec-1", misdirected)] := rfl
    have hashable : (Value.str "exec-1").hashable = .ok () := rfl
    rw [Store.load, Effect.runOn_bind, Store.enter_eq, unplanned]
    dsimp only
    rw [Effect.runOn_get_bind, backing]
    dsimp only
    rw [Effect.runOn_lift_bind, hashable]
    dsimp only
    rw [found]
    dsimp only
    rw [Effect.runOn_lift_bind, copied]
    rfl
  have answer : holding.heard "exec-1" = .ok (some misdirected) := by
    rw [Engine.heard, Engine.callStore_of_ok rfl (by
      rw [Engine.onStore, Effect.runOn_onPart, loaded])]
  have hashable : misdirected.workflow.hashable = .error (.typeError "unhashable type: 'list'") := by
    rfl
  have reachable : System.Reachable ⟨[], holding⟩ := .idle holding rfl
  obtain ⟨store, -, refused⟩ := Engine.resume_of_refuses reachable.isOrderly.registers rfl
    (.keyless answer rfl hashable) behave
  refine ⟨reachable, rfl, answer, rfl, by decide +kernel, ?_⟩
  rw [refused]
  intro same
  injection same with same
  injection same with same
  cases same

end Letters

end Stepwise
