import Stepwise.Proofs.Engine.Kept
import Stepwise.Proofs.Engine.Snapshot

/-!
# What an engine does when nothing interferes

An engine is quiet when its records are in memory, its store fails at no call of its own, and nobody
is asked to stop. On a quiet engine what a save comes to, where a run goes on after it, where an
execution begins and what is loaded of an id are functions of the record, of the registries and
limits of the engine, and of what is kept under the id: how often the store was called and what is
kept under other ids do not come into them.
-/

namespace Stepwise

variable {η : Type}

/-- An id, or nothing where one would be. -/
def Value.IsName (v : Value) : Prop := v = .null ∨ ∃ text, v = .str text

theorem Value.IsName.copied {v : Value} (name : v.IsName) : v.copied = v := by
  obtain rfl | ⟨text, rfl⟩ := name
  · simp [Value.copied]
  · simp [Value.copied]

theorem Value.IsName.hashable {v : Value} (name : v.IsName) : v.hashable = .ok () := by
  obtain rfl | ⟨text, rfl⟩ := name <;> rfl

namespace Ownership

/-- From one ownership to the other nobody is asked to stop, and every lock that is new is one under
the id. -/
structure LeadsTo (ownership left : Ownership) (id : Value) : Prop where
  orderly : ownership.IsOrderly → left.IsOrderly
  requested : left.cancelRequested ⊆ ownership.cancelRequested
  locked : ∀ entry ∈ left.locks, entry ∈ ownership.locks ∨ entry.1 = id

variable {ownership between left : Ownership} {id : Value}

theorem leadsTo_refl (ownership : Ownership) (id : Value) : ownership.LeadsTo ownership id :=
  ⟨fun orderly => orderly, fun _ => fun member => member, fun _ => .inl⟩

theorem LeadsTo.trans (first : ownership.LeadsTo between id) (second : between.LeadsTo left id) :
    ownership.LeadsTo left id where
  orderly := second.orderly ∘ first.orderly
  requested := fun _ member => first.requested (second.requested member)
  locked := fun entry member => (second.locked entry member).elim (first.locked entry) .inr

theorem leadsTo_claiming (ownership : Ownership) (id : Value) :
    ownership.LeadsTo (ownership.claiming id) id :=
  ⟨fun orderly => orderly, fun _ => fun member => member, fun _ => .inl⟩

theorem leadsTo_release (ownership : Ownership) (claimed id : Value) :
    ownership.LeadsTo (ownership.release claimed) id where
  orderly := fun orderly => orderly
  requested := fun _ member => (List.mem_filter.mp member).1
  locked := fun _ member => .inl ((Table.erase_sublist _ _).subset member)

theorem leadsTo_letGo (ownership : Ownership) (lock : Nat) (id : Value) :
    ownership.LeadsTo (ownership.letGo lock) id :=
  ⟨fun orderly => orderly.letGo lock, fun _ => fun member => member, fun _ => .inl⟩

/-- A new lock is one under its id. -/
theorem leadsTo_locking (unlocked : ownership.locks.find? id = .none) :
    ownership.LeadsTo (ownership.locking id) id where
  orderly := fun orderly => orderly.locking id
  requested := fun _ member => member
  locked := by
    intro entry member
    rw [locking, Table.insert_of_absent (Table.find?_eq_none_iff.mp unlocked)] at member
    obtain earlier | last := List.mem_append.mp member
    · exact .inl earlier
    · obtain rfl := List.mem_singleton.mp last
      exact .inr rfl

end Ownership

/-- Where a run stands that goes on or meets a fault. -/
def Run.orFault : Except Fault (Run η) → Run η
  | .ok run => run
  | .error f => .finished (.error f)

namespace Engine

/-- Records are in memory, no call of the store is to fail, and nobody is asked to stop. -/
structure IsQuiet (engine : Engine η) : Prop where
  inMemory : engine.store.IsInMemory
  unplanned : engine.store.plan = fun _ _ => none
  unasked : engine.ownership.cancelRequested = []

/-! ## Saving -/

/-- What saving a record comes to: only a part that cannot be copied and the limit for calls of the
store keep it from being saved. -/
def keeping (engine : Engine η) (execution : Execution) : Except Fault Unit :=
  match execution.obstacle? with
  | some f => .error f
  | none =>
    match engine.options.persistTimeout.allowance with
    | .ok .all => .ok ()
    | .ok .start =>
      storeRefusal "save" engine.options.persistTimeout (.machinery "TimeoutError" "")
    | .ok .nothing =>
      storeRefusal "save" engine.options.persistTimeout (.machinery "TimeoutError" "")
    | .error f => storeRefusal "save" engine.options.persistTimeout f

/-- What is noted of saving a record. A save that is too late is made nevertheless. -/
def noted (engine : Engine η) (execution : Execution) : List (Event η) :=
  match execution.obstacle?, engine.options.persistTimeout.allowance with
  | none, .ok .all => [.saved execution.copied true]
  | none, .ok .start => [.saved execution.copied true]
  | _, _ => []

variable {engine : Engine η} {execution : Execution} {work : Work}

/-- On a quiet engine saving comes to what it comes to, and the store has changed at most by the
copy of the record under its id. -/
theorem persist_of_quiet (quiet : engine.IsQuiet) (name : execution.id.IsName) :
    ∃ store : Store, (persist execution).runOn engine =
        (engine.keeping execution,
          { engine with store, trace := engine.trace ++ engine.noted execution }) ∧
      store.plan = engine.store.plan ∧
      ∀ kept, engine.store.backing = .memory kept → store.backing = .memory kept ∨
        store.backing = .memory (kept.insert execution.id execution.copied.copied) := by
  obtain ⟨⟨kept, backing⟩, unplanned, -⟩ := quiet
  unfold keeping noted
  rw [persist, Effect.runOn_lift_bind, Execution.snapshot]
  cases obstacle : execution.obstacle? with
  | some f => exact ⟨engine.store, by simp [Fault.barring], rfl, fun _ same => .inl same⟩
  | none =>
    have copied : execution.copied.id = execution.id := name.copied
    have saved : (Store.save execution.copied).runOn engine.store = _ :=
      Store.save_inMemory backing (by rw [unplanned]) (Execution.obstacle?_copied obstacle)
        (copied ▸ name.hashable)
    rw [copied] at saved
    have made : (save execution.copied).runOn engine =
        (.ok (), engine.stored { engine.store.counting .save with
          backing := .memory (kept.insert execution.id execution.copied.copied) }
          (.saved execution.copied true)) := by
      rw [save_eq, saved]
      rfl
    simp only [Fault.barring, callStore_eq, made]
    cases engine.options.persistTimeout.allowance with
    | error f => exact ⟨engine.store, by simp, rfl, fun _ same => .inl same⟩
    | ok allowance =>
      cases allowance with
      | nothing => exact ⟨engine.store, by simp, rfl, fun _ same => .inl same⟩
      | start | all =>
        refine ⟨_, rfl, rfl, fun other same => .inr ?_⟩
        rw [backing] at same
        cases same
        rfl

/-! ## Going on -/

/-- Where a run that nobody asks to stop goes on to after a save. -/
def onward (engine : Engine η) (work : Work) : Except Fault (Run η) :=
  match work.remaining with
  | [] => .ok (.closing (work.closed (work.execution.finalStatus work.halted false)
      work.execution.error engine.now))
  | step :: _ =>
    if work.halted then
      .ok (.closing (work.closed (work.execution.finalStatus work.halted false)
        work.execution.error engine.now))
    else (step.outset work.execution.outputs work.execution.input).map (engine.begun work step)

theorem next_of_quiet (quiet : engine.IsQuiet) (running : work.execution.status = .running) :
    (next work).runOn engine = (engine.onward work, engine) := by
  have unasked : engine.ownership.isCancelRequested work.execution.id = false := by
    simp [Ownership.isCancelRequested, quiet.unasked, Value.isAmong]
  unfold onward
  cases left : work.remaining with
  | nil => exact next_of_goes running (.ended (.inl left))
  | cons step later =>
    cases halted : work.halted with
    | true =>
      have goes : (next work).runOn engine = _ := next_of_goes running (.ended (.inr halted))
      rw [halted] at goes
      exact goes
    | false =>
      cases comes : step.outset work.execution.outputs work.execution.input with
      | ok outset =>
        rw [next_of_goes running (.begins left halted unasked comes)]
        simp [comes, Except.map]
      | error f =>
        rw [next_of_baulks running (.unbegun left halted unasked comes)]
        simp [comes, Except.map]

/-! ## Beginning -/

/-- Where an execution begins. -/
def beginning (engine : Engine η) (workflowId input : Value) : Except Fault (Run η) :=
  match engine.workflows.get workflowId, givenInput input with
  | .error f, _ => .error f
  | .ok _, .error f => .error f
  | .ok workflow, .ok given =>
    workflow.id.text.map fun _ => .opening (workOn engine.nextId engine.ownership.made workflow
      (engine.freshRecord workflow given))

/-- Where a run begins that takes a record up. -/
def takingUp (engine : Engine η) (id : Value) (record : Execution) : Except Fault (Run η) :=
  if record.status ≠ .running then do
    let id ← id.text
    throw (.stateOf s!"Execution {id} is {record.status.name}, not running")
  else
    match engine.workflows.get record.workflow with
    | .error f => .error f
    | .ok workflow =>
      workflow.id.text.map fun _ => .opening (workOn id engine.ownership.made workflow record)

/-- What loading the record of an id comes to. -/
def loaded (engine : Engine η) (id : String) : Except Fault Execution :=
  match engine.options.persistTimeout.allowance with
  | .ok .all =>
    match engine.store.kept? id with
    | some record =>
      match record.snapshot with
      | .ok copy => .ok copy
      | .error f => storeRefusal "load" engine.options.persistTimeout f
    | none => refuse (.executionNotFound (.str id))
  | .ok .start =>
    storeRefusal "load" engine.options.persistTimeout (.machinery "TimeoutError" "")
  | .ok .nothing =>
    storeRefusal "load" engine.options.persistTimeout (.machinery "TimeoutError" "")
  | .error f => storeRefusal "load" engine.options.persistTimeout f

/-- A workflow whose id cannot be told is not begun, and nothing has changed. -/
theorem begin_untold (claimed : Value) {workflow : Workflow} (execution : Execution) {f : Fault}
    (untold : workflow.id.text = .error f) :
    (begin claimed workflow execution).runOn engine = (.error f, engine) := by
  rw [begin, Effect.runOn_lift_bind, untold]

/-- An execution under a free id begins where it begins, and besides its id and who owns what
nothing has changed. Only one that did not come to its record may have left its id unissued. -/
theorem start_of_free (workflowId input : Value)
    (free : engine.ownership.IsFree engine.nextId) :
    ∃ issued ownership, engine.start (startExecution workflowId input) =
        (.orFault (engine.beginning workflowId input), { engine with issued, ownership }) ∧
      engine.issued ≤ issued ∧ engine.ownership.LeadsTo ownership engine.nextId ∧
      (issued = engine.issued + 1 ∨ ∃ f, engine.beginning workflowId input = .error f) := by
  have unmoved := engine.ownership.leadsTo_refl engine.nextId
  have claiming := engine.ownership.leadsTo_claiming engine.nextId
  unfold beginning
  cases found : engine.workflows.get workflowId with
  | error f =>
    refine ⟨engine.issued, engine.ownership, ?_, Nat.le_refl _, unmoved, .inr ⟨f, rfl⟩⟩
    rw [start, startExecution_eq, found]
    rfl
  | ok workflow =>
    cases copied : givenInput input with
    | error f =>
      refine ⟨engine.issued + 1, engine.ownership, ?_, Nat.le_succ _, unmoved, .inl rfl⟩
      rw [start, startExecution_eq, found, copied]
      rfl
    | ok given =>
      dsimp only
      cases told : workflow.id.text with
      | error f =>
        have claimed := claim_eq { engine with issued := engine.issued + 1 } rfl free
        refine ⟨engine.issued + 1, (engine.ownership.claiming engine.nextId).release engine.nextId,
          ?_, Nat.le_succ _, claiming.trans (Ownership.leadsTo_release _ _ _), .inl rfl⟩
        rw [start, startExecution_eq, found, copied]
        dsimp only
        rw [claimed]
        dsimp only
        rw [begin_untold _ _ told]
        rfl
      | ok text =>
        have own := free.isClaimed (Value.same_str_self s!"exec-{engine.issued + 1}")
        exact ⟨engine.issued + 1, (engine.ownership.claiming engine.nextId).locking engine.nextId,
          startExecution_opens found ⟨text, told⟩ free copied, Nat.le_succ _,
          claiming.trans (Ownership.leadsTo_locking own.unlocked), .inl rfl⟩

theorem beginning_ok {workflowId input : Value} {run : Run η}
    (begins : engine.beginning workflowId input = .ok run) :
    ∃ workflow given, run = .opening (workOn engine.nextId engine.ownership.made workflow
      (engine.freshRecord workflow given)) := by
  unfold beginning at begins
  split at begins
  · cases begins
  · cases begins
  · obtain ⟨_, -, rfl⟩ := Result.map_ok begins
    exact ⟨_, _, rfl⟩

theorem takingUp_ok {id : Value} {record : Execution} {run : Run η}
    (taken : engine.takingUp id record = .ok run) :
    ∃ workflow, run = .opening (workOn id engine.ownership.made workflow record) := by
  unfold takingUp at taken
  split at taken
  · obtain ⟨_, -, taken⟩ := Result.bind_ok taken
    cases taken
  · split at taken
    · cases taken
    · obtain ⟨_, -, rfl⟩ := Result.map_ok taken
      exact ⟨_, rfl⟩

/-- On a quiet engine loading comes to what it comes to, and the store only counts the call. -/
theorem getExecution_of_quiet (quiet : engine.IsQuiet) (id : String) :
    ∃ store : Store, (getExecution (.str id)).runOn engine =
        (engine.loaded id, { engine with store }) ∧
      store.plan = engine.store.plan ∧ store.backing = engine.store.backing := by
  obtain ⟨⟨kept, backing⟩, unplanned, -⟩ := quiet
  have listed : engine.store.kept? id = kept.find? (.str id) := by rw [Store.kept?, backing]
  have called : (onStore (Store.load (.str id)) : Effect (Engine η) (Option Execution)).runOn
      engine = (match kept.find? (.str id) with
        | some record => record.snapshot.map some
        | none => .ok none, { engine with store := engine.store.counting .load }) := by
    have inMemory : (engine.store.counting .load).backing = .memory kept := backing
    have key : (Value.str id).hashable = .ok () := rfl
    rw [onStore, Effect.runOn_onPart, Store.load_left]
    rw [Store.load, Effect.runOn_bind, Store.enter_eq, unplanned]
    dsimp only
    rw [Effect.runOn_get_bind, inMemory]
    dsimp only
    rw [Effect.runOn_lift_bind, key]
    dsimp only
    cases kept.find? (.str id) with
    | none => rfl
    | some record =>
      dsimp only
      rw [Effect.runOn_lift_bind]
      cases record.snapshot <;> rfl
  unfold loaded
  rw [listed, getExecution, Effect.runOn_bind, callStore_eq, called]
  dsimp only
  cases engine.options.persistTimeout.allowance with
  | error f =>
    obtain ⟨g, refused⟩ := storeRefusal_eq "load" engine.options.persistTimeout f
    exact ⟨engine.store, by simp [refused], rfl, rfl⟩
  | ok allowance =>
    obtain ⟨g, refused⟩ := storeRefusal_eq "load" engine.options.persistTimeout
      (.machinery "TimeoutError" "")
    cases allowance with
    | nothing => exact ⟨engine.store, by simp [refused], rfl, rfl⟩
    | start => exact ⟨engine.store.counting .load, by simp [refused], rfl, rfl⟩
    | all =>
      refine ⟨engine.store.counting .load, ?_, rfl, rfl⟩
      cases kept.find? (.str id) with
      | none => rfl
      | some record =>
        cases copied : record.snapshot with
        | ok copy => simp [copied, Except.map]
        | error f =>
          obtain ⟨g, refused⟩ := storeRefusal_eq "load" engine.options.persistTimeout f
          simp [copied, Except.map, refused]

/-- What is loaded has the id that it is kept under. -/
theorem loaded_named {id : String} {record : Execution}
    (filed : ∀ record, engine.store.kept? id = some record → record.id = .str id)
    (loaded : engine.loaded id = .ok record) : record.id = .str id := by
  have refusing {f : Fault}
      (met : storeRefusal "load" engine.options.persistTimeout f = .ok record) :
      record.id = .str id := absurd met storeRefusal_ne_ok
  unfold Engine.loaded at loaded
  split at loaded
  · split at loaded
    · rename_i given kept
      split at loaded
      · rename_i copy taken
        cases loaded
        obtain ⟨-, rfl⟩ := Execution.snapshot_eq_ok.mp taken
        simp [Execution.copied, filed given kept, Value.copied]
      · exact refusing loaded
    · cases loaded
  all_goals exact refusing loaded

/-- Without a lock under its id a record is taken up with a new one, or it is refused and nothing
has changed. -/
theorem takeUp_of_unlocked (engine : Engine η) {id : String} {record : Execution}
    (named : record.id = .str id) (orderly : engine.ownership.IsOrderly)
    (unlocked : engine.ownership.locks.find? (.str id) = none) :
    (∃ f, engine.takingUp (.str id) record = .error f ∧
        (takeUp (.str id) record).runOn engine = (.error f, engine)) ∨
      ∃ run, engine.takingUp (.str id) record = .ok run ∧ run.result? = none ∧
        (takeUp (.str id) record).runOn engine =
          (.ok run, { engine with ownership := engine.ownership.locking (.str id) }) := by
  unfold takingUp
  by_cases running : record.status = .running
  · rw [if_neg (not_not_intro running)]
    cases registered : engine.workflows.get record.workflow with
    | error f =>
      refine .inl ⟨f, rfl, ?_⟩
      rw [takeUp, if_neg (not_not_intro running), Effect.runOn_get_bind, Effect.runOn_lift_bind,
        registered]
    | ok workflow =>
      dsimp only
      rw [takeUp_eq running registered]
      cases told : workflow.id.text with
      | error f => exact .inl ⟨f, rfl, begin_untold _ _ told⟩
      | ok text =>
        have begun := begin_opens (.str id) engine ⟨text, told⟩ named orderly (named ▸ unlocked)
        rw [named] at begun
        exact .inr ⟨_, rfl, rfl, begun⟩
  · rw [if_pos running, takeUp, if_pos running, Effect.runOn_lift_bind, Value.text]
    exact .inl ⟨_, rfl, rfl⟩

end Engine

end Stepwise
