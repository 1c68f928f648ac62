import Stepwise.Proofs.Engine.Chronicle
import Stepwise.Proofs.Engine.Resumed

/-!
# The history of an execution

An execution is started once, and a record that was left running may be taken up again as often as
one likes: by the same engine or by another one, with other workflows, other handlers and other
requests to stop. All that these calls have in common is the record in the store. Whoever reads it
finds that it only moves forward. Its results are never taken back or changed, it ends at most once,
nothing happens after that, and the step in the place of a recorded result is not dispatched again.
-/

namespace Stepwise

variable {η : Type}

/-- The calls that are about one execution: the one that starts it under a new id, and those that
take it up afterwards. The turns of the last call are told apart from the turns before it. A call
may break off anywhere, and its engine with it. -/
inductive History (id : String) : List (Turn η) → List (Turn η) → Run η × Engine η → Prop where
  | executed {engine : Engine η} {workflowId input : Value} {turns : List (Turn η)}
    {place : Run η × Engine η} (issued : engine.nextId = .str id)
    (unsaved : engine.store.Lacks (.str id))
    (course : Course (Secluded id) (engine.start (Engine.startExecution workflowId input)) turns
      place) :
    History id [] turns place
  | resumed {past turns more : List (Turn η)} {place final : Run η × Engine η} {engine : Engine η}
    (before : History id past turns place)
    (between : place.2.store.Keeps (.str id) engine.store)
    (course : Course (Secluded id) (engine.start (Engine.startResumption (.str id))) more final) :
    History id (past ++ turns) more final

/-- The records that turns have kept, in order. -/
def Turn.kept (turns : List (Turn η)) : List Execution := turns.filterMap Turn.saved?

/-- What a turn finds and does after some records were kept. The store holds the last of them. If
one of them has come to an end, the turn neither saves nor calls. If a step is to be dispatched,
then it is the one in the place after all results that were recorded. -/
structure Turn.Extends (kept : List Execution) (turn : Turn η) : Prop where
  held : ∀ record, kept.getLast? = some record → turn.found.store.Holds record
  quiet : (∃ record ∈ kept, record.isTerminal = true) → turn.events = []
  unrecorded : ∀ work attempt input, turn.run = .dispatching work attempt input →
    work.workflow.steps[work.execution.results.length]? = some attempt.step ∧
      ∀ record ∈ kept, record.results.length ≤ work.execution.results.length

/-- The records that were kept are the chronicle of the execution, which every turn has extended and
in which the run takes part. -/
structure Turn.Chronicles (id : String) (past : List (Turn η)) (run : Run η) (left : Engine η) :
    Prop where
  chronicle : Chronicle id (kept past) left.store
  stands : run.Chronicled (kept past)
  about : run.IsAbout id
  extended : ∀ before turn later, past = before ++ turn :: later → turn.Extends (kept before)

namespace Turn

variable {id : String} {turn : Turn η} {left : Engine η} {past : List (Turn η)}

theorem kept_concat (past : List (Turn η)) (turn : Turn η) :
    kept (past ++ [turn]) = kept past ++ turn.saved?.toList := by
  unfold kept
  rw [List.filterMap_append]
  cases saved : turn.saved? <;> simp [saved]

/-- Every turn extends the chronicle. -/
theorem extends_kept (secluded : Secluded id left turn)
    (chronicles : Chronicles id past turn.run left) : turn.Extends (kept past) := by
  obtain ⟨chronicle, stands, about, -⟩ := chronicles
  have found := chronicle.spared secluded.between
  refine ⟨found.held, ?_, ?_⟩
  · rintro ⟨record, member, terminal⟩
    obtain loading | sound := about.sound
    · exact (left_of_loading loading (.str id)).1
    · cases ended : turn.run.result? with
      | some result => exact events_of_finished (Run.eq_of_result? ended)
      | none =>
        -- A run with work goes on from a running record, and a terminal one is the last.
        obtain ⟨work, present⟩ := sound.work ended
        obtain ⟨results, leads⟩ :=
          stands.leads present (chronicle.last_of_terminal member terminal)
        rw [Execution.isTerminal, leads.running] at terminal
        cases terminal
  · intro work attempt input dispatching
    obtain ⟨-, placed⟩ := about.named work (by rw [dispatching]; rfl)
    obtain loading | sound := about.sound
    · rw [dispatching] at loading
      cases loading
    · rw [dispatching] at sound stands
      obtain ⟨-, later, next⟩ := sound
      obtain ⟨-, last, ends, leads⟩ := stands
      refine ⟨placed.next next, ?_⟩
      intro record member
      simpa using (chronicle.leads ends leads member).2.length_le

/-- The chronicle goes on with every turn. -/
theorem carries_chronicles (past : List (Turn η)) (left : Engine η) (turn : Turn η)
    (chronicles : Chronicles id past turn.run left) (secluded : Secluded id left turn) :
    Chronicles id (past ++ [turn]) turn.after.1 turn.after.2 := by
  have extended := extends_kept secluded chronicles
  obtain ⟨chronicle, stands, about, earlier⟩ := chronicles
  obtain ⟨also, standing, still⟩ := turn.chronicles secluded about chronicle stands
  refine ⟨by rwa [kept_concat], by rwa [kept_concat], still, ?_⟩
  intro before other later split
  obtain rfl | ⟨rest, last, rfl⟩ := List.eq_nil_or_concat later
  · obtain ⟨rfl, same⟩ := List.append_inj' split rfl
    obtain rfl := List.singleton_inj.mp same
    exact extended
  · rw [List.concat_eq_append, ← List.cons_append, ← List.append_assoc] at split
    exact earlier before other rest (List.append_inj' split rfl).1

end Turn

namespace Engine

variable {id : String} {engine : Engine η}

/-- A new execution begins with no records. -/
theorem startExecution_chronicles {workflowId input : Value} (issued : engine.nextId = .str id)
    (unsaved : engine.store.Lacks (.str id)) :
    let started := engine.start (startExecution workflowId input)
    Turn.Chronicles id [] started.1 started.2 := by
  intro started
  have chronicle : Chronicle id [] engine.store :=
    ⟨.nil, nofun, nofun, nofun, fun _ => unsaved⟩
  have none : ∀ before turn later, [] = before ++ turn :: later →
      Turn.Extends (η := η) (Turn.kept before) turn := by simp
  obtain ⟨f, _, refused⟩ | ⟨-, -, ⟨f, refused⟩ | begun⟩ :=
    startExecution_cases workflowId input engine
  · rw [show started = _ from refused]
    exact ⟨chronicle, trivial, Run.isAbout_fault id f, none⟩
  · rw [show started = _ from refused]
    exact ⟨chronicle, trivial, Run.isAbout_fault id f, none⟩
  · obtain ⟨workflow, given, lock, ownership, -, -, -, begun⟩ := begun
    rw [show started = _ from begun]
    refine ⟨?_, entering_chronicled ⟨rfl, nofun⟩, entering_isAbout rfl issued rfl, none⟩
    rw [entering_store]
    exact chronicle

/-- A record that is to be taken up is still to be loaded. -/
theorem startResumption_chronicles {past : List (Turn η)} {run : Run η} {left : Engine η}
    (chronicles : Turn.Chronicles id past run left)
    (between : left.store.Keeps (.str id) engine.store) :
    let started := engine.start (startResumption (.str id))
    Turn.Chronicles id past started.1 started.2 := by
  intro started
  obtain ⟨chronicle, -, -, extended⟩ := chronicles
  have found := chronicle.spared between
  obtain ⟨f, refused⟩ | ⟨-, -, loading⟩ := startResumption_cases (.str id) engine
  · rw [show started = _ from refused]
    exact ⟨found, trivial, Run.isAbout_fault id f, extended⟩
  · rw [show started = _ from loading]
    exact ⟨found, trivial, ⟨.inl rfl, nofun⟩, extended⟩

end Engine

namespace History

variable {id : String} {past turns : List (Turn η)} {place : Run η × Engine η}

theorem chronicles (history : History id past turns place) :
    Turn.Chronicles id (past ++ turns) place.1 place.2 := by
  induction history with
  | executed issued unsaved course =>
    exact course.preserves (Turn.Chronicles id) Turn.carries_chronicles []
      (Engine.startExecution_chronicles issued unsaved)
  | resumed before between course inductionHypothesis =>
    exact course.preserves (Turn.Chronicles id) Turn.carries_chronicles _
      (Engine.startResumption_chronicles inductionHypothesis between)

end History

/-! ## In memory -/

/-- In memory it is enough that nobody writes the record between two turns, and that calls of the
store are given time: what fails has changed nothing then, and what is loaded is a copy. -/
theorem secluded_of_memory {id : String} {left : Engine η} {turn : Turn η}
    (between : left.store.Keeps (.str id) turn.found.store)
    (timely : turn.found.options.persistTimeout.allowance = .ok .all)
    (inMemory : turn.found.store.IsInMemory) : Secluded id left turn := by
  obtain ⟨table, backing⟩ := inMemory
  refine ⟨between, ?_, fun _ _ => Store.readsBack_of_memory backing⟩
  intro work f reached _ failed
  obtain ⟨_, -, same⟩ | ⟨succeeded, -⟩ := Engine.persist_memory timely backing failed
  · have alike : reached.store.Alike turn.found.store := by
      refine ⟨same.trans backing.symm, ?_⟩
      intro path folder
      rw [same] at folder
      cases folder
    exact alike.keeps (.str id)
  · cases succeeded

namespace Letters

/-- The store of the turn is in memory and is given time. -/
def isUnhurried (turn : Turn Bool) : Bool :=
  turn.found.options.persistTimeout.isNull &&
    match turn.found.store.backing with
    | .memory _ => true
    | .folder _ => false

/-- Handlers that leave the engine alone do not touch the record, so nobody else does. -/
theorem secluded_of_isUnhurried (id : String) {left : Engine Bool} {turn : Turn Bool}
    (found : turn.found = left) (unhurried : isUnhurried turn = true) :
    Secluded id left turn ∧ turn.found.store.IsInMemory := by
  simp only [isUnhurried, Bool.and_eq_true] at unhurried
  have inMemory : turn.found.store.IsInMemory := by
    cases backing : turn.found.store.backing with
    | memory kept => exact ⟨kept, backing⟩
    | folder path => simp [backing] at unhurried
  exact ⟨secluded_of_memory (found ▸ .refl _ _) (Engine.allowance_of_isNull unhurried.1) inMemory,
    inMemory⟩

theorem course_of_moves (id : String) (count : Nat) {run : Run Bool} {engine : Engine Bool}
    (unhurried : (Engine.turnsOf behave count run engine).all isUnhurried = true) :
    Course (Secluded id) (run, engine) (Engine.turnsOf behave count run engine)
      (Engine.moves behave count run engine) := by
  refine (Engine.moves_course behave count run engine).mono ?_
  intro left turn member taken
  have found : turn.found = left := by rw [taken, Engine.turnOf_found still]
  exact (secluded_of_isUnhurried id found (List.all_eq_true.mp unhurried turn member)).1

/-- The turns of the two calls that are interrupted. -/
def interruptedTurns : List (Turn Bool) :=
  Engine.turnsOf behave 7 begun.1 begun.2 ++ Engine.turnsOf behave 5 resumed.1 resumed.2

def lastTurns : List (Turn Bool) := Engine.turnsOf behave 9 resumedAgain.1 resumedAgain.2

/-- The letters are executed and taken up twice. -/
theorem history : History "exec-1" interruptedTurns lastTurns
    (Engine.moves behave 9 resumedAgain.1 resumedAgain.2) := by
  have issued : unreliable.nextId = .str "exec-1" := rfl
  have lacks : unreliable.store.Lacks (.str "exec-1") := rfl
  have first : History "exec-1" [] _ interrupted :=
    .executed issued lacks (course_of_moves "exec-1" 7 (by decide +kernel))
  have second : History "exec-1" _ _ interruptedAgain :=
    .resumed first (.refl _ _) (course_of_moves "exec-1" 5 (by decide +kernel))
  exact .resumed second (.refl _ _) (course_of_moves "exec-1" 9 (by decide +kernel))

end Letters

end Stepwise
