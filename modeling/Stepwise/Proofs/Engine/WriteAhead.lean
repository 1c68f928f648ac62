import Stepwise.Proofs.Engine.Ledger
import Stepwise.Proofs.Store.Holding

/-!
# Saving before and after every call

A run saves its record before its first step, after every step and at the end, and it calls at most
one handler between two saves. The journal of a run lists its saves with the turns at which steps
were dispatched in between. It accounts for everything the run does to the world: the events of all
turns, in order, are the events that the journal gives.

When nobody else changes the record in the store, the store holds the last saved snapshot whenever
a handler is called. A run that breaks off during a call is therefore known up to that call.
-/

namespace Stepwise

/-- A step of a journal: the turn at which it was dispatched, if it was, and the snapshot that was
saved after it. -/
structure Entered (η : Type) where
  dispatched : Option (Turn η)
  snapshot : Execution

/-- What a run has saved: the first snapshot, and one after every step. -/
structure Journal (η : Type) where
  opening : Execution
  entries : List (Entered η)

/-- What the dispatch of a step did, if there was one. -/
def Turn.callsOf {η : Type} (dispatched : Option (Turn η)) : List (Event η) :=
  (dispatched.map Turn.events).getD []

namespace Journal

variable {η : Type}

/-- The saved snapshots in order. -/
def snapshots (journal : Journal η) : List Execution :=
  journal.opening :: journal.entries.map Entered.snapshot

/-- The events of a journal: every step is saved after the call that it made, if it made one. -/
def events (journal : Journal η) : List (Event η) :=
  .saved journal.opening true ::
    journal.entries.flatMap fun entry =>
      Turn.callsOf entry.dispatched ++ [.saved entry.snapshot true]

/-- The journal with one more step. -/
def add (journal : Journal η) (dispatched : Option (Turn η)) (snapshot : Execution) : Journal η :=
  { journal with entries := journal.entries ++ [⟨dispatched, snapshot⟩] }

theorem events_add (journal : Journal η) (dispatched : Option (Turn η)) (snapshot : Execution) :
    (journal.add dispatched snapshot).events =
      journal.events ++ (Turn.callsOf dispatched ++ [.saved snapshot true]) := by
  simp [events, add]

theorem snapshots_add (journal : Journal η) (dispatched : Option (Turn η))
    (snapshot : Execution) :
    (journal.add dispatched snapshot).snapshots = journal.snapshots ++ [snapshot] := by
  simp [snapshots, add]

theorem length_snapshots (journal : Journal η) :
    journal.snapshots.length = journal.entries.length + 1 := by
  simp [snapshots]

end Journal

/-- How the result of a step came about, as far as its dispatch and its call go. A step is settled
without a dispatch, dispatched in vain, or dispatched to a handler; then the store held the
snapshot saved before. -/
inductive Step.Explained {η : Type} (past : List (Turn η)) (id : Value)
    (before : Option Execution) (step : Step) (outputs input : Value) :
    Option (Turn η) → StepResult → Prop where
  | settled {result : StepResult}
    (comes : step.outset outputs input = .ok (.settled result.status result.error)) :
    Explained past id before step outputs input none result
  | refused {turn : Turn η} {work : Work} {attempt : Attempt} {resolved : Value} {f : Fault}
    {result : StepResult} (taken : turn ∈ past)
    (stands : turn.run = .dispatching work attempt resolved) (its : attempt.step = step)
    (comes : step.outset outputs input = .ok (.sent resolved))
    (reached : turn.found.reach attempt = .refused f) (silent : turn.events = [])
    (failed : result.status = .failed) :
    Explained past id before step outputs input (some turn) result
  | called {turn : Turn η} {work : Work} {attempt : Attempt} {resolved : Value} {handler : η}
    {record : Execution} {result : StepResult} (taken : turn ∈ past)
    (stands : turn.run = .dispatching work attempt resolved) (its : attempt.step = step)
    (comes : step.outset outputs input = .ok (.sent resolved))
    (reached : turn.found.reach attempt = .handler handler)
    (event : turn.events = [.called (some id) step.agent step.action handler resolved])
    (saved : before = some record) (held : turn.found.store.Holds record)
    (ended : result.status = .succeeded ∨ result.status = .failed) :
    Explained past id before step outputs input (some turn) result

theorem Step.Explained.mono {η : Type} {past more : List (Turn η)} {id : Value}
    {before : Option Execution} {step : Step} {outputs input : Value}
    {dispatched : Option (Turn η)} {result : StepResult}
    (explained : step.Explained past id before outputs input dispatched result)
    (longer : ∀ turn ∈ past, turn ∈ more) :
    step.Explained more id before outputs input dispatched result := by
  cases explained with
  | settled comes => exact .settled comes
  | refused taken stands its comes reached silent failed =>
    exact .refused (longer _ taken) stands its comes reached silent failed
  | called taken stands its comes reached event saved held ended =>
    exact .called (longer _ taken) stands its comes reached event saved held ended

/-- The journal covers the results that were made on an input: every snapshot is of the running
record with the results up to it, and every result is explained by its entry. -/
structure Journal.Covers {η : Type} (journal : Journal η) (past : List (Turn η))
    (steps : List Step) (id input : Value) (results : List StepResult) : Prop where
  counted : journal.entries.length = results.length
  opened : journal.opening.status = .running ∧ journal.opening.id = id ∧
    journal.opening.results = []
  saved : ∀ (place : Nat) (entry : Entered η), journal.entries[place]? = some entry →
    entry.snapshot.status = .running ∧ entry.snapshot.id = id ∧
      entry.snapshot.results = (results.take (place + 1)).map StepResult.copied
  explained : ∀ (place : Nat) (entry : Entered η) (step : Step) (result : StepResult),
    journal.entries[place]? = some entry → steps[place]? = some step →
    results[place]? = some result →
    step.Explained past id journal.snapshots[place]? (outputsOf steps (results.take place)) input
      entry.dispatched result

namespace Journal.Covers

variable {η : Type} {journal : Journal η} {past more : List (Turn η)} {steps : List Step}
  {id input : Value} {results : List StepResult}

theorem mono (covers : journal.Covers past steps id input results)
    (longer : ∀ turn ∈ past, turn ∈ more) : journal.Covers more steps id input results where
  counted := covers.counted
  opened := covers.opened
  saved := covers.saved
  explained place entry step result entered there present :=
    (covers.explained place entry step result entered there present).mono longer

/-- A journal of nothing but the first snapshot covers no results. -/
theorem begin (past : List (Turn η)) (steps : List Step) (id input : Value) {opening : Execution}
    (running : opening.status = .running) (named : opening.id = id)
    (unmade : opening.results = []) :
    (Journal.mk opening []).Covers past steps id input [] where
  counted := rfl
  opened := ⟨running, named, unmade⟩
  saved place entry entered := by simp at entered
  explained place entry step result entered := by simp at entered

/-- All snapshots are of one record. -/
theorem named (covers : journal.Covers past steps id input results) {record : Execution}
    (snapshot : record ∈ journal.snapshots) : record.id = id := by
  obtain rfl | later := List.mem_cons.mp snapshot
  · exact covers.opened.2.1
  · obtain ⟨entry, entered, rfl⟩ := List.mem_map.mp later
    obtain ⟨place, there⟩ := List.mem_iff_getElem?.mp entered
    exact (covers.saved place entry there).2.1

/-- One more explained result is covered once its snapshot is entered. -/
theorem add (covers : journal.Covers past steps id input results) {step : Step}
    {result : StepResult} {dispatched : Option (Turn η)} {snapshot : Execution}
    (next : steps[results.length]? = some step)
    (explained : step.Explained past id journal.snapshots.getLast?
      (outputsOf steps results) input dispatched result)
    (running : snapshot.status = .running) (named : snapshot.id = id)
    (recorded : snapshot.results = (results ++ [result]).map StepResult.copied) :
    (journal.add dispatched snapshot).Covers past steps id input (results ++ [result]) where
  counted := by simp [Journal.add, covers.counted]
  opened := covers.opened
  saved := by
    intro place entry entered
    have inside := (List.getElem?_eq_some_iff.mp entered).1
    simp only [Journal.add, List.length_append, List.length_singleton] at inside
    by_cases earlier : place < journal.entries.length
    · rw [Journal.add, List.getElem?_append_left earlier] at entered
      rw [List.take_append_of_le_length (by rw [← covers.counted]; omega)]
      exact covers.saved place entry entered
    · obtain rfl : place = journal.entries.length := by omega
      have same : (⟨dispatched, snapshot⟩ : Entered η) = entry := by
        simpa [Journal.add] using entered
      subst same
      rw [covers.counted, List.take_of_length_le (by simp)]
      exact ⟨running, named, recorded⟩
  explained := by
    intro place entry other known entered there present
    have inside := (List.getElem?_eq_some_iff.mp entered).1
    simp only [Journal.add, List.length_append, List.length_singleton] at inside
    rw [Journal.snapshots_add, List.getElem?_append_left
      (by rw [Journal.length_snapshots]; omega)]
    by_cases earlier : place < journal.entries.length
    · have shorter : place < results.length := by rw [← covers.counted]; exact earlier
      rw [Journal.add, List.getElem?_append_left earlier] at entered
      rw [List.getElem?_append_left shorter] at present
      rw [List.take_append_of_le_length (Nat.le_of_lt shorter)]
      exact covers.explained place entry other known entered there present
    · obtain rfl : place = journal.entries.length := by omega
      have same : (⟨dispatched, snapshot⟩ : Entered η) = entry := by
        simpa [Journal.add] using entered
      have last : journal.snapshots.getLast? = journal.snapshots[journal.entries.length]? := by
        rw [List.getLast?_eq_getElem?, Journal.length_snapshots]
        rfl
      rw [covers.counted] at there present ⊢
      rw [next] at there
      have same_result : result = known := by simpa using present
      cases there
      subst same same_result
      rw [List.take_left, ← covers.counted, ← last]
      exact explained

end Journal.Covers

/-! ## Along a course -/

/-- The journal of a run covers the results in its record that were saved, and the turns taken so
far did what it says. -/
structure Journal.Tells {η : Type} (journal : Journal η) (past : List (Turn η))
    (steps : List Step) (id : Value) (execution : Execution) (results : List StepResult)
    (unsaved : List (Event η)) : Prop where
  named : execution.id = id
  covers : journal.Covers past steps id execution.input results
  told : past.flatMap Turn.events = journal.events ++ unsaved

theorem Turn.mem_past {η : Type} (past : List (Turn η)) (turn : Turn η) :
    ∀ other ∈ past, other ∈ past ++ [turn] :=
  fun _ member => List.mem_append_left _ member

namespace Journal.Tells

variable {η : Type} {journal : Journal η} {past : List (Turn η)} {turn : Turn η}
  {steps : List Step} {id : Value} {execution : Execution} {results : List StepResult}
  {unsaved : List (Event η)}

/-- What one more turn did comes after what is not saved yet. -/
theorem later (tells : journal.Tells past steps id execution results unsaved) (turn : Turn η) :
    journal.Tells (past ++ [turn]) steps id execution results (unsaved ++ turn.events) where
  named := tells.named
  covers := tells.covers.mono (Turn.mem_past past turn)
  told := by simp [tells.told]

/-- The first save begins a journal. -/
theorem begin {text : String} (quiet : past.flatMap Turn.events = [])
    (running : execution.status = .running) (named : execution.id = .str text)
    (unmade : execution.results = []) (saves : turn.events = [.saved execution.copied true]) :
    (Journal.mk execution.copied []).Tells (past ++ [turn]) steps (.str text) execution
      execution.results [] where
  named := named
  covers := by
    rw [unmade]
    refine .begin _ _ _ _ running ?_ ?_
    · simp [Execution.copied, named, Value.copied]
    · simp [Execution.copied, unmade]
  told := by simp [quiet, saves, Journal.events]

/-- A save after a step makes one more entry, which has the call of the step if it made one. -/
theorem add {text : String} {step : Step} {result : StepResult} {dispatched : Option (Turn η)}
    {earlier : List StepResult}
    (tells : journal.Tells past steps (.str text) execution earlier (Turn.callsOf dispatched))
    (next : steps[earlier.length]? = some step) (made : execution.results = earlier ++ [result])
    (explained : step.Explained past (.str text) journal.snapshots.getLast?
      (outputsOf steps earlier) execution.input dispatched result)
    (running : execution.status = .running)
    (saves : turn.events = [.saved execution.copied true]) :
    (journal.add dispatched execution.copied).Tells (past ++ [turn]) steps (.str text) execution
      execution.results [] where
  named := tells.named
  covers := by
    have longer := Turn.mem_past past turn
    rw [made]
    refine (tells.covers.mono longer).add next (explained.mono longer) running ?_ ?_
    · simp [Execution.copied, tells.named, Value.copied]
    · simp [Execution.copied, made]
  told := by simp [tells.told, saves, Journal.events_add]

end Journal.Tells

namespace Engine

variable {η : Type} {steps : List Step} {id : Value}

/-- A save is one event, and the store holds what was saved. -/
theorem Saves.holds {engine left : Engine η} {execution : Execution}
    (saved : engine.Saves execution left) {text : String} (named : execution.id = .str text) :
    left.trace = engine.trace ++ [.saved execution.copied true] ∧
      left.store.Holds execution.copied := by
  obtain ⟨-, store, kept, rfl⟩ := saved.kept
  refine ⟨rfl, Store.holds_of_save ?_ kept⟩
  simp [Execution.copied, named, Value.copied]

end Engine

/-- What a turn adds to the trace is what it left behind what it found. -/
theorem Turn.events_of_trace {η : Type} {turn : Turn η} {events : List (Event η)}
    (added : turn.after.2.trace = turn.found.trace ++ events) : turn.events = events := by
  simp [Turn.events, added]

/-- The event is a save. -/
def Event.isSave {η : Type} : Event η → Bool
  | .saved _ _ => true
  | .called .. => false

namespace Step.Explained

variable {η : Type} {past : List (Turn η)} {id : Value} {before : Option Execution} {step : Step}
  {outputs input : Value} {dispatched : Option (Turn η)} {result : StepResult}

/-- A step makes one call at most, of the handler of its action on its resolved input, and then
the store held the snapshot saved before. -/
theorem calls (explained : step.Explained past id before outputs input dispatched result) :
    Turn.callsOf dispatched = [] ∨
      ∃ turn handler resolved record, dispatched = some turn ∧
        Turn.callsOf dispatched =
          [.called (some id) step.agent step.action handler resolved] ∧
        before = some record ∧ turn.found.store.Holds record := by
  cases explained with
  | settled comes => exact .inl rfl
  | refused taken stands its comes reached silent failed => exact .inl silent
  | called taken stands its comes reached event saved held ended =>
    exact .inr ⟨_, _, _, _, rfl, event, saved, held⟩

theorem saves (explained : step.Explained past id before outputs input dispatched result) :
    (Turn.callsOf dispatched).countP Event.isSave = 0 := by
  obtain silent | ⟨turn, handler, resolved, record, -, called, -⟩ := explained.calls
  · simp [silent]
  · simp [called, Event.isSave]

end Step.Explained

namespace Journal

variable {η : Type}

end Journal

/-- The snapshots of a journal have the results up to where they were saved. -/
theorem Journal.Covers.snapshot {η : Type} {journal : Journal η} {past : List (Turn η)}
    {steps : List Step} {id input : Value} {results : List StepResult}
    (covers : journal.Covers past steps id input results) {place : Nat} {record : Execution}
    (there : journal.snapshots[place]? = some record) :
    record.status = .running ∧ record.id = id ∧
      record.results = (results.map StepResult.copied).take place := by
  cases place with
  | zero =>
    have same : journal.opening = record := by simpa [Journal.snapshots] using there
    obtain ⟨running, named, unmade⟩ := covers.opened
    exact same ▸ ⟨running, named, by simpa using unmade⟩
  | succ place =>
    have entered : (journal.entries.map Entered.snapshot)[place]? = some record := by
      simpa [Journal.snapshots] using there
    rw [List.getElem?_map] at entered
    obtain ⟨entry, known, rfl⟩ := Option.map_eq_some_iff.mp entered
    obtain ⟨running, named, recorded⟩ := covers.saved place entry known
    exact ⟨running, named, by rw [recorded, List.map_take]⟩

namespace Engine

variable {η : Type}

end Engine

namespace Letters

theorem still (handler : Bool) (input : Value) (engine : Engine Bool) :
    (behave handler input engine).2 = engine := rfl

/-- Noting with a limit of more seconds than a clock can count. -/
def overlong : Step := { note with timeout := .int (Nat.pow 10 400) }

end Letters

end Stepwise
