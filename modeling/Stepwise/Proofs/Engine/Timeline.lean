import Stepwise.Proofs.Engine.History
import Stepwise.Proofs.Execution.Times
import Stepwise.Proofs.Store.Keys

/-!
# Times in order

The times of a record are taken in different places and by different runs: when it is made, when a
step begins, when its result is made, on whichever way the step ends, and when the execution comes
to its end. What a run has noted so far is a timeline that leads to the present. A turn notes
nothing but the present time, for the clock stands still until the run turns to the world, and time
passes between the turns. What a run hands to the store is a part of what it has noted, and the
store gives its times back as they are. So a run that takes the record up goes on with the timeline,
after whatever kept the runs before it from their ends.
-/

namespace Stepwise

variable {η : Type}

/-! ## What a turn notes -/

/-- The times that a run has noted so far. While a step is under way, it has begun. -/
def Run.times : Run η → List (Option Moment)
  | .loading _ => []
  | .waiting work => work.execution.timesSoFar
  | .opening work => work.execution.timesSoFar
  | .dispatching work attempt _ => work.execution.timesSoFar ++ [some attempt.started]
  | .calling work attempt _ _ => work.execution.timesSoFar ++ [some attempt.started]
  | .recording work _ _ => work.execution.timesSoFar
  | .closing work => work.execution.times
  | .finished (.ok execution) => execution.times
  | .finished (.error _) => []

/-- Of all times only the present is noted, or none. -/
def NotesAt (now : Moment) (times later : List (Option Moment)) : Prop :=
  ∃ added, later = times ++ added ∧ ∀ time ∈ added, time = some now

theorem NotesAt.nothing (now : Moment) (times : List (Option Moment)) : NotesAt now times times :=
  ⟨[], (List.append_nil times).symm, nofun⟩

theorem NotesAt.once (now : Moment) (times : List (Option Moment)) :
    NotesAt now times (times ++ [some now]) :=
  ⟨[some now], rfl, fun _ => List.mem_singleton.mp⟩

/-- What is noted goes on with a timeline. -/
theorem NotesAt.timeline {now : Moment} {times later : List (Option Moment)}
    (notes : NotesAt now times later) (timeline : IsTimeline (times ++ [some now])) :
    IsTimeline (later ++ [some now]) := by
  obtain ⟨added, rfl, present⟩ := notes
  exact timeline.noted present

/-- A result adds its times. -/
theorem Work.timesSoFar_recorded (work : Work) (outputs : Value) (result : StepResult) :
    (work.recorded outputs result).execution.timesSoFar =
      work.execution.timesSoFar ++ result.times := by
  simp [Work.recorded, Execution.timesSoFar]

namespace Engine

variable {engine : Engine η} {work : Work} {attempt : Attempt} {next : Run η}

/-- A run that goes on from a save notes that a step begins, that one is settled, or its end. -/
theorem Goes.times (goes : engine.Goes work next) :
    NotesAt engine.now work.execution.timesSoFar next.times := by
  cases goes with
  | ended ends => exact .once _ _
  | stopped left unhalted asked told => exact .once _ _
  | @begins step later outset left unhalted unasked comes =>
    cases outset with
    | settled status error =>
      refine ⟨[some engine.now, some engine.now], work.timesSoFar_recorded _ _, ?_⟩
      simp
    | sent input => exact .once _ _

/-- The result of an attempt was begun with the attempt and ends now. -/
theorem recorded_times (step : Step) {outputs : Value} {result : StepResult}
    (made : result.times = [some attempt.started, some engine.now]) :
    NotesAt engine.now (work.execution.timesSoFar ++ [some attempt.started])
      (Run.recording (η := η) (work.recorded outputs result) step result).times := by
  refine ⟨[some engine.now], ?_, fun _ => List.mem_singleton.mp⟩
  rw [Run.times, Work.timesSoFar_recorded, made, List.append_assoc]
  rfl

theorem failed_times {fault : Except Fault Fault}
    (made : engine.failed work attempt fault = .ok next) :
    NotesAt engine.now (work.execution.timesSoFar ++ [some attempt.started]) next.times := by
  obtain ⟨result, recorded, rfl⟩ := failed_ok made
  obtain ⟨f, error, -, -, rfl⟩ := Attempt.failure_ok recorded
  exact recorded_times attempt.step rfl

theorem answered_times {v : Value} (made : engine.answered work attempt v = .ok next) :
    NotesAt engine.now (work.execution.timesSoFar ++ [some attempt.started]) next.times := by
  obtain ⟨outputs, -, rfl⟩ := answered_ok made
  exact recorded_times attempt.step rfl

theorem Saves.now {left : Engine η} {execution : Execution} (saved : engine.Saves execution left) :
    left.now = engine.now := by
  obtain ⟨-, store, -, rfl⟩ := saved.kept
  rfl

theorem entering_now (engine : Engine η) (work : Work) :
    (engine.entering work).2.now = engine.now := by
  obtain same | held := engine.entering_left work
  · rw [same]
  · rw [held]

theorem entering_times (engine : Engine η) (work : Work) :
    (engine.entering work).1.times = work.execution.timesSoFar :=
  entering_holds (fun run => run.times = work.execution.timesSoFar) rfl rfl engine

end Engine

/-- A turn that advances notes nothing but the present time. -/
theorem Advances.times {found left : Engine η} {heard : Outcome} {run next : Run η}
    (advances : Advances found heard run next left) :
    NotesAt found.now run.times next.times := by
  cases advances with
  | waits held => exact .nothing _ _
  | enters free => exact .nothing _ _
  | opens saved goes =>
    rw [← saved.now]
    exact goes.times
  | calls reached => exact .nothing _ _
  | misses missed made => exact Engine.failed_times made
  | answers returned made => exact Engine.answered_times made
  | fails caused made => exact Engine.failed_times made
  | records saved meant goes =>
    obtain ⟨halted, error, rfl⟩ := Engine.settle_ok meant
    rw [← saved.now]
    exact goes.times
  | closes saved => exact .nothing _ _
  | rests result => exact .nothing _ _

namespace Turn

variable {turn : Turn η}

/-- The clock stands still during a turn. -/
theorem now_after (sound : turn.run.IsSound) : turn.after.2.now = turn.found.now := by
  cases saving : turn.run.saving? with
  | none =>
    obtain ⟨ownership, same⟩ := left_of_unsaving sound saving
    rw [same]
  | some work =>
    obtain ⟨ownership, same⟩ := left_of_saving sound saving
    obtain ⟨store, trace, left⟩ := Engine.persist_left work.execution turn.found
    rw [same, left]

/-- A sound run has a timeline that leads to the present, and keeps it. -/
theorem timeline_after (sound : turn.run.IsSound)
    (timeline : IsTimeline (turn.run.times ++ [some turn.found.now])) :
    IsTimeline (turn.after.1.times ++ [some turn.after.2.now]) := by
  rw [now_after sound]
  obtain ⟨f, faults⟩ | advances := turn.advances_or_faults sound
  · rw [faults]
    exact timeline.sublist (List.sublist_append_right _ _)
  · exact advances.times.timeline timeline

/-- After its first turn a run stands soundly, also when it was to load its record. -/
theorem isSound_after_either
    (either : (∃ claimed, turn.run = .loading claimed) ∨ turn.run.IsSound) :
    turn.after.1.IsSound := by
  obtain ⟨claimed, loading⟩ | sound := either
  · have loads := turn.after_loads loading
    generalize turn.after = place at loads
    cases loads with
    | refused alike => trivial
    | taken alike loaded running registered locked => exact Engine.entering_isSound running _
  · exact isSound_after sound

/-! ## What a turn hands to the store -/

/-- The snapshot that a turn hands to the store, whether it is kept or not. -/
def handed? (turn : Turn η) : Option Execution :=
  turn.run.saving?.map fun work => work.execution.copied

theorem handed?_of_saved? {snapshot : Execution} (saved : turn.saved? = some snapshot) :
    turn.handed? = some snapshot := by
  obtain ⟨work, left, saving, -, rfl⟩ := saves_of_saved? saved
  rw [handed?, saving]
  rfl

/-- The times of a record that is to be saved have been noted. -/
theorem handed?_times {snapshot : Execution} (handed : turn.handed? = some snapshot) :
    snapshot.timesSoFar.Sublist turn.run.times := by
  obtain ⟨work, saving, rfl⟩ := Option.map_eq_some_iff.mp handed
  rw [Execution.timesSoFar_copied]
  cases stands : turn.run with
  | opening other =>
    rw [stands] at saving
    cases saving
    exact List.Sublist.refl _
  | recording other step result =>
    rw [stands] at saving
    cases saving
    exact List.Sublist.refl _
  | closing other =>
    rw [stands] at saving
    cases saving
    exact List.sublist_append_left _ _
  | _ =>
    rw [stands] at saving
    cases saving

/-- Whatever a turn loads was handed to the store in one of the turns before it, and the store has
it. In a folder its document can be read. -/
def TakesBack (past : List (Turn η)) (turn : Turn η) : Prop :=
  ∀ claimed loaded store, turn.run = .loading claimed →
    (Store.load claimed).runOn turn.found.store = (.ok (some loaded), store) →
    ∃ earlier ∈ past, ∃ snapshot, earlier.handed? = some snapshot ∧ snapshot.id = claimed ∧
      turn.found.store.Holds snapshot ∧
      ∀ path, turn.found.store.backing = .folder path → snapshot.IsRecallable

theorem TakesBack.mono {past more : List (Turn η)} (takesBack : turn.TakesBack past)
    (known : ∀ earlier ∈ past, earlier ∈ more) : turn.TakesBack more := by
  intro claimed loaded store loading answered
  obtain ⟨earlier, member, handed⟩ := takesBack claimed loaded store loading answered
  exact ⟨earlier, known earlier member, handed⟩

/-- A run that has its record loads nothing any more. -/
theorem takesBack_of_isSound (sound : turn.run.IsSound) (past : List (Turn η)) :
    turn.TakesBack past := by
  intro claimed loaded store loading
  rw [loading] at sound
  exact sound.elim

end Turn

/-! ## What the store gives back -/

/-- What is loaded from a folder is read from the document. -/
theorem Folder.load_ok {files : Files} {path document : Path} {id : Value} {loaded : Execution}
    (named : documentPath path id = .ok document)
    (answered : load files path id = .ok (some loaded)) :
    readDocument files document = .ok loaded := by
  unfold load at answered
  rw [named] at answered
  obtain ⟨_, same, answered⟩ := Result.bind_ok answered
  obtain rfl := Except.ok.inj same
  obtain ⟨present, -, answered⟩ := Result.bind_ok answered
  split at answered
  · split at answered
    · rename_i read
      cases answered
      exact read
    · split at answered
      · obtain ⟨_, -, answered⟩ := Result.bind_ok answered
        obtain ⟨_, -, answered⟩ := Result.bind_ok answered
        cases answered
      · cases answered
  · cases answered

namespace Store

variable {store left : Store} {record loaded : Execution}

/-- What is loaded of a record that a store holds is a copy of it, or what is recalled of it. -/
theorem load_of_holds (holds : store.Holds record)
    (recallable : ∀ path, store.backing = .folder path → record.IsRecallable)
    (answered : (load record.id).runOn store = (.ok (some loaded), left)) :
    loaded = record.copied.copied ∨ loaded = record.recalled := by
  cases backing : store.backing with
  | memory kept =>
    have listed : kept.find? record.id = some record.copied := by
      simpa [Holds, backing] using holds
    have given := load_memory backing answered
    rw [listed] at given
    exact .inl (Option.some.inj given)
  | folder path =>
    obtain ⟨document, content, chars, named, made, formed, read⟩ :
        ∃ document content chars, Folder.documentPath path record.id = .ok document ∧
          record.document = .ok content ∧ Json.document content = .ok chars ∧
          store.files.read document = .ok (Utf8.encode chars) := by
      simpa [Holds, backing] using holds
    have unplanned : store.plan .load (store.made .load + 1) = none := by
      cases planned : store.plan .load (store.made .load + 1) with
      | none => rfl
      | some f =>
        rw [load, Effect.runOn_bind, enter_of_planned planned] at answered
        cases answered
    rw [load_inFolder backing unplanned] at answered
    have given := Folder.load_ok named (Prod.mk.inj answered).1
    rw [Folder.readDocument_eq read] at given
    have written : Folder.written record = .ok (Utf8.encode chars) := by
      simp only [Folder.written, made, formed, bind, Except.bind]
      rfl
    have recalled := Folder.executionOf_recalled written (recallable path backing)
    exact .inr (Except.ok.inj (given.symm.trans recalled))

/-- Either has the times of the record. -/
theorem timesSoFar_of_load (holds : store.Holds record)
    (recallable : ∀ path, store.backing = .folder path → record.IsRecallable)
    (timeline : IsTimeline record.timesSoFar)
    (answered : (load record.id).runOn store = (.ok (some loaded), left)) :
    loaded.timesSoFar = record.timesSoFar := by
  obtain rfl | rfl := load_of_holds holds recallable answered
  · rw [Execution.timesSoFar_copied, Execution.timesSoFar_copied]
  · exact Execution.timesSoFar_recalled_of_isTimeline timeline

end Store

/-! ## Along all runs -/

/-- The clock shows universal time, and it has not gone back. -/
structure Engine.KeepsTime (left found : Engine η) : Prop where
  universal : found.now.isUniversal = true
  forward : left.now.instant ≤ found.now.instant

/-- The turns of all runs on one execution: of the one that starts it, and of those that take it up
again. Any of them may break off anywhere, and anything may happen in between, as long as the clock
does not go back and nothing is taken up but what was handed to the store. -/
inductive Lifespan : List (Turn η) → Run η × Engine η → Prop where
  | executed {engine : Engine η} {workflowId input : Value} {turns : List (Turn η)}
    {place : Run η × Engine η} (universal : engine.now.isUniversal = true)
    (course : Course (fun left turn => left.KeepsTime turn.found)
      (engine.start (Engine.startExecution workflowId input)) turns place) :
    Lifespan turns place
  | resumed {past turns : List (Turn η)} {place final : Run η × Engine η} {engine : Engine η}
    {id : Value} (before : Lifespan past place) (between : place.2.KeepsTime engine)
    (course : Course (fun left turn => left.KeepsTime turn.found ∧ turn.TakesBack past)
      (engine.start (Engine.startResumption id)) turns final) :
    Lifespan (past ++ turns) final

/-- What a run has noted is a timeline that leads to the present, and so is what was handed to the
store before. -/
structure Turn.InTime (past : List (Turn η)) (run : Run η) (left : Engine η) : Prop where
  sound : (∃ claimed, run = .loading claimed) ∨ run.IsSound
  timeline : IsTimeline (run.times ++ [some left.now])
  handed : ∀ turn ∈ past, ∀ snapshot, turn.handed? = some snapshot →
    IsTimeline (snapshot.timesSoFar ++ [some left.now])

namespace Turn

variable {turn : Turn η} {left found : Engine η} {past : List (Turn η)} {run : Run η}

/-- Time passes, and everything stays in time. -/
theorem InTime.later (inTime : InTime past run left) (keeps : left.KeepsTime found) :
    InTime past run found where
  sound := inTime.sound
  timeline := inTime.timeline.put_off keeps.universal keeps.forward
  handed other member snapshot handed :=
    (inTime.handed other member snapshot handed).put_off keeps.universal keeps.forward

/-- A turn that loads goes on from the times of a record that was handed to the store. -/
theorem timeline_of_loading {claimed : Value} (loading : turn.run = .loading claimed)
    (inTime : InTime past turn.run turn.found) (takesBack : turn.TakesBack past) :
    turn.after.2.now = turn.found.now ∧
      IsTimeline (turn.after.1.times ++ [some turn.found.now]) := by
  have loads := turn.after_loads loading
  generalize turn.after = place at loads
  cases loads with
  | refused alike => exact ⟨rfl, inTime.timeline.sublist (List.sublist_append_right _ _)⟩
  | @taken record store workflow lock ownership alike loaded running registered locked =>
    obtain ⟨other, member, snapshot, handed, rfl, holds, recallable⟩ :=
      takesBack claimed record store loading loaded
    have timeline := inTime.handed other member snapshot handed
    have noted := timeline.sublist (List.sublist_append_left _ _)
    have same := Store.timesSoFar_of_load holds recallable noted loaded
    refine ⟨Engine.entering_now _ _, ?_⟩
    rw [Engine.entering_times]
    change IsTimeline (record.timesSoFar ++ _)
    rwa [same]

/-- Every turn keeps everything in time. -/
theorem inTime_after (inTime : InTime past turn.run left) (keeps : left.KeepsTime turn.found)
    (takesBack : turn.TakesBack past) :
    InTime (past ++ [turn]) turn.after.1 turn.after.2 := by
  have found := inTime.later keeps
  obtain ⟨still, timeline⟩ : turn.after.2.now = turn.found.now ∧
      IsTimeline (turn.after.1.times ++ [some turn.found.now]) := by
    obtain ⟨claimed, loading⟩ | sound := inTime.sound
    · exact timeline_of_loading loading found takesBack
    · have still := now_after sound
      exact ⟨still, still ▸ timeline_after sound found.timeline⟩
  refine ⟨.inr (isSound_after_either inTime.sound), still ▸ timeline, ?_⟩
  rw [still]
  refine List.forall_mem_append.mpr ⟨found.handed, ?_⟩
  rintro other member snapshot handed
  obtain rfl := List.mem_singleton.mp member
  exact found.timeline.sublist ((handed?_times handed).append_right _)

end Turn

namespace Engine

variable {engine : Engine η}

/-- A new record notes when it is made. -/
theorem startExecution_inTime (workflowId input : Value)
    (universal : engine.now.isUniversal = true) :
    let started := engine.start (startExecution workflowId input)
    started.1.IsSound ∧ Turn.InTime [] started.1 started.2 := by
  intro started
  have present : IsTimeline [some engine.now] := .single universal
  obtain ⟨f, _, refused⟩ | ⟨-, -, ⟨f, refused⟩ | begun⟩ :=
    startExecution_cases workflowId input engine
  · rw [show started = _ from refused]
    exact ⟨trivial, .inr trivial, present, List.forall_mem_nil _⟩
  · rw [show started = _ from refused]
    exact ⟨trivial, .inr trivial, present, List.forall_mem_nil _⟩
  · obtain ⟨workflow, given, lock, ownership, -, -, -, begun⟩ := begun
    rw [show started = _ from begun]
    refine ⟨entering_isSound rfl _, .inr (entering_isSound rfl _), ?_, List.forall_mem_nil _⟩
    rw [entering_times, entering_now]
    have leads : IsTimeline ([] ++ [some engine.now]) := present
    exact leads.goes_on universal (Int.le_refl _)

/-- A run that is to load a record has noted nothing. -/
theorem startResumption_inTime {past : List (Turn η)} {run : Run η} (id : Value)
    (inTime : Turn.InTime past run engine) :
    let started := engine.start (startResumption id)
    Turn.InTime past started.1 started.2 := by
  intro started
  have present := inTime.timeline.sublist (List.sublist_append_right _ _)
  obtain ⟨f, refused⟩ | ⟨-, -, loading⟩ := startResumption_cases id engine
  · rw [show started = _ from refused]
    exact ⟨.inr trivial, present, inTime.handed⟩
  · rw [show started = _ from loading]
    exact ⟨.inl ⟨id, rfl⟩, present, inTime.handed⟩

end Engine

namespace Lifespan

variable {past : List (Turn η)} {place : Run η × Engine η}

theorem inTime (lifespan : Lifespan past place) : Turn.InTime past place.1 place.2 := by
  induction lifespan with
  | @executed engine workflowId input turns place universal course =>
    have both := course.preserves (fun past run left => run.IsSound ∧ Turn.InTime past run left)
      ?_ [] (engine.startExecution_inTime workflowId input universal)
    · exact both.2
    · rintro past left turn ⟨sound, inTime⟩ keeps
      exact ⟨Turn.isSound_after sound,
        Turn.inTime_after inTime keeps (Turn.takesBack_of_isSound sound past)⟩
  | @resumed past turns place final engine id before between course inductionHypothesis =>
    have begun := engine.startResumption_inTime id (inductionHypothesis.later between)
    refine course.preserves (fun more run left => Turn.InTime (past ++ more) run left) ?_ [] ?_
    · rintro more left turn inTime ⟨keeps, takesBack⟩
      rw [← List.append_assoc]
      exact Turn.inTime_after inTime keeps (takesBack.mono fun _ => List.mem_append_left more)
    · rwa [List.append_nil]

end Lifespan

/-! ## In memory -/

/-- In memory a turn takes back the record that was kept last, if nobody else writes it. -/
theorem Turn.takesBack_of_chronicles {id : String} {turn : Turn η} {left : Engine η}
    {past : List (Turn η)} (chronicles : Chronicles id past turn.run left)
    (secluded : Secluded id left turn) (inMemory : turn.found.store.IsInMemory) :
    turn.TakesBack past := by
  intro claimed loaded store loading answered
  obtain ⟨table, backing⟩ := inMemory
  obtain ⟨chronicle, -, about, -⟩ := chronicles
  have found := chronicle.spared secluded.between
  obtain rfl : claimed = .str id := by
    obtain same | sound := about.sound
    · exact Run.loading.inj (loading.symm.trans same)
    · rw [loading] at sound
      exact sound.elim
  cases last : (kept past).getLast? with
  | none =>
    have lacks := found.lacked (List.getLast?_eq_none_iff.mp last)
    cases (Store.readsBack_of_memory backing).lacked _ _ _ lacks answered
  | some record =>
    have member := List.mem_of_getLast? last
    obtain ⟨earlier, among, saved⟩ := List.mem_filterMap.mp member
    refine ⟨earlier, among, record, handed?_of_saved? saved, found.named record member,
      found.held record last, fun path folder => ?_⟩
    rw [backing] at folder
    cases folder

/-- So a run in memory whose record nobody else writes takes back what was kept before. -/
theorem Course.takesBack {id : String} {past turns : List (Turn η)} {place final : Run η × Engine η}
    (course : Course (fun left turn => left.KeepsTime turn.found ∧ Secluded id left turn ∧
      turn.found.store.IsInMemory) place turns final)
    (chronicles : Turn.Chronicles id past place.1 place.2) :
    Course (fun left turn => left.KeepsTime turn.found ∧ turn.TakesBack past) place turns
      final := by
  cases course with
  | ended => exact .ended _
  | @turned left turn turns final comes rest =>
    obtain ⟨keeps, secluded, inMemory⟩ := comes
    have sound : turn.after.1.IsSound :=
      Turn.isSound_after_either (chronicles.about.sound.imp_left fun loading => ⟨_, loading⟩)
    refine .turned ⟨keeps, Turn.takesBack_of_chronicles chronicles secluded inMemory⟩ ?_
    refine (rest.holding (fun run _ => run.IsSound) ?_ sound).mono ?_
    · exact fun _ _ sound _ => Turn.isSound_after sound
    · exact fun _ _ _ ⟨sound, keeps, _⟩ => ⟨keeps, Turn.takesBack_of_isSound sound past⟩

/-- A history in memory, by a clock that does not go back, goes on as a lifespan does. -/
theorem Lifespan.resume {id : String} {past turns more : List (Turn η)}
    {place final : Run η × Engine η} {engine : Engine η} (history : History id past turns place)
    (lifespan : Lifespan (past ++ turns) place)
    (keeps : place.2.KeepsTime engine) (between : place.2.store.Keeps (.str id) engine.store)
    (course : Course (fun left turn => left.KeepsTime turn.found ∧ Secluded id left turn ∧
      turn.found.store.IsInMemory) (engine.start (Engine.startResumption (.str id))) more final) :
    History id (past ++ turns) more final ∧ Lifespan (past ++ turns ++ more) final :=
  ⟨.resumed history between (course.mono fun _ _ _ comes => comes.2.1),
    .resumed lifespan keeps
      (course.takesBack (Engine.startResumption_chronicles history.chronicles between))⟩

namespace Letters

/-- An hour of a day, by the clock. -/
def hour (number : Nat) : Moment := { Moment.midnight ⟨2024, 1, 1⟩ with
  hour := number
  offset := some 0 }

end Letters

end Stepwise
