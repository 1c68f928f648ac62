import Stepwise.Proofs.Engine.Snapshot

/-!
# The chronicle of an execution

The records that were kept of one execution, in the order in which they were saved, are its
chronicle. It only moves forward: every record but the last is running and has the first results of
all later ones, and the store holds the last. Host objects are copied with every save and load, so
results are compared by their originals.

A run takes part in a chronicle. It goes on from the record kept last, it is about to save one that
is that record with one more result or with the last status, or it is over. Every turn carries this
on, as long as nobody else writes the record, saves that fail leave it as it was, and loads give
back what is held. Whatever else happens to the engine meanwhile does not matter: handlers may do
what they like, and workflows may be replaced.
-/

namespace Stepwise

variable {η : Type}

/-- A running record that says nothing of an end and has these results. -/
structure Execution.LeadsTo (record : Execution) (results : List StepResult) : Prop where
  running : record.status = .running
  plain : record.error = .null
  recorded : record.results.map StepResult.original = results.map StepResult.original

/-- The records kept of one execution, and what the store has of it. -/
structure Chronicle (id : String) (kept : List Execution) (store : Store) : Prop where
  forward : kept.Pairwise fun earlier later => earlier.status = .running ∧
    earlier.results.map StepResult.original <+: later.results.map StepResult.original
  ends : ∀ record ∈ kept,
    (record.status = .running ∧ record.error = .null) ∨ record.isTerminal = true
  named : ∀ record ∈ kept, record.id = .str id
  held : ∀ record, kept.getLast? = some record → store.Holds record
  lacked : kept = [] → store.Lacks (.str id)

namespace Chronicle

variable {id : String} {kept : List Execution} {store left : Store} {record last : Execution}
  {results : List StepResult}

/-- What is left alone is still in the store. -/
theorem spared (chronicle : Chronicle id kept store) (keeps : store.Keeps (.str id) left) :
    Chronicle id kept left where
  forward := chronicle.forward
  ends := chronicle.ends
  named := chronicle.named
  held record last :=
    keeps.held record (chronicle.named record (List.mem_of_getLast? last))
      (chronicle.held record last)
  lacked none := keeps.lacked (chronicle.lacked none)

/-- All records are running and have some of the first results when the last one leads to them. -/
theorem leads (chronicle : Chronicle id kept store) (ends : kept.getLast? = some last)
    (leads : last.LeadsTo results) (member : record ∈ kept) :
    record.status = .running ∧
      record.results.map StepResult.original <+: results.map StepResult.original := by
  obtain ⟨earlier, rfl⟩ := List.getLast?_eq_some_iff.mp ends
  obtain before | same := List.mem_append.mp member
  · have ahead := (List.pairwise_append.mp chronicle.forward).2.2 record before last
      (List.mem_singleton_self last)
    exact ⟨ahead.1, leads.recorded ▸ ahead.2⟩
  · obtain rfl := List.mem_singleton.mp same
    exact ⟨leads.running, leads.recorded ▸ List.prefix_refl _⟩

/-- A record that has the results of the last one, and may be more, is kept after it. -/
theorem add {snapshot : Execution} (chronicle : Chronicle id kept store)
    (leads : ∀ record, kept.getLast? = some record → record.LeadsTo results)
    (longer : results.map StepResult.original <+: snapshot.results.map StepResult.original)
    (ends : (snapshot.status = .running ∧ snapshot.error = .null) ∨ snapshot.isTerminal = true)
    (named : snapshot.id = .str id) (held : left.Holds snapshot) :
    Chronicle id (kept ++ [snapshot]) left where
  forward := by
    refine List.pairwise_append.mpr ⟨chronicle.forward, List.pairwise_singleton _ _, ?_⟩
    intro record member new same
    obtain rfl := List.mem_singleton.mp same
    have some := List.getLast?_eq_some_getLast (List.ne_nil_of_mem member)
    obtain ⟨running, first⟩ := chronicle.leads some (leads _ some) member
    exact ⟨running, first.trans longer⟩
  ends := by
    intro record member
    obtain earlier | same := List.mem_append.mp member
    · exact chronicle.ends record earlier
    · exact List.mem_singleton.mp same ▸ ends
  named := by
    intro record member
    obtain earlier | same := List.mem_append.mp member
    · exact chronicle.named record earlier
    · exact List.mem_singleton.mp same ▸ named
  held := by
    intro record last
    rw [List.getLast?_concat, Option.some.injEq] at last
    exact last ▸ held
  lacked none := absurd none (by simp)

/-- A terminal record is the last one. -/
theorem last_of_terminal (chronicle : Chronicle id kept store) (member : record ∈ kept)
    (terminal : record.isTerminal = true) : kept.getLast? = some record := by
  obtain ⟨earlier, later, rfl⟩ := List.append_of_mem member
  cases later with
  | nil => exact List.getLast?_concat
  | cons next rest =>
    have ahead := (List.pairwise_append.mp chronicle.forward).2.1
    have running := ((List.pairwise_cons.mp ahead).1 next List.mem_cons_self).1
    rw [Execution.isTerminal, running] at terminal
    cases terminal

end Chronicle

/-- How a run stands to the records kept so far. -/
def Run.Chronicled (kept : List Execution) : Run η → Prop
  | .loading _ => True
  | .waiting work =>
    work.execution.error = .null ∧
      ∀ record, kept.getLast? = some record → record.LeadsTo work.execution.results
  | .opening work =>
    work.execution.error = .null ∧
      ∀ record, kept.getLast? = some record → record.LeadsTo work.execution.results
  | .dispatching work _ _ =>
    work.execution.error = .null ∧
      ∃ record, kept.getLast? = some record ∧ record.LeadsTo work.execution.results
  | .calling work _ _ _ =>
    work.execution.error = .null ∧
      ∃ record, kept.getLast? = some record ∧ record.LeadsTo work.execution.results
  | .recording work _ result =>
    work.execution.error = .null ∧
      ∃ record earlier, kept.getLast? = some record ∧ record.LeadsTo earlier ∧
        work.execution.results = earlier ++ [result]
  | .closing work =>
    ∃ record, kept.getLast? = some record ∧ record.LeadsTo work.execution.results
  | .finished (.ok execution) =>
    kept.getLast? = some execution.copied ∧ execution.isTerminal = true
  | .finished (.error _) => True

/-- The run is one on the execution of an id. -/
structure Run.IsAbout (id : String) (run : Run η) : Prop where
  sound : run = .loading (.str id) ∨ run.IsSound
  named : ∀ work, run.work? = some work → work.execution.id = .str id ∧ work.IsPlaced

/-- Nobody but the run writes the record of its execution: between two turns the record stays what
it is, a save that fails leaves it, and a load gives it back. -/
structure Secluded (id : String) (left : Engine η) (turn : Turn η) : Prop where
  between : left.store.Keeps (.str id) turn.found.store
  unsaved : ∀ work f reached, turn.run.saving? = some work →
    (Engine.persist work.execution).runOn turn.found = (.error f, reached) →
    turn.found.store.Keeps (.str id) reached.store
  readsBack : ∀ claimed, turn.run = .loading claimed → turn.found.store.ReadsBack

theorem Run.isAbout_fault (id : String) (f : Fault) :
    (Run.finished (η := η) (.error f)).IsAbout id :=
  ⟨.inr trivial, nofun⟩

theorem Advances.isAbout {id : String} {found left : Engine η} {heard : Outcome}
    {run next : Run η} (advances : Advances found heard run next left) (sound : run.IsSound)
    (about : run.IsAbout id) : next.IsAbout id := by
  refine ⟨.inr (advances.sound sound), ?_⟩
  intro later comes
  obtain ⟨work, stands, continues, keeps⟩ := advances.work_before sound comes
  obtain ⟨named, placed⟩ := about.named work stands
  exact ⟨continues.named.trans named, keeps placed⟩

namespace Engine

variable {engine : Engine η} {work settled : Work} {next : Run η} {kept : List Execution}
  {record : Execution}

/-- What a result means either is nothing, or it halts the run. -/
theorem settle_cases {step : Step} {result : StepResult}
    (meant : settle work step result = .ok settled) :
    settled = work ∨ ∃ error id message, result.status = .failed ∧ result.error = some error ∧
      step.stopsOnFailure = true ∧ step.id.text = .ok id ∧ error.message.text = .ok message ∧
      settled = { work with
        halted := true
        execution := { work.execution with
          error := .str s!"Step '{id}' failed: {message}" } } := by
  unfold settle at meant
  split at meant
  · rename_i error failed stated
    obtain ⟨id, told, meant⟩ := Result.bind_ok meant
    obtain ⟨message, stated', meant⟩ := Result.bind_ok meant
    split at meant
    · rename_i stops
      cases meant
      exact .inr ⟨error, id, message, failed, stated, stops, told, stated', rfl⟩
    · cases meant
      exact .inl rfl
  · cases meant
    exact .inl rfl

/-- A run that goes on from a save goes on from the record kept last. -/
theorem Goes.chronicled (goes : engine.Goes work next) (last : kept.getLast? = some record)
    (leads : record.LeadsTo work.execution.results)
    (plain : work.halted = false → work.execution.error = .null) : next.Chronicled kept := by
  cases goes with
  | ended ends => exact ⟨record, last, leads⟩
  | stopped left unhalted asked told => exact ⟨record, last, leads⟩
  | @begins step later outset left unhalted unasked comes =>
    cases outset with
    | sent input => exact ⟨plain unhalted, record, last, leads⟩
    | settled status error => exact ⟨plain unhalted, record, _, last, leads, rfl⟩

theorem failed_chronicled {attempt : Attempt} {fault : Except Fault Fault}
    (made : engine.failed work attempt fault = .ok next) (plain : work.execution.error = .null)
    (last : kept.getLast? = some record) (leads : record.LeadsTo work.execution.results) :
    next.Chronicled kept := by
  obtain ⟨result, -, rfl⟩ := failed_ok made
  exact ⟨plain, record, _, last, leads, rfl⟩

theorem answered_chronicled {attempt : Attempt} {v : Value}
    (made : engine.answered work attempt v = .ok next) (plain : work.execution.error = .null)
    (last : kept.getLast? = some record) (leads : record.LeadsTo work.execution.results) :
    next.Chronicled kept := by
  obtain ⟨outputs, -, rfl⟩ := answered_ok made
  exact ⟨plain, record, _, last, leads, rfl⟩

end Engine

/-- The copy of a running record leads to its results. -/
theorem Execution.leadsTo_copied {execution : Execution} (running : execution.status = .running)
    (plain : execution.error = .null) : execution.copied.LeadsTo execution.results where
  running := running
  plain := by simp [Execution.copied, plain, Value.copied]
  recorded := results_of_original execution.original_copied

/-- A run that is about to save a record has more results than the records kept, or as many. -/
theorem Run.Chronicled.adds {run : Run η} {kept : List Execution} {work : Work}
    (stands : run.Chronicled kept) (sound : run.IsSound) (saving : run.saving? = some work) :
    ∃ results : List StepResult,
      (∀ record, kept.getLast? = some record → record.LeadsTo results) ∧
      results.map StepResult.original <+: work.execution.results.map StepResult.original ∧
      ((work.execution.status = .running ∧ work.execution.error = .null) ∨
        work.execution.isTerminal = true) := by
  cases run with
  | opening work =>
    cases saving
    exact ⟨_, stands.2, List.prefix_refl _, .inl ⟨sound, stands.1⟩⟩
  | recording work step result =>
    cases saving
    obtain ⟨plain, last, earlier, there, leads, more⟩ := stands
    refine ⟨earlier, ?_, ?_, .inl ⟨sound, plain⟩⟩
    · intro record also
      rwa [← Option.some.inj (there.symm.trans also)]
    · rw [more, List.map_append]
      exact List.prefix_append _ _
  | closing work =>
    cases saving
    obtain ⟨last, there, leads⟩ := stands
    refine ⟨_, ?_, List.prefix_refl _, .inr sound⟩
    intro record also
    rwa [← Option.some.inj (there.symm.trans also)]
  | _ => cases saving

/-- While a run has work, the record kept last leads on. -/
theorem Run.Chronicled.leads {run : Run η} {kept : List Execution} {work : Work}
    {last : Execution} (stands : run.Chronicled kept) (present : run.work? = some work)
    (ends : kept.getLast? = some last) : ∃ results, last.LeadsTo results := by
  have of_last {record : Execution} {results : List StepResult}
      (there : kept.getLast? = some record) (leads : record.LeadsTo results) :
      ∃ results, last.LeadsTo results := by
    obtain rfl := Option.some.inj (there.symm.trans ends)
    exact ⟨results, leads⟩
  cases run with
  | loading claimed => cases present
  | waiting work => exact ⟨_, stands.2 last ends⟩
  | opening work => exact ⟨_, stands.2 last ends⟩
  | dispatching work attempt input =>
    obtain ⟨-, record, there, leads⟩ := stands
    exact of_last there leads
  | calling work attempt handler input =>
    obtain ⟨-, record, there, leads⟩ := stands
    exact of_last there leads
  | recording work step result =>
    obtain ⟨-, record, earlier, there, leads, -⟩ := stands
    exact of_last there leads
  | closing work =>
    obtain ⟨record, there, leads⟩ := stands
    exact of_last there leads
  | finished result => cases present

/-- A run that has saved its record goes on from it. -/
theorem Advances.chronicled_of_saving {found left : Engine η} {heard : Outcome} {run next : Run η}
    {kept more : List Execution} {work : Work} (advances : Advances found heard run next left)
    (sound : run.IsSound) (stands : run.Chronicled kept) (saving : run.saving? = some work)
    (last : more.getLast? = some work.execution.copied) : next.Chronicled more := by
  cases advances with
  | opens saved goes =>
    cases saving
    exact goes.chronicled last (Execution.leadsTo_copied sound stands.1) fun _ => stands.1
  | @records work settled step result next left saved meant goes =>
    cases saving
    have leads := Execution.leadsTo_copied sound stands.1
    obtain rfl | ⟨_, _, _, -, -, -, -, -, rfl⟩ := Engine.settle_cases meant
    · exact goes.chronicled last leads fun _ => stands.1
    · exact goes.chronicled last leads nofun
  | closes saved =>
    cases saving
    exact ⟨last, sound⟩
  | _ => cases saving

/-- A run that has nothing to save goes on from the record it began with. -/
theorem Advances.chronicled_of_unsaving {found left : Engine η} {heard : Outcome}
    {run next : Run η} {kept : List Execution} (advances : Advances found heard run next left)
    (stands : run.Chronicled kept) (unsaving : run.saving? = none) : next.Chronicled kept := by
  cases advances with
  | waits held => exact stands
  | enters free => exact stands
  | calls reached => exact stands
  | misses missed made =>
    obtain ⟨plain, record, last, leads⟩ := stands
    exact Engine.failed_chronicled made plain last leads
  | answers returned made =>
    obtain ⟨plain, record, last, leads⟩ := stands
    exact Engine.answered_chronicled made plain last leads
  | fails caused made =>
    obtain ⟨plain, record, last, leads⟩ := stands
    exact Engine.failed_chronicled made plain last leads
  | rests result => exact stands
  | _ => cases unsaving

/-- A record that a running record was read from leads to its results. -/
theorem Execution.leadsTo_of_original {record loaded : Execution}
    (same : loaded.original = record.original) (running : loaded.status = .running)
    (ends : (record.status = .running ∧ record.error = .null) ∨ record.isTerminal = true) :
    record.LeadsTo loaded.results ∧ loaded.error = .null := by
  have status := congrArg Execution.status same
  change loaded.status = record.status at status
  obtain ⟨still, plain⟩ | terminal := ends
  · have told : loaded.error.original = record.error.original := congrArg Execution.error same
    refine ⟨⟨still, plain, (results_of_original same).symm⟩, Value.eq_null_of_original ?_⟩
    rw [told, plain]
    simp [Value.original, Value.relabel]
  · rw [isTerminal, ← status, running] at terminal
    cases terminal

/-- A run that has come to its lock stands to the records as it does before its first save. -/
theorem Engine.entering_chronicled {engine : Engine η} {work : Work} {kept : List Execution}
    (stands : (Run.opening (η := η) work).Chronicled kept) :
    (engine.entering work).1.Chronicled kept :=
  entering_holds (Run.Chronicled kept) stands stands engine

theorem Engine.entering_isAbout {engine : Engine η} {work : Work} {id : String}
    (running : work.execution.status = .running) (named : work.execution.id = .str id)
    (placed : work.IsPlaced) : (engine.entering work).1.IsAbout id := by
  refine ⟨.inr (entering_isSound running engine), ?_⟩
  rw [entering_work?]
  rintro _ ⟨⟩
  exact ⟨named, placed⟩

namespace Turn

open Engine

variable {turn : Turn η} {id : String} {left : Engine η} {kept : List Execution}

/-- A turn that saves adds its snapshot to the chronicle, if the save is made, and goes on from
it. -/
theorem chronicles_of_saving {work : Work} (secluded : Secluded id left turn)
    (sound : turn.run.IsSound) (about : turn.run.IsAbout id)
    (chronicle : Chronicle id kept turn.found.store) (stands : turn.run.Chronicled kept)
    (saving : turn.run.saving? = some work) :
    Chronicle id (kept ++ turn.saved?.toList) turn.after.2.store ∧
      turn.after.1.Chronicled (kept ++ turn.saved?.toList) := by
  rcases came : (persist work.execution).runOn turn.found with ⟨f | _, reached⟩
  · have keeps := secluded.unsaved work f reached saving came
    obtain ⟨ownership, same⟩ := reached.leave_eq turn.run
    rw [saved?_of_unsaved saving came, Option.toList_none, List.append_nil,
      after_of_unsaved sound saving came, same]
    exact ⟨chronicle.spared keeps, trivial⟩
  · have saved : turn.found.Saves work.execution reached := came
    obtain ⟨named, -⟩ := about.named work (Run.work?_of_saving saving)
    obtain ⟨-, holds⟩ := holds_of_saves sound saving named saved
    obtain ⟨results, leads, longer, ends⟩ := stands.adds sound saving
    rw [saved?_of_saves saving saved, Option.toList_some]
    refine ⟨?_, ?_⟩
    · refine chronicle.add leads ?_ ?_ ?_ holds
      · rwa [Execution.results_of_original work.execution.original_copied]
      · obtain ⟨running, plain⟩ | terminal := ends
        · exact .inl ⟨running, by simp [Execution.copied, plain, Value.copied]⟩
        · exact .inr terminal
      · simp [Execution.copied, named, Value.copied]
    · obtain ⟨f, faults⟩ | advances := turn.advances_or_faults sound
      · rw [faults]
        trivial
      · exact advances.chronicled_of_saving sound stands saving List.getLast?_concat

/-- A turn that saves nothing leaves the chronicle as it is. -/
theorem chronicles_of_unsaving (sound : turn.run.IsSound)
    (chronicle : Chronicle id kept turn.found.store) (stands : turn.run.Chronicled kept)
    (unsaving : turn.run.saving? = none) :
    Chronicle id kept turn.after.2.store ∧ turn.after.1.Chronicled kept := by
  obtain ⟨ownership, same⟩ := left_of_unsaving sound unsaving
  refine ⟨by rw [same]; exact chronicle, ?_⟩
  obtain ⟨f, faults⟩ | advances := turn.advances_or_faults sound
  · rw [faults]
    trivial
  · exact advances.chronicled_of_unsaving stands unsaving

/-- What is loaded is the record kept last, up to copying. -/
theorem chronicles_of_loading (secluded : Secluded id left turn)
    (chronicle : Chronicle id kept turn.found.store) (loading : turn.run = .loading (.str id)) :
    Chronicle id kept turn.after.2.store ∧ turn.after.1.Chronicled kept ∧
      turn.after.1.IsAbout id := by
  refine ⟨chronicle.spared (left_of_loading loading _).2, ?_⟩
  have readsBack := secluded.readsBack _ loading
  have loads := turn.after_loads loading
  generalize turn.after = place at loads
  cases loads with
  | refused alike => exact ⟨trivial, Run.isAbout_fault id _⟩
  | @taken loaded store workflow lock ownership alike answered running registered locked =>
    cases ends : kept.getLast? with
    | none =>
      have lacks := chronicle.lacked (List.getLast?_eq_none_iff.mp ends)
      cases readsBack.lacked _ _ _ lacks answered
    | some last =>
      have member := List.mem_of_getLast? ends
      have holds := chronicle.held last ends
      have named := chronicle.named last member
      obtain ⟨_, given, same⟩ := readsBack.held last _ _ holds (by rw [named]; exact answered)
      cases given
      obtain ⟨leads, plain⟩ :=
        Execution.leadsTo_of_original same running (chronicle.ends last member)
      have about : loaded.id.original = .str id := by
        have kin := congrArg Execution.id same
        change loaded.id.original = last.id.original at kin
        rw [kin, named, Value.original_str]
      refine ⟨entering_chronicled ⟨plain, ?_⟩,
        entering_isAbout running (Value.eq_str_of_original about) rfl⟩
      rintro record there
      rwa [← Option.some.inj (ends.symm.trans there)]

/-- Every turn of a run carries on the chronicle of its execution. -/
theorem chronicles (secluded : Secluded id left turn) (about : turn.run.IsAbout id)
    (chronicle : Chronicle id kept left.store) (stands : turn.run.Chronicled kept) :
    Chronicle id (kept ++ turn.saved?.toList) turn.after.2.store ∧
      turn.after.1.Chronicled (kept ++ turn.saved?.toList) ∧ turn.after.1.IsAbout id := by
  have found := chronicle.spared secluded.between
  obtain loading | sound := about.sound
  · have unsaved : turn.saved? = none := saved?_of_unsaving (by rw [loading]; rfl)
    rw [unsaved, Option.toList_none, List.append_nil]
    exact chronicles_of_loading secluded found loading
  · have next : turn.after.1.IsAbout id := by
      obtain ⟨f, faults⟩ | advances := turn.advances_or_faults sound
      · rw [faults]
        exact Run.isAbout_fault id f
      · exact advances.isAbout sound about
    cases saving : turn.run.saving? with
    | none =>
      rw [saved?_of_unsaving saving, Option.toList_none, List.append_nil]
      obtain ⟨also, standing⟩ := chronicles_of_unsaving sound found stands saving
      exact ⟨also, standing, next⟩
    | some work =>
      obtain ⟨also, standing⟩ := chronicles_of_saving secluded sound about found stands saving
      exact ⟨also, standing, next⟩

end Turn

end Stepwise
