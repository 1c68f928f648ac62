import Stepwise.Proofs.Engine.Abort
import Stepwise.Proofs.Store.Cleanup
import Stepwise.Proofs.Time.Calendar

/-!
# Cleanups are exact

A cleanup removes the executions that are terminal and finished earlier than the retention allows,
and counts them; all others are left as they were, and there is nothing to remove right after it.
When a deletion fails, so does the cleanup, and nothing is removed that was not due. But there must
be a moment so long ago: a retention that leads out of the calendar is refused.
-/

namespace Stepwise

namespace Retention

/-- The cutoff of a retention lies its span earlier, on the same clock. -/
theorem instant_cutoff {now cutoff : Moment} {days : Value}
    (found : Retention.cutoff now days = .ok cutoff) :
    ∃ earlier, span days = .ok earlier ∧ cutoff.instant = now.instant - earlier.microseconds ∧
      cutoff.offset = now.offset := by
  obtain ⟨earlier, given, found⟩ := Result.bind_ok found
  refine ⟨earlier, given, ?_⟩
  cases moved : now.later? (-earlier.microseconds) with
  | none =>
    rw [moved] at found
    cases found
  | some m =>
    rw [moved] at found
    obtain rfl := Except.ok.inj found
    obtain ⟨instant, offset⟩ := Moment.instant_later moved
    exact ⟨by omega, offset⟩

end Retention

namespace Engine

variable {η α : Type} {engine left : Engine η} {fresh : Store} {changes : List StoreChange}
  {kept : String → Option Execution} {ids : List String} {days : Value} {cutoff : Moment}

/-- The days for which a finished execution is kept; null stands for the usual number. -/
def retention (engine : Engine η) (days : Value) : Value :=
  if days.isNull then engine.options.retentionDays else days

/-- The moment by which a cleanup asks whether executions are over. -/
def cutoffOf (engine : Engine η) (days : Value) : Except Fault Moment :=
  Retention.cutoff engine.now (engine.retention days)

theorem cleanup_of_refused {f : Fault} (refused : engine.cutoffOf days = .error f) :
    (cleanup days).runOn engine = (.error f, engine) := by
  rw [cutoffOf, retention] at refused
  rw [cleanup, Effect.runOn_get_bind, Effect.runOn_lift_bind, refused]

/-- A call of the store that fails in time is heard, in words of its own. -/
theorem callStore_of_error {name : String} {effect : Effect (Engine η) α} {cause fault : Fault}
    (timely : engine.options.persistTimeout.allowance = .ok .all)
    (met : effect.runOn engine = (.error cause, left))
    (worded : persistenceFault name engine.options.persistTimeout cause = .ok fault) :
    (callStore name effect).runOn engine = (.error fault, left) := by
  rw [callStore_eq]
  simp only [timely, met, storeRefusal, worded]
  rfl

theorem cleanup_of_cutoff (found : engine.cutoffOf days = .ok cutoff) :
    (cleanup days).runOn engine =
      (callStore "cleanup" (onStore (Store.cleanup cutoff))).runOn engine := by
  rw [cutoffOf, retention] at found
  rw [cleanup, Effect.runOn_get_bind, Effect.runOn_lift_bind, found]

section Timely

variable (engine) (found : engine.cutoffOf days = .ok cutoff)
  (timely : engine.options.persistTimeout.allowance = .ok .all) {store : Store}

include found timely

theorem cleanup_of_ok {count : Nat}
    (cleaned : (Store.cleanup cutoff).runOn engine.store = (.ok count, store)) :
    (cleanup days).runOn engine = (.ok count, { engine with store }) := by
  rw [cleanup_of_cutoff found]
  refine callStore_of_ok timely ?_
  rw [onStore, Effect.runOn_onPart, cleaned]

theorem cleanup_of_error {cause fault : Fault}
    (failed : (Store.cleanup cutoff).runOn engine.store = (.error cause, store))
    (worded : persistenceFault "cleanup" engine.options.persistTimeout cause = .ok fault) :
    (cleanup days).runOn engine = (.error fault, { engine with store }) := by
  rw [cleanup_of_cutoff found]
  refine callStore_of_error timely ?_ worded
  rw [onStore, Effect.runOn_onPart, failed]

end Timely

/-! ## What a cleanup does -/

/-- What a cleanup does to an engine that stocks what is kept, when it asks what was over by an
instant. -/
structure CleansUp (engine : Engine η) (days : Value) (instant : Int)
    (kept : String → Option Execution) (ids due : List String) : Prop where
  /-- What is due are the executions that are terminal and finished before the instant. -/
  due_iff : ∀ id, id ∈ due ↔ ∃ execution, kept id = some execution ∧
    execution.isOver instant = true
  apart : due.Nodup
  /-- Unless a deletion is planned to fail, what is due is removed and counted, everything else is
  left as it was, and nothing is due any more. -/
  removes : (∀ count < due.length,
      engine.store.plan .delete (engine.store.made .delete + count + 1) = none) →
    ∃ store, (cleanup days).runOn engine = (.ok due.length, { engine with store }) ∧
      store.Stocks (omitting due kept) (ids.filter fun id => id ∉ due) ∧
      ((cleanup days).runOn { engine with store }).1 = .ok 0
  /-- Otherwise the cleanup fails, and nothing is removed but what is due. -/
  fails : ∀ count < due.length,
    (engine.store.plan .delete (engine.store.made .delete + count + 1)).isSome = true →
    ∃ f store removed, (cleanup days).runOn engine = (.error f, { engine with store }) ∧
      f.isPersistence = true ∧ removed ⊆ due ∧
      store.Stocks (omitting removed kept) (ids.filter fun id => id ∉ removed)

theorem exists_cleansUp (stocks : engine.store.Stocks kept ids)
    (legible : engine.store.IsLegible kept) (aware : engine.now.isZoned = true)
    (timely : engine.options.persistTimeout.allowance = .ok .all)
    (told : ∀ number f, engine.store.plan .delete number = some f →
      ∃ fault, persistenceFault "cleanup" engine.options.persistTimeout f = .ok fault)
    (found : engine.cutoffOf days = .ok cutoff) :
    ∃ due, engine.CleansUp days cutoff.instant kept ids due := by
  obtain ⟨-, -, -, offset⟩ := Retention.instant_cutoff found
  have zoned : cutoff.isZoned = true := by
    rw [Moment.isZoned, offset]
    exact aware
  obtain ⟨due, due_iff, apart, cleans⟩ := stocks.cleanup legible zoned
  refine ⟨due, due_iff, apart, fun unplanned => ?_, fun count short planned => ?_⟩
  · obtain ⟨store, cleaned, akin, left⟩ := cleans _ _ (Store.deletions_of_unplanned unplanned)
    refine ⟨store, cleanup_of_ok engine found timely cleaned, left, ?_⟩
    obtain ⟨again, again_iff, -, cleans'⟩ := left.cleanup (legible.omitting akin due) zoned
    obtain rfl : again = [] := by
      rw [List.eq_nil_iff_forall_not_mem]
      intro id member
      obtain ⟨execution, held, past⟩ := (again_iff id).mp member
      rw [omitting] at held
      split at held
      · cases held
      · rename_i spared
        exact spared ((due_iff id).mpr ⟨execution, held, past⟩)
    obtain ⟨last, cleaned', -, -⟩ := cleans' _ _ rfl
    rw [cleanup_of_ok { engine with store } found timely cleaned']
    rfl
  · obtain ⟨f, failing, refused, cause⟩ := Store.deletions_of_planned short planned
    obtain ⟨fault, worded⟩ := told failing f cause
    obtain ⟨store, failed, -, left⟩ := cleans _ _ rfl
    rw [refused] at failed
    exact ⟨fault, store, _, cleanup_of_error engine found timely failed worded,
      persistenceFault_isPersistence worded, Store.deletions_subset _ _ _, left⟩

/-- The engine has a store that was empty and has then seen these changes, and it is given the time
to clean up there. -/
structure MayCleanUp (engine : Engine η) (fresh : Store) (changes : List StoreChange) : Prop where
  empty : fresh.Stocks (fun _ => none) []
  reached : engine.store = fresh.after changes
  proper : ∀ change ∈ changes, change.IsProper
  started : ∀ execution, .save execution ∈ changes →
    execution.startedAt.all Moment.isZoned = true
  finished : ∀ execution, .save execution ∈ changes →
    execution.finishedAt.all Moment.isZoned = true
  /-- A folder gives back what was saved there, if not all of it. -/
  givesBack : fresh.backing.isFolder = true → ∀ execution, .save execution ∈ changes →
    Folder.GivesBack execution
  /-- Saves and deletions may be planned to fail, but listings and loads are not. -/
  unplanned : ∀ number, fresh.plan .list number = none ∧ fresh.plan .load number = none
  /-- The fault of a deletion can be told. -/
  told : ∀ number f, fresh.plan .delete number = some f →
    ∃ fault, persistenceFault "cleanup" engine.options.persistTimeout f = .ok fault
  aware : engine.now.isZoned = true
  timely : engine.options.persistTimeout.allowance = .ok .all

/-- What is kept after the changes can be listed. -/
theorem MayCleanUp.isLegible (ready : engine.MayCleanUp fresh changes) :
    engine.store.IsLegible (fresh.keptAfter (fun _ => none) changes) := by
  have akin := Store.isAkin_after fresh changes
  rw [ready.reached]
  exact ⟨akin.plan ▸ ready.unplanned,
    fun _ execution held => ready.started execution (Store.saved_of_keptAfter held),
    fun _ execution held => ready.finished execution (Store.saved_of_keptAfter held),
    fun folder _ execution held =>
      ready.givesBack (akin.kind ▸ folder) execution (Store.saved_of_keptAfter held)⟩

/-- Whatever was saved and deleted in a store, a cleanup with a retention removes exactly the
terminal executions that finished earlier than so long ago, unless it is refused for leading out of
the calendar. -/
theorem cleanup_exact (ready : engine.MayCleanUp fresh changes) :
    ∃ ids, engine.store.Stocks (fresh.keptAfter (fun _ => none) changes) ids ∧ ∀ days,
      (∀ f, engine.cutoffOf days = .error f → (cleanup days).runOn engine = (.error f, engine)) ∧
      ∀ cutoff, engine.cutoffOf days = .ok cutoff → ∃ earlier due,
        Retention.span (engine.retention days) = .ok earlier ∧
        engine.CleansUp days (engine.now.instant - earlier.microseconds)
          (fresh.keptAfter (fun _ => none) changes) ids due := by
  obtain ⟨ids, stocks⟩ := ready.empty.after ready.proper
  rw [← ready.reached] at stocks
  refine ⟨ids, stocks, fun days => ⟨fun f => cleanup_of_refused, fun cutoff found => ?_⟩⟩
  obtain ⟨earlier, given, instant, -⟩ := Retention.instant_cutoff found
  have told : ∀ number f, engine.store.plan .delete number = some f →
      ∃ fault, persistenceFault "cleanup" engine.options.persistTimeout f = .ok fault := by
    rw [ready.reached, (Store.isAkin_after fresh changes).plan]
    exact ready.told
  obtain ⟨due, cleans⟩ :=
    exists_cleansUp stocks ready.isLegible ready.aware ready.timely told found
  exact ⟨earlier, due, given, instant ▸ cleans⟩

end Engine

namespace Archive

/-- A run that ended at noon of the first day of 2024. -/
def ended : Execution := Store.Sample.record "a-1" 2024

def ongoing : Execution :=
  { Store.Sample.record "b-1" 2024 with status := .running, finishedAt := none }

def changes : List StoreChange := [.save ended, .save ongoing]

/-- An empty folder. -/
def fresh : Store := Store.create (.folder Store.Sample.path) Store.Sample.files

/-- A year later an engine has the two runs in its folder. -/
def engine : Engine Bool :=
  .create (fresh.after changes) .standard (fun _ => false) (Store.Sample.noon 2025)

theorem mem_changes {execution : Execution} (member : .save execution ∈ changes) :
    execution = ended ∨ execution = ongoing := by
  simpa [changes] using member

theorem mayCleanUp : engine.MayCleanUp fresh changes where
  empty := .nothing_inFolder rfl Store.Sample.hasDirectory rfl
  reached := rfl
  proper := by
    have first : Folder.IsId "a-1" := Folder.isId_of_letters (by decide) rfl (by decide +kernel)
    have second : Folder.IsId "b-1" := Folder.isId_of_letters (by decide) rfl (by decide +kernel)
    simp [changes, StoreChange.IsProper, ended, ongoing, Store.Sample.record, first, second]
  started _ member := by obtain rfl | rfl := mem_changes member <;> rfl
  finished _ member := by obtain rfl | rfl := mem_changes member <;> rfl
  givesBack _ _ member := by
    have first : ended.isTold = true := by decide +kernel
    have second : ongoing.isTold = true := by decide +kernel
    obtain rfl | rfl := mem_changes member
    · exact Folder.givesBack_of_isData rfl (by decide +kernel) first (by decide +kernel)
    · exact Folder.givesBack_of_isData rfl (by decide +kernel) second (by decide +kernel)
  unplanned _ := ⟨rfl, rfl⟩
  told := nofun
  aware := rfl
  timely := rfl

/-- Both runs are kept, each under its id. -/
theorem keptAfter_eq (id : String) : fresh.keptAfter (fun _ => none) changes id =
    if "b-1" = id then some ongoing else if "a-1" = id then some ended else none := by
  have first : ((StoreChange.save ended).make.runOn fresh).1.isOk = true := by decide +kernel
  have second : ((StoreChange.save ongoing).make.runOn
      ((StoreChange.save ended).make.runOn fresh).2).1.isOk = true := by decide +kernel
  rw [changes, Store.keptAfter, Store.keptAfter, Store.keptAfter, first, second,
    StoreChange.leaves_save rfl, StoreChange.leaves_save rfl]

end Archive

namespace Engine

open Archive

/-- A week is enough to remove the run that ended a year ago. -/
theorem cleanup_exact_archive :
    Archive.engine.MayCleanUp fresh changes ∧ ∃ ids store,
      (cleanup (.int 7)).runOn Archive.engine = (.ok 1, { Archive.engine with store }) ∧
      store.Stocks (omitting ["a-1"] (fresh.keptAfter (fun _ => none) changes)) ids := by
  obtain ⟨ids, -, cleans⟩ := cleanup_exact mayCleanUp
  obtain ⟨cutoff, found⟩ :=
    Result.exists_ok (show (Archive.engine.cutoffOf (.int 7)).isOk = true by decide +kernel)
  obtain ⟨earlier, due, given, week⟩ := (cleans (.int 7)).2 cutoff found
  obtain rfl := Except.ok.inj given
  obtain rfl : due = ["a-1"] := by
    refine List.perm_singleton.mp ((List.perm_ext_iff_of_nodup week.apart
      (List.nodup_singleton _)).mpr fun id => ?_)
    rw [week.due_iff, keptAfter_eq, List.mem_singleton]
    have past : ended.isOver (Archive.engine.now.instant - (Span.ofDays 7).microseconds) = true :=
      by decide +kernel
    constructor
    · rintro ⟨execution, held, past'⟩
      split at held
      · obtain rfl := Option.some.inj held
        exact absurd past' Bool.false_ne_true
      · split at held
        · rename_i same
          exact same.symm
        · cases held
    · rintro rfl
      exact ⟨ended, rfl, past⟩
  obtain ⟨store, removed, left, -⟩ := week.removes fun _ _ => rfl
  exact ⟨mayCleanUp, _, store, removed, left⟩

end Engine

namespace Archive

/-- A run that ended half a second before noon, for its offset is half a second. -/
def shifted : Execution :=
  { ended with finishedAt := some ⟨⟨2024, 1, 1⟩, 12, 0, 0, 0, some 500000⟩ }

/-- A week later, at noon. -/
def shiftedEngine : Engine Bool :=
  .create (fresh.after [.save shifted]) .standard (fun _ => false)
    ⟨⟨2024, 1, 8⟩, 12, 0, 0, 0, some 0⟩

/-- An engine that gives its store no time. -/
def hurried : Engine Bool :=
  { engine with options := { Options.standard with persistTimeout := .int 0 } }

/-- A retention of a million days leads out of the calendar and is refused, though nothing is due by
it. Half a second of an offset is lost in a folder, so a run that is due is not removed. And without
time nothing is removed, and the cleanup fails. -/
theorem cleanup_beyond_limits :
    (ended.isOver (engine.now.instant - (Span.ofDays 1000000).microseconds) = false ∧
      (Engine.cleanup (.int 1000000)).runOn engine =
        (.error (.overflowError "date value out of range"), engine)) ∧
      (shifted.isOver (shiftedEngine.now.instant - (Span.ofDays 7).microseconds) = true ∧
        ((Engine.cleanup (.int 7)).runOn shiftedEngine).1.toOption = some 0 ∧
        ((Engine.cleanup (.int 7)).runOn shiftedEngine).2.store.size = 1) ∧
      ended.isOver (hurried.now.instant - (Span.ofDays 7).microseconds) = true ∧
        ∃ f, (Engine.cleanup (.int 7)).runOn hurried = (.error f, hurried) := by
  refine ⟨⟨by decide +kernel, Engine.cleanup_of_refused ?_⟩,
    ⟨by decide +kernel, by decide +kernel, by decide +kernel⟩, by decide +kernel, ?_⟩
  · have none : engine.now.later? (-(Span.ofDays 1000000).microseconds) = none := by decide +kernel
    have given : Retention.span (.int 1000000) = .ok (.ofDays 1000000) := rfl
    change Retention.cutoff engine.now (.int 1000000) = _
    rw [Retention.cutoff, given]
    simp only [bind, Except.bind, none]
    rfl
  · obtain ⟨f, refused⟩ := Engine.storeRefusal_eq "cleanup" (.int 0) (.machinery "TimeoutError" "")
    obtain ⟨cutoff, found⟩ :=
      Result.exists_ok (show (hurried.cutoffOf (.int 7)).isOk = true by decide +kernel)
    have nothing : hurried.options.persistTimeout.allowance = .ok .nothing := rfl
    rw [Engine.cleanup_of_cutoff found, Engine.callStore_eq]
    simp only [nothing]
    exact ⟨f, Prod.ext (refused Nat) rfl⟩

end Archive

end Stepwise
