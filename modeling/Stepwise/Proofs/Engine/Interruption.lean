import Stepwise.Proofs.Engine.Carrying

/-!
# Interrupted executions

An execution is interrupted when its run, or a run that has taken it up, meets a fault after the
record was first saved. However often that happens, and wherever the runs break off, the store keeps
a record that can be taken up, and nobody owns the execution. Every turn of a run on the execution
sees to it, whether it advances or breaks off, as long as the execution is left alone in between.
-/

namespace Stepwise

variable {η : Type}

/-! ## What is left behind -/

/-- The store keeps a record from which the execution can be taken up. -/
def Scenario.IsKept (scenario : Scenario η) (id : String) (engine : Engine η) : Prop :=
  ∃ record, engine.store.kept? id = some record ∧ scenario.CanResume id record

/-- A record that a run saves while there is something to do can be taken up again. -/
theorem Run.Carries.canResume {scenario : Scenario η} {id : String} {run : Run η} {work : Work}
    {engine left : Engine η} (carries : run.Carries scenario id)
    (about : run = .opening work ∨ ∃ step result, run = .recording work step result)
    (saved : engine.Saves work.execution left) : scenario.CanResume id work.execution := by
  obtain rfl | ⟨step, result, rfl⟩ := about
  · obtain ⟨on, -⟩ := carries.on _ rfl
    have rest := carries.tells.follows
    exact ⟨on.named, on.about, carries.sound, saved.kept.1, rest.fits, rest.earlier,
      carries.tells.tells _ rfl⟩
  · obtain ⟨on, -⟩ := carries.on _ rfl
    have follows := carries.tells.follows
    obtain ⟨place, counted, there, -⟩ := follows.last
    have fits : work.execution.results.length ≤ scenario.workflow.steps.length :=
      counted ▸ (List.getElem?_eq_some_iff.mp there).1
    exact ⟨on.named, on.about, carries.sound, saved.kept.1, fits, follows.earlier,
      carries.tells.tells _ rfl⟩

namespace Turn

variable {scenario : Scenario η} {id : String} {turn : Turn η} {next : Run η} {left : Engine η}

open Engine

/-- What was saved is kept, as a copy of the snapshot. -/
theorem isKept_of_saves {work : Work} (timely : scenario.IsTimely)
    (spares : scenario.Spares id left turn.found) (carries : turn.run.Carries scenario id)
    (about : turn.run = .opening work ∨ ∃ step result, turn.run = .recording work step result)
    {reached : Engine η} (saved : turn.found.Saves work.execution reached) :
    scenario.IsKept id reached := by
  have resumable := carries.canResume about saved
  have kept := kept?_of_saves (spares.agrees.timely timely) spares.inMemory saved resumable.named
  exact ⟨_, kept, resumable.copied.copied⟩

/-- A run that advances finds a record kept, or is about to save its first one; either way one is
kept afterwards, unless the run has come to its end. -/
theorem isKept_of_advances {before : Engine η} (timely : scenario.IsTimely)
    (spares : scenario.Spares id before turn.found) (carries : turn.run.Carries scenario id)
    (kept : (∃ work, turn.run = .opening work) ∨
      (turn.run.record? = none → scenario.IsKept id turn.found))
    (advances : Advances turn.found turn.heard turn.run next left)
    (unrecorded : next.record? = none) : scenario.IsKept id left := by
  have found (other : ∀ work, turn.run ≠ .opening work) (going : turn.run.record? = none) :
      scenario.IsKept id turn.found := by
    obtain ⟨work, opening⟩ | kept := kept
    · exact absurd opening (other work)
    · exact kept going
  obtain ⟨run, reached, heard⟩ := turn
  dsimp only at advances
  cases advances with
  | waits held => exact found (by simp) rfl
  | enters free => exact found (by simp) rfl
  | opens saved goes => exact isKept_of_saves timely spares carries (.inl rfl) saved
  | calls reached => exact found (by simp) rfl
  | misses missed made => exact found (by simp) rfl
  | answers returned made => exact found (by simp) rfl
  | fails caused made => exact found (by simp) rfl
  | @records work settled step result next left saved meant goes =>
    exact isKept_of_saves timely spares carries (.inr ⟨step, result, rfl⟩) saved
  | closes saved => cases unrecorded
  | rests result => exact found (by simp) unrecorded

/-- A run that breaks off leaves the record that was kept, or a later one. -/
theorem isKept_of_breaksOff {before : Engine η} (timely : scenario.IsTimely)
    (spares : scenario.Spares id before turn.found) (carries : turn.run.Carries scenario id)
    (kept : scenario.IsKept id turn.found) (breaks : turn.BreaksOff left) :
    scenario.IsKept id left := by
  cases breaks with
  | before => exact kept
  | unsaved met =>
    obtain ⟨record, listed, resumable⟩ := kept
    refine ⟨record, ?_, resumable⟩
    rw [kept?_of_unsaved (spares.agrees.timely timely) spares.inMemory met, listed]
  | saved about saved => exact isKept_of_saves timely spares carries about saved

/-- The record that is kept is not looked at by those who leave. -/
theorem isKept_leave (run : Run η) (engine : Engine η) :
    scenario.IsKept id (engine.leave run) ↔ scenario.IsKept id engine := by
  obtain ⟨ownership, same⟩ := engine.leave_eq run
  rw [same]
  exact Iff.rfl

end Turn

/-- What holds of a run on an execution, and of the engine that it leaves, from its first save
on. -/
structure Scenario.Attends (scenario : Scenario η) (id : String) (run : Run η)
    (engine : Engine η) : Prop where
  carries : run.Carries scenario id
  owner : run.IsOwner id engine
  hosts : scenario.Hosts engine
  kept : run.record? = none → scenario.IsKept id engine

/-- Every turn attends to the execution, whether it advances or breaks off. -/
theorem Turn.attends {scenario : Scenario η} {id : String} {turn : Turn η} {left : Engine η}
    (regular : scenario.IsRegular) (timely : scenario.IsTimely)
    (attends : scenario.Attends id turn.run left) (around : scenario.Around id left turn) :
    scenario.Attends id turn.after.1 turn.after.2 := by
  obtain ⟨carries, owner, -, kept⟩ := attends
  have owner := owner.spared around.spares
  have hosts := around.spares.toHosts
  have found : turn.run.record? = none → scenario.IsKept id turn.found := by
    intro unrecorded
    obtain ⟨record, listed, resumable⟩ := kept unrecorded
    exact ⟨record, around.spares.kept.trans listed, resumable⟩
  obtain ⟨f, reached, breaks, broken⟩ | advances := turn.advances_or_breaksOff carries.sound
  · cases came : turn.run.result? with
    | some result =>
      -- A run that was over already is left where it stood.
      have stands := Run.eq_of_result? came
      rw [Turn.after_of_finished stands, ← stands]
      exact ⟨carries, owner, hosts, found⟩
    | none =>
      have left := turn.hosts timely carries hosts
      rw [broken] at left ⊢
      refine ⟨Run.carries_fault scenario id f, ⟨nofun, fun _ _ => ?_⟩, left, fun _ => ?_⟩
      · exact breaks.isFree carries.sound carries.on owner came
      · have going : turn.run.record? = none := by
          cases stands : turn.run with
          | finished result =>
            rw [stands] at came
            cases came
          | _ => rfl
        rw [isKept_leave]
        exact isKept_of_breaksOff timely around.spares carries (found going) breaks
  · exact ⟨advances.carries regular around.fits carries, advances.isOwner carries.on owner,
      advances.hosts timely carries.on hosts,
      isKept_of_advances timely around.spares carries (.inr found) advances⟩

theorem Course.attends {scenario : Scenario η} {id : String} {place final : Run η × Engine η}
    {turns : List (Turn η)} (course : Course (scenario.Around id) place turns final)
    (regular : scenario.IsRegular) (timely : scenario.IsTimely)
    (attends : scenario.Attends id place.1 place.2) : scenario.Attends id final.1 final.2 :=
  course.preserves (fun _ run engine => scenario.Attends id run engine)
    (fun _ _ _ attends around => Turn.attends regular timely attends around) [] attends

/-! ## Starting and taking up -/

/-- A run that is about to save a record from which the execution can be taken up carries it. -/
theorem Scenario.CanResume.carries {scenario : Scenario η} {id : String} {record : Execution}
    (resumable : scenario.CanResume id record) (regular : scenario.IsRegular) (lock : Nat) :
    (Run.opening (η := η) (Engine.workOn (.str id) lock scenario.workflow record)).Carries
      scenario id := by
  refine ⟨resumable.running, resumable.opening regular (.str id) lock, ?_⟩
  rintro _ ⟨⟩
  exact ⟨⟨rfl, resumable.named, resumable.about⟩, by simp⟩

/-- The engine hosts the scenario, and the execution of an id can be taken up: nobody owns it, and
a record of it is kept. -/
structure Scenario.IsResumable (scenario : Scenario η) (id : String) (engine : Engine η) :
    Prop where
  hosts : scenario.Hosts engine
  free : engine.ownership.IsFree (.str id)
  kept : scenario.IsKept id engine

namespace Scenario.IsResumable

variable {scenario : Scenario η} {id : String} {engine : Engine η}

/-- Nothing about it changes while the execution is left alone. -/
theorem spared {left found : Engine η} (resumable : scenario.IsResumable id left)
    (spares : scenario.Spares id left found) : scenario.IsResumable id found where
  hosts := spares.toHosts
  free := ⟨spares.owned.trans resumable.free.clear, spares.orderly⟩
  kept := by
    obtain ⟨record, listed, canResume⟩ := resumable.kept
    exact ⟨record, spares.kept.trans listed, canResume⟩

theorem isClaimed (resumable : scenario.IsResumable id engine) :
    (engine.ownership.claiming (.str id)).IsClaimed (.str id) :=
  resumable.free.isClaimed (Value.same_str_self id)

end Scenario.IsResumable

end Stepwise
