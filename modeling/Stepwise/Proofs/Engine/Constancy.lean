import Stepwise.Proofs.Engine.Turn

/-!
# What a run keeps

A run stays with the id that it has claimed, with its lock, with its workflow, and with the record
that it began on: only the status, the outputs, the results and the error of the record change. The
steps before it are always those without a result.
-/

namespace Stepwise

namespace Work

/-- The work goes on with the same record under the same claim and lock. -/
structure Continues (work next : Work) : Prop where
  claimed : next.claimed = work.claimed
  lock : next.lock = work.lock
  workflow : next.workflow = work.workflow
  named : next.execution.id = work.execution.id
  about : next.execution.workflow = work.execution.workflow

theorem Continues.trans {work next last : Work} (first : work.Continues next)
    (second : next.Continues last) : work.Continues last where
  claimed := second.claimed.trans first.claimed
  lock := second.lock.trans first.lock
  workflow := second.workflow.trans first.workflow
  named := second.named.trans first.named
  about := second.about.trans first.about

theorem continues_opened (work : Work) : work.Continues work.opened := ⟨rfl, rfl, rfl, rfl, rfl⟩

/-- The steps before the work are those of its workflow without a result. -/
def IsPlaced (work : Work) : Prop :=
  work.remaining = work.workflow.steps.drop work.execution.results.length

/-- The step that comes next is the one in the place after the results. -/
theorem IsPlaced.next {work : Work} {step : Step} {later : List Step} (placed : work.IsPlaced)
    (left : work.remaining = step :: later) :
    work.workflow.steps[work.execution.results.length]? = some step := by
  have first : (work.workflow.steps.drop work.execution.results.length)[0]? = some step := by
    rw [← placed, left]
    rfl
  simpa using first

theorem IsPlaced.recorded {work : Work} (placed : work.IsPlaced) (outputs : Value)
    (result : StepResult) : (work.recorded outputs result).IsPlaced := by
  unfold IsPlaced at placed ⊢
  simp [Work.recorded, placed, List.drop_drop]

end Work

namespace Engine

variable {η : Type} {engine : Engine η} {work settled : Work} {next : Run η}

theorem continues_settled {step : Step} {result : StepResult}
    (meant : settle work step result = .ok settled) : work.Continues settled := by
  obtain ⟨halted, error, rfl⟩ := settle_ok meant
  exact ⟨rfl, rfl, rfl, rfl, rfl⟩

theorem settle_placed {step : Step} {result : StepResult}
    (meant : settle work step result = .ok settled) (placed : work.IsPlaced) :
    settled.IsPlaced := by
  obtain ⟨halted, error, rfl⟩ := settle_ok meant
  exact placed

/-- Wherever a run goes on from a save, it has work that continues what was saved. -/
theorem Goes.continues (goes : engine.Goes work next) :
    ∃ later, next.work? = some later ∧ work.Continues later ∧ (work.IsPlaced → later.IsPlaced) := by
  cases goes with
  | ended ends => exact ⟨_, rfl, ⟨rfl, rfl, rfl, rfl, rfl⟩, id⟩
  | stopped left unhalted asked told => exact ⟨_, rfl, ⟨rfl, rfl, rfl, rfl, rfl⟩, id⟩
  | @begins step later outset left unhalted unasked comes =>
    cases outset with
    | sent input => exact ⟨_, rfl, ⟨rfl, rfl, rfl, rfl, rfl⟩, id⟩
    | settled status error =>
      exact ⟨_, rfl, ⟨rfl, rfl, rfl, rfl, rfl⟩, fun placed => placed.recorded _ _⟩

theorem failed_continues {attempt : Attempt} {fault : Except Fault Fault}
    (made : engine.failed work attempt fault = .ok next) :
    ∃ later, next.work? = some later ∧ work.Continues later ∧ (work.IsPlaced → later.IsPlaced) := by
  obtain ⟨result, -, rfl⟩ := failed_ok made
  exact ⟨_, rfl, ⟨rfl, rfl, rfl, rfl, rfl⟩, fun placed => placed.recorded _ _⟩

theorem answered_continues {attempt : Attempt} {v : Value}
    (made : engine.answered work attempt v = .ok next) :
    ∃ later, next.work? = some later ∧ work.Continues later ∧ (work.IsPlaced → later.IsPlaced) := by
  obtain ⟨outputs, -, rfl⟩ := answered_ok made
  exact ⟨_, rfl, ⟨rfl, rfl, rfl, rfl, rfl⟩, fun placed => placed.recorded _ _⟩

end Engine

/-- A run that advances has work that continues what it had, or has come to its end. -/
theorem Advances.continues {η : Type} {found left : Engine η} {heard : Outcome}
    {run next : Run η} (advances : Advances found heard run next left) {work : Work}
    (stands : run.work? = some work) :
    (∃ later, next.work? = some later ∧ work.Continues later ∧
        (work.IsPlaced → later.IsPlaced)) ∨
      run = .closing work ∧ next = .finished (.ok work.execution) := by
  cases advances with
  | waits held => exact .inl ⟨work, stands, ⟨rfl, rfl, rfl, rfl, rfl⟩, id⟩
  | enters free => exact .inl ⟨work, stands, ⟨rfl, rfl, rfl, rfl, rfl⟩, id⟩
  | opens saved goes =>
    cases stands
    obtain ⟨later, comes, continues, placed⟩ := goes.continues
    exact .inl ⟨later, comes, (Work.continues_opened _).trans continues, placed⟩
  | calls reached => exact .inl ⟨work, stands, ⟨rfl, rfl, rfl, rfl, rfl⟩, id⟩
  | misses missed made =>
    cases stands
    exact .inl (Engine.failed_continues made)
  | answers returned made =>
    cases stands
    exact .inl (Engine.answered_continues made)
  | fails caused made =>
    cases stands
    exact .inl (Engine.failed_continues made)
  | records saved meant goes =>
    cases stands
    obtain ⟨later, comes, continues, placed⟩ := goes.continues
    exact .inl ⟨later, comes, (Engine.continues_settled meant).trans continues,
      fun before => placed (Engine.settle_placed meant before)⟩
  | closes saved =>
    cases stands
    exact .inr ⟨rfl, rfl⟩
  | rests result => cases stands

/-- Unless it is over, a sound run has work. -/
theorem Run.IsSound.work {η : Type} {run : Run η} (sound : run.IsSound)
    (onward : run.result? = none) : ∃ work, run.work? = some work := by
  cases run with
  | loading claimed => exact sound.elim
  | finished result => cases onward
  | _ => exact ⟨_, rfl⟩

/-- Work that a run has after advancing continues what it had before. -/
theorem Advances.work_before {η : Type} {found left : Engine η} {heard : Outcome}
    {run next : Run η} (advances : Advances found heard run next left) (sound : run.IsSound)
    {later : Work} (comes : next.work? = some later) :
    ∃ work, run.work? = some work ∧ work.Continues later ∧ (work.IsPlaced → later.IsPlaced) := by
  cases ended : run.result? with
  | some result =>
    cases run with
    | finished result =>
      cases advances
      cases comes
    | _ => cases ended
  | none =>
    obtain ⟨work, stands⟩ := sound.work ended
    obtain ⟨other, there, continues, keeps⟩ | ⟨-, finished⟩ := advances.continues stands
    · obtain rfl := Option.some.inj (there.symm.trans comes)
      exact ⟨work, stands, continues, keeps⟩
    · rw [finished] at comes
      cases comes

/-- A run with work has claimed the id of it. -/
theorem Run.claimed?_of_work {η : Type} {run : Run η} {work : Work}
    (stands : run.work? = some work) : run.claimed? = some work.claimed := by
  cases run <;> cases stands <;> rfl

end Stepwise
