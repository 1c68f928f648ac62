import Stepwise.Proofs.Engine.Escape
import Stepwise.Proofs.Engine.Ledger
import Stepwise.Proofs.Execution.Copy

/-!
# Clean runs

As long as no fault has escaped, a run keeps to a few things: the steps before it are as the
registry took them in, its outputs are a map, and its record can be copied. Every turn that
advances keeps them, and it brings the run nearer to its end.
-/

namespace Stepwise

/-- The error that records a fault consists of texts. -/
theorem StepError.ofFault_ok {f : Fault} {error : StepError} (made : ofFault f = .ok error) :
    ∃ message, error = ⟨.str f.kind, .str message⟩ := by
  obtain ⟨message, -, made⟩ := Result.bind_ok made
  exact ⟨message, (Except.ok.inj made).symm⟩

/-- The error of a result, if it has one, records a fault. -/
def StepResult.IsStated (result : StepResult) : Prop :=
  ∀ error, result.error = some error → ∃ f, StepError.ofFault f = .ok error

theorem Attempt.failure_isStated {attempt : Attempt} {fault : Except Fault Fault} {now : Moment}
    {result : StepResult} (made : attempt.failure fault now = .ok result) : result.IsStated := by
  obtain ⟨f, error, -, formed, rfl⟩ := Attempt.failure_ok made
  rintro _ ⟨⟩
  exact ⟨f, formed⟩

/-- A settled step is recorded with the fault that settled it, if there was one. -/
theorem Engine.settledResult_isStated {η : Type} (engine : Engine η) {step : Step}
    {outputs input : Value} {status : StepStatus} {error : Option StepError}
    (comes : step.outset outputs input = .ok (.settled status error)) :
    (engine.settledResult step status error).IsStated := by
  obtain ⟨-, f, stated, -, made, rfl⟩ | ⟨-, rfl⟩ | ⟨-, f, stated, -, made, rfl⟩ :=
    Step.outset_settled comes
  · rintro _ ⟨⟩
    exact ⟨f, made⟩
  · exact nofun
  · rintro _ ⟨⟩
    exact ⟨f, made⟩

/-- A result whose error is stated can be copied when the id and the output in it can. -/
theorem StepResult.obstacle?_eq_none {result : StepResult} (stated : result.IsStated) :
    result.obstacle? = none ↔
      result.stepId.obstacle? = none ∧ result.output.obstacle? = none := by
  have told : (result.error.bind fun error =>
      error.kind.obstacle? <|> error.message.obstacle?) = none := by
    cases given : result.error with
    | none => rfl
    | some error =>
      obtain ⟨f, made⟩ := stated error given
      obtain ⟨message, rfl⟩ := StepError.ofFault_ok made
      rfl
  rw [obstacle?, told]
  simp

/-- The outputs after a step are a map again, which can be copied when the new output can. -/
theorem Step.bound_ok {step : Step} {outputs v bound : Value} (fit : step.IsFit)
    (mapped : ∃ entries, outputs = .map entries) (made : step.bound outputs v = .ok bound) :
    (∃ entries, bound = .map entries) ∧
      (outputs.obstacle? = none → v.obstacle? = none → bound.obstacle? = none) := by
  obtain ⟨entries, rfl⟩ := mapped
  unfold Step.bound at made
  split at made
  · obtain ⟨_, -, made⟩ := Result.bind_ok made
    cases made
    refine ⟨⟨_, rfl⟩, ?_⟩
    intro free held
    rw [Value.obstacle?] at free ⊢
    exact Value.entryObstacle?_insert fit.bound held free
  · cases made
    exact ⟨⟨entries, rfl⟩, fun free _ => free⟩

/-! ## What a run keeps to -/

/-- The steps before the work are fit, its outputs are a map, and its record can be copied. -/
structure Work.IsClean (work : Work) : Prop where
  fit : ∀ step ∈ work.remaining, step.IsFit
  mapped : ∃ entries, work.execution.outputs = .map entries
  copyable : work.execution.obstacle? = none

/-- A run that was started under a lock of its own and from which no fault has escaped. Its record
can be copied, or could be but for the output of the last result. -/
def Run.IsClean {η : Type} : Run η → Prop
  | .loading _ => False
  | .waiting _ => False
  | .opening work => work.IsClean
  | .dispatching work attempt _ =>
    work.IsClean ∧ ∃ id, attempt.step.id.text = .ok id
  | .calling work attempt _ _ =>
    work.IsClean ∧ ∃ id, attempt.step.id.text = .ok id
  | .recording work step result =>
    (∀ step ∈ work.remaining, step.IsFit) ∧ (∃ entries, work.execution.outputs = .map entries) ∧
      (work.execution.obstacle? = none ↔ result.output.obstacle? = none) ∧
      ∃ settled, Engine.settle work step result = .ok settled
  | .closing work => work.execution.obstacle? = none
  | .finished _ => True

namespace Engine

variable {η : Type}

/-- What a result means can be said when the id of its step can be told. -/
theorem settle_of_told {work : Work} {step : Step} {result : StepResult}
    (told : ∃ id, step.id.text = .ok id) (stated : result.IsStated) :
    ∃ settled, settle work step result = .ok settled := by
  obtain ⟨id, told⟩ := told
  unfold settle
  split
  · rename_i error _ given
    obtain ⟨f, made⟩ := stated error given
    obtain ⟨message, rfl⟩ := StepError.ofFault_ok made
    have plain : (Value.str message).text = .ok message := rfl
    simp only [told, plain, bind, Except.bind]
    split <;> exact ⟨_, rfl⟩
  · exact ⟨_, rfl⟩

/-- A clean run stays clean when a result is recorded, but for an output that cannot be copied. -/
theorem recorded_isClean {work : Work} {step : Step} {result : StepResult} {outputs : Value}
    {later : List Step} (clean : work.IsClean) (left : work.remaining = step :: later)
    (told : ∃ id, step.id.text = .ok id) (named : result.stepId = step.id)
    (stated : result.IsStated) (mapped : ∃ entries, outputs = .map entries)
    (free : result.output.obstacle? = none → outputs.obstacle? = none) :
    (Run.recording (η := η) (work.recorded outputs result) step result).IsClean := by
  have fit : step.IsFit := clean.fit step (left ▸ List.mem_cons_self)
  refine ⟨?_, mapped, ?_, settle_of_told told stated⟩
  · intro other member
    exact clean.fit other (List.mem_of_mem_drop member)
  · obtain ⟨id, workflow, input, -, results, error⟩ :=
      Execution.obstacle?_eq_none.mp clean.copyable
    have whole := StepResult.obstacle?_eq_none stated
    rw [Execution.obstacle?_eq_none]
    simp only [Work.recorded, List.mem_append, List.mem_singleton]
    constructor
    · rintro ⟨-, -, -, -, all, -⟩
      exact (whole.mp (all result (.inr rfl))).2
    · intro copyable
      refine ⟨id, workflow, input, free copyable, ?_, error⟩
      rintro other (member | rfl)
      · exact results other member
      · exact whole.mpr ⟨named ▸ fit.identified, copyable⟩

/-- A run that goes on from a save stays clean, wherever it goes. -/
theorem Goes.clean {engine : Engine η} {work : Work} {next : Run η}
    (goes : engine.Goes work next) (clean : work.IsClean) : next.IsClean := by
  cases goes with
  | ended ends => exact clean.copyable
  | stopped left unhalted asked told =>
    obtain ⟨id, workflow, input, outputs, results, -⟩ :=
      Execution.obstacle?_eq_none.mp clean.copyable
    exact Execution.obstacle?_eq_none.mpr ⟨id, workflow, input, outputs, results, rfl⟩
  | @begins step later outset left unhalted unasked comes =>
    have told : ∃ id, step.id.text = .ok id := by
      cases named : step.id.text with
      | ok id => exact ⟨id, rfl⟩
      | error f =>
        obtain ⟨g, met⟩ :=
          Step.outset_error_of_name work.execution.outputs work.execution.input named
        rw [met] at comes
        cases comes
    cases outset with
    | sent input => exact ⟨clean, told⟩
    | settled status error =>
      have free := (Execution.obstacle?_eq_none.mp clean.copyable).2.2.2.1
      exact recorded_isClean clean left told rfl (engine.settledResult_isStated comes) clean.mapped
        fun _ => free

theorem failed_clean {engine : Engine η} {work : Work} {attempt : Attempt} {later : List Step}
    {fault : Except Fault Fault} {next : Run η} (clean : work.IsClean)
    (left : work.remaining = attempt.step :: later)
    (told : ∃ id, attempt.step.id.text = .ok id)
    (made : engine.failed work attempt fault = .ok next) : next.IsClean := by
  obtain ⟨result, recorded, rfl⟩ := failed_ok made
  have stated := Attempt.failure_isStated recorded
  obtain ⟨f, error, -, -, rfl⟩ := Attempt.failure_ok recorded
  have free := (Execution.obstacle?_eq_none.mp clean.copyable).2.2.2.1
  exact recorded_isClean clean left told rfl stated clean.mapped fun _ => free

theorem answered_clean {engine : Engine η} {work : Work} {attempt : Attempt} {later : List Step}
    {v : Value} {next : Run η} (clean : work.IsClean)
    (left : work.remaining = attempt.step :: later)
    (told : ∃ id, attempt.step.id.text = .ok id)
    (made : engine.answered work attempt v = .ok next) : next.IsClean := by
  obtain ⟨outputs, bound, rfl⟩ := answered_ok made
  have fit : attempt.step.IsFit := clean.fit attempt.step (left ▸ List.mem_cons_self)
  obtain ⟨mapped, free⟩ := Step.bound_ok fit clean.mapped bound
  have before := (Execution.obstacle?_eq_none.mp clean.copyable).2.2.2.1
  exact recorded_isClean clean left told rfl nofun mapped (free before)

/-- A record that is saved could be copied, so the output recorded last could be. -/
theorem settled_isClean {work settled : Work} {step : Step} {result : StepResult}
    {engine left : Engine η} (saved : engine.Saves work.execution left)
    (clean : (Run.recording (η := η) work step result).IsClean)
    (meant : settle work step result = .ok settled) : settled.IsClean := by
  obtain ⟨id, workflow, input, outputs, results, error⟩ :=
    Execution.obstacle?_eq_none.mp saved.kept.1
  obtain ⟨fit, mapped, -⟩ := clean
  unfold settle at meant
  split at meant
  · obtain ⟨told, -, meant⟩ := Result.bind_ok meant
    obtain ⟨message, -, meant⟩ := Result.bind_ok meant
    split at meant
    · cases meant
      exact ⟨fit, mapped, Execution.obstacle?_eq_none.mpr
        ⟨id, workflow, input, outputs, results, rfl⟩⟩
    · cases meant
      exact ⟨fit, mapped, saved.kept.1⟩
  · cases meant
    exact ⟨fit, mapped, saved.kept.1⟩

end Engine

/-- A run that advances stays clean. -/
theorem Advances.clean {η : Type} {found left : Engine η} {heard : Outcome} {run next : Run η}
    (advances : Advances found heard run next left) (sound : run.IsSound)
    (clean : run.IsClean) : next.IsClean := by
  cases advances with
  | waits held => exact clean.elim
  | enters free => exact clean.elim
  | @opens work next left saved goes => exact goes.clean ⟨clean.fit, clean.mapped, clean.copyable⟩
  | calls reached => exact clean
  | misses missed made =>
    obtain ⟨-, later, left⟩ := sound
    exact Engine.failed_clean clean.1 left clean.2 made
  | answers returned made =>
    obtain ⟨-, later, left⟩ := sound
    exact Engine.answered_clean clean.1 left clean.2 made
  | fails caused made =>
    obtain ⟨-, later, left⟩ := sound
    exact Engine.failed_clean clean.1 left clean.2 made
  | records saved meant goes => exact goes.clean (Engine.settled_isClean saved clean meant)
  | closes saved => trivial
  | rests result => trivial

/-! ## New records -/

namespace Engine

end Engine

/-! ## Getting nearer to the end -/

/-- Going on takes fewer moves than were left after the save. -/
theorem Engine.Goes.movesLeft {η : Type} {engine : Engine η} {work : Work} {next : Run η}
    (goes : engine.Goes work next) : next.movesLeft ≤ 3 * work.remaining.length + 1 := by
  cases goes with
  | ended ends => simp [Run.movesLeft]
  | stopped left unhalted asked told => simp [Run.movesLeft]
  | @begins step later outset left unhalted unasked comes =>
    cases outset with
    | sent input => exact Nat.le_refl _
    | settled status error =>
      simp only [Engine.begun, Run.movesLeft, Work.recorded, left, List.drop_one, List.tail_cons,
        List.length_cons]
      omega

/-- A run that is not over has a move left. -/
theorem Run.movesLeft_pos {η : Type} {run : Run η} (sound : run.IsSound)
    (onward : run.result? = none) : 0 < run.movesLeft := by
  cases run with
  | loading claimed => exact sound.elim
  | calling work attempt handler input =>
    obtain ⟨-, later, left⟩ := sound
    simp [movesLeft, left]
  | finished result => cases onward
  | _ => simp [movesLeft]

/-- Every turn that advances brings a run that waits for no lock nearer to its end. -/
theorem Advances.movesLeft {η : Type} {found left : Engine η} {heard : Outcome} {run next : Run η}
    (advances : Advances found heard run next left) (sound : run.IsSound) (clean : run.IsClean)
    (onward : run.result? = none) : next.movesLeft < run.movesLeft := by
  have recorded {work : Work} {step : Step} {later : List Step} (outputs : Value)
      (result : StepResult) (left : work.remaining = step :: later) :
      (Run.recording (η := η) (work.recorded outputs result) step result).movesLeft <
        3 * work.remaining.length := by
    simp only [Run.movesLeft, Work.recorded, left, List.drop_one, List.tail_cons,
      List.length_cons]
    omega
  cases advances with
  | waits held => exact clean.elim
  | enters free => exact clean.elim
  | opens saved goes => exact Nat.lt_succ_of_le goes.movesLeft
  | calls reached => exact Nat.lt_succ_self _
  | misses missed made =>
    obtain ⟨result, -, rfl⟩ := Engine.failed_ok made
    obtain ⟨-, later, left⟩ := sound
    exact Nat.lt_succ_of_lt (recorded _ result left)
  | answers returned made =>
    obtain ⟨outputs, -, rfl⟩ := Engine.answered_ok made
    obtain ⟨-, later, left⟩ := sound
    exact recorded outputs _ left
  | fails caused made =>
    obtain ⟨result, -, rfl⟩ := Engine.failed_ok made
    obtain ⟨-, later, left⟩ := sound
    exact recorded _ result left
  | records saved meant goes =>
    obtain ⟨halted, error, rfl⟩ := Engine.settle_ok meant
    exact Nat.lt_succ_of_le goes.movesLeft
  | closes saved => exact Nat.zero_lt_one
  | rests result => cases onward

end Stepwise
