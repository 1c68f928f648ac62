import Stepwise.Proofs.Engine.Clean
import Stepwise.Proofs.Engine.Matching

/-!
# Records that can be taken up

A run that breaks off leaves a record behind from which it can be taken up again. The record is
running, it has results of the first steps of which none but the last stops a run, and it matches
the tale. All of that survives copying, so it holds of what a store gives back. From such a record a
run goes on as the run that left it would have gone on: the last result, which has halted the one,
is found to halt the other.
-/

namespace Stepwise

/-- A record from which an execution of the scenario can be taken up again under its id. -/
structure Scenario.CanResume {η : Type} (scenario : Scenario η) (id : String)
    (record : Execution) : Prop where
  named : record.id = .str id
  about : record.workflow.original = scenario.workflow.id.original
  running : record.status = .running
  copyable : record.obstacle? = none
  fits : record.results.length ≤ scenario.workflow.steps.length
  earlier : Unstopped scenario.workflow.steps
    (record.results.take (record.results.length - 1))
  tells : scenario.Matches record

/-- Whether results stop a run is not changed by copying them. -/
theorem unstopped_copied {steps : List Step} {results : List StepResult}
    (unstopped : Unstopped steps results) : Unstopped steps (results.map StepResult.copied) := by
  intro place step result there present stops
  rw [List.getElem?_map, Option.map_eq_some_iff] at present
  obtain ⟨given, listed, rfl⟩ := present
  exact unstopped place step given there listed stops

namespace Scenario.CanResume

variable {η : Type} {scenario : Scenario η} {id : String} {record : Execution}

theorem copied (resumable : scenario.CanResume id record) :
    scenario.CanResume id record.copied where
  named := by simp [Execution.copied, resumable.named, Value.copied]
  about := by rw [Execution.copied, Value.original_copied, resumable.about]
  running := resumable.running
  copyable := Execution.obstacle?_copied resumable.copyable
  fits := by
    rw [Execution.copied, List.length_map]
    exact resumable.fits
  earlier := by
    have same := unstopped_copied resumable.earlier
    rw [List.map_take] at same
    simpa [Execution.copied] using same
  tells := resumable.tells.copied

/-- The record halts a run that takes it up exactly when its last result stops one. -/
theorem haltedBy_iff (resumable : scenario.CanResume id record) (regular : scenario.IsRegular) :
    scenario.workflow.haltedBy record = true ↔
      StoppedAtLast scenario.workflow.steps record.results :=
  Workflow.haltedBy_iff regular.accepted regular.named resumable.fits
    fun _ _ _ there present => resumable.tells.stepId regular resumable.fits there present

/-- Whatever lock it gets, a run that takes the record up goes on with the tale. -/
theorem opened (resumable : scenario.CanResume id record) (regular : scenario.IsRegular)
    (claimed : Value) (lock : Nat) :
    (Engine.workOn claimed lock scenario.workflow record).opened.AtRest
      scenario.workflow.steps where
  fits := resumable.fits
  left := rfl
  earlier := resumable.earlier
  halted := resumable.haltedBy_iff regular

theorem opening (resumable : scenario.CanResume id record) (regular : scenario.IsRegular)
    (claimed : Value) (lock : Nat) :
    (Run.opening (η := η) (Engine.workOn claimed lock scenario.workflow record)).Matches
      scenario := by
  refine ⟨resumable.opened regular claimed lock, trivial, ?_⟩
  rintro _ ⟨⟩
  exact resumable.tells

theorem waiting (resumable : scenario.CanResume id record) (regular : scenario.IsRegular)
    (claimed : Value) (lock : Nat) :
    (Run.waiting (η := η) (Engine.workOn claimed lock scenario.workflow record)).Matches
      scenario := by
  refine ⟨resumable.opened regular claimed lock, trivial, ?_⟩
  rintro _ ⟨⟩
  exact resumable.tells

theorem isClean (resumable : scenario.CanResume id record) (regular : scenario.IsRegular)
    (claimed : Value) (lock : Nat) :
    (Engine.workOn claimed lock scenario.workflow record).IsClean := by
  refine ⟨?_, ?_, resumable.copyable⟩
  · intro step member
    exact regular.accepted.fit step (List.mem_of_mem_drop member)
  · obtain ⟨told, tale, outputs, -⟩ := resumable.tells.told
    obtain ⟨entries, mapped, -⟩ := Scenario.tale_names resumable.fits tale
    exact Value.map_of_original (outputs.trans (by rw [mapped]))

end Scenario.CanResume

/-! ## New records -/

end Stepwise
