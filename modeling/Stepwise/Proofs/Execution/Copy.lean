import Stepwise.Execution.Basic
import Stepwise.Proofs.Value.Copy

/-!
# Copies of records

A snapshot of a record is a copy of all its parts, so a record can be copied when each of them can.
What is copied can be copied again, which is what a store in memory does with every snapshot.
-/

namespace Stepwise

namespace Execution

/-- A record can be copied when all its parts can. -/
theorem obstacle?_eq_none {execution : Execution} :
    execution.obstacle? = none ↔
      execution.id.obstacle? = none ∧ execution.workflow.obstacle? = none ∧
        execution.input.obstacle? = none ∧ execution.outputs.obstacle? = none ∧
        (∀ result ∈ execution.results, result.obstacle? = none) ∧
        execution.error.obstacle? = none := by
  simp only [obstacle?, Option.orElse_eq_orElse, Option.orElse_eq_or, Option.or_eq_none_iff,
    List.findSome?_eq_none_iff]

end Execution

/-- The copy of a result can be copied again. -/
theorem StepResult.obstacle?_copied {result : StepResult} (free : result.obstacle? = none) :
    result.copied.obstacle? = none := by
  simp only [obstacle?, Option.orElse_eq_orElse, Option.orElse_eq_or, Option.or_eq_none_iff]
    at free ⊢
  obtain ⟨named, given, told⟩ := free
  refine ⟨Value.obstacle?_copied named, Value.obstacle?_copied given, ?_⟩
  cases error : result.error with
  | none => simp [copied, error]
  | some stated =>
    simp only [error, Option.bind_some, Option.or_eq_none_iff] at told
    simp [copied, error, Value.obstacle?_copied told.1, Value.obstacle?_copied told.2]

/-- A snapshot can be copied again. -/
theorem Execution.obstacle?_copied {execution : Execution} (free : execution.obstacle? = none) :
    execution.copied.obstacle? = none := by
  obtain ⟨id, workflow, input, outputs, results, error⟩ := obstacle?_eq_none.mp free
  refine obstacle?_eq_none.mpr ⟨Value.obstacle?_copied id, Value.obstacle?_copied workflow,
    Value.obstacle?_copied input, Value.obstacle?_copied outputs, ?_,
    Value.obstacle?_copied error⟩
  intro result member
  obtain ⟨recorded, listed, rfl⟩ := List.mem_map.mp member
  exact StepResult.obstacle?_copied (results recorded listed)

/-! ## What copies have in common -/

/-- The result with its host objects as they were before any copying. -/
def StepResult.original (result : StepResult) : StepResult :=
  { result with
    stepId := result.stepId.original
    output := result.output.original
    error := result.error.map fun error => ⟨error.kind.original, error.message.original⟩ }

theorem StepResult.original_copied (result : StepResult) :
    result.copied.original = result.original := by
  cases error : result.error <;> simp [original, copied, error]

/-- The record with its host objects as they were before any copying. Copies of one record have one
original, and only host objects tell them apart. -/
def Execution.original (execution : Execution) : Execution :=
  { execution with
    id := execution.id.original
    workflow := execution.workflow.original
    input := execution.input.original
    outputs := execution.outputs.original
    results := execution.results.map StepResult.original
    error := execution.error.original }

theorem Execution.original_copied (execution : Execution) :
    execution.copied.original = execution.original := by
  have results : (execution.results.map StepResult.copied).map StepResult.original =
      execution.results.map StepResult.original := by
    rw [List.map_map]
    exact List.map_congr_left fun result _ => result.original_copied
  simp [original, copied, results]

/-- Records with one original have results with one original. -/
theorem Execution.results_of_original {execution other : Execution}
    (same : execution.original = other.original) :
    execution.results.map StepResult.original = other.results.map StepResult.original :=
  congrArg Execution.results same

/-- What is a copy of a text is the text. -/
theorem Value.eq_str_of_original {v : Value} {text : String} (same : v.original = .str text) :
    v = .str text := by
  cases v with
  | str told => rw [← same, original_str]
  | _ => simp [original, relabel] at same

theorem Value.eq_null_of_original {v : Value} (same : v.original = .null) : v = .null := by
  cases v with
  | null => rfl
  | _ => simp [original, relabel] at same

end Stepwise
