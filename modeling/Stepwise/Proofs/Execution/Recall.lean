import Stepwise.Json.Reader
import Stepwise.Proofs.Execution.Writable
import Stepwise.Proofs.Json.Spoken

/-!
# What is recalled of a record

A record is written with its values as JSON says them and with its times as ISO times tell them,
and it is read with lists and names in the place of what JSON has no form for. Whatever the record
holds, what is recalled of it is a record of the same run and in the same state. Its times are the
same, but for an offset of less than a second, which is recalled as none.
-/

namespace Stepwise

def StepError.spoken (error : StepError) : StepError := ⟨error.kind.spoken, error.message.spoken⟩

def StepResult.spoken (result : StepResult) : StepResult :=
  { result with
    stepId := result.stepId.spoken
    output := result.output.spoken
    error := result.error.map StepError.spoken }

namespace Execution

/-- The record with each of its values as JSON says it. -/
def spoken (execution : Execution) : Execution :=
  { execution with
    id := execution.id.spoken
    workflow := execution.workflow.spoken
    input := execution.input.spoken
    outputs := execution.outputs.spoken
    results := execution.results.map StepResult.spoken
    error := execution.error.spoken }

/-- What is read of the document of a record. -/
def recalled (execution : Execution) : Execution := execution.spoken.reread.restated

/-- The document of the record can be read. Its numbers and its times are such as there are, and it
is nested no deeper than the reader goes. -/
structure IsRecallable (execution : Execution) : Prop where
  canonical : execution.record.isCanonical = true
  dated : execution.isDated = true
  shallow : execution.record.nesting ≤ Json.deepest

end Execution

/-! ## Documents -/

theorem Moment.spoken_document (time : Option Moment) : (document time).spoken = document time := by
  cases time <;> simp only [document, Value.spoken]

theorem StepError.spoken_document (error : StepError) :
    error.document.spoken = error.spoken.document := by
  simp only [document, spoken, Value.spoken, Value.spokenEntries]

/-- What is said of a result is the document of the result with its values as they are said. -/
theorem StepResult.spoken_document (result : StepResult) :
    result.document.spoken = result.spoken.document := by
  have told : (Value.ofOption (result.error.map StepError.document)).spoken =
      Value.ofOption ((result.error.map StepError.spoken).map StepError.document) := by
    cases result.error with
    | none => rfl
    | some error => exact error.spoken_document
  simp only [document, spoken, Value.spoken, Value.spokenEntries, Moment.spoken_document, told]

namespace Execution

variable {execution : Execution}

/-- And so it is for a record. -/
theorem spoken_record (execution : Execution) :
    execution.record.spoken = execution.spoken.record := by
  have listed : Value.spokenItems (execution.results.map StepResult.document) =
      (execution.results.map StepResult.spoken).map StepResult.document := by
    rw [Value.spokenItems_eq_map, List.map_map, List.map_map]
    exact List.map_congr_left fun result _ => result.spoken_document
  simp only [record, spoken, Value.spoken, Value.spokenEntries, Moment.spoken_document, listed]

/-- What is read of the document of a record is what is recalled of it. -/
theorem ofDocument_recalled (dated : execution.isDated = true) :
    ofDocument execution.record.spoken.reread = .ok execution.recalled := by
  have dated' : execution.spoken.reread.isDated = true := by
    rw [isDated, reread, spoken, List.all_map, List.all_map]
    exact dated
  rw [spoken_record, reread_record, ofDocument_record_of_isDated dated', recalled]

theorem recalled_id {id : String} (own : execution.id = .str id) :
    execution.recalled.id = .str id := by
  change execution.id.spoken.reread = .str id
  rw [own]
  simp only [Value.spoken, Value.reread]

theorem recalled_startedAt (execution : Execution) :
    execution.recalled.startedAt = execution.startedAt.map Moment.restated := rfl

end Execution

end Stepwise
