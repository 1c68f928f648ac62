import Stepwise.Proofs.Execution.Document
import Stepwise.Proofs.Json.Rereading

/-!
# Records that are reread

A record is reread part by part: the document of what is reread is what is reread of the document. The
records that are reread as equal ones are those of JSON values.
-/

namespace Stepwise

namespace StepError

def isData (error : StepError) : Bool := error.kind.isData && error.message.isData

def isWritable (error : StepError) : Bool := error.kind.isWritable && error.message.isWritable

def reread (error : StepError) : StepError := ⟨error.kind.reread, error.message.reread⟩

end StepError

namespace StepResult

/-- All values of a result are data. -/
def isData (result : StepResult) : Bool :=
  result.stepId.isData && result.output.isData && result.error.all StepError.isData

/-- All values of a result can be written. -/
def isWritable (result : StepResult) : Bool :=
  result.stepId.isWritable && result.output.isWritable && result.error.all StepError.isWritable

def reread (result : StepResult) : StepResult :=
  { result with
    stepId := result.stepId.reread
    output := result.output.reread
    error := result.error.map StepError.reread }

end StepResult

namespace Execution

/-- All values of a record are data. -/
def isData (execution : Execution) : Bool :=
  execution.id.isData && execution.workflow.isData && execution.input.isData &&
    execution.outputs.isData && execution.results.all StepResult.isData && execution.error.isData

/-- All values of a record can be written. -/
def isWritable (execution : Execution) : Bool :=
  execution.id.isWritable && execution.workflow.isWritable && execution.input.isWritable &&
    execution.outputs.isWritable && execution.results.all StepResult.isWritable &&
    execution.error.isWritable

/-- What a written record is read as: each of its values is reread. -/
def reread (execution : Execution) : Execution :=
  { execution with
    id := execution.id.reread
    workflow := execution.workflow.reread
    input := execution.input.reread
    outputs := execution.outputs.reread
    results := execution.results.map StepResult.reread
    error := execution.error.reread }

end Execution

/-! ## Documents -/

namespace Moment

variable (time : Option Moment)

theorem reread_document : (document time).reread = document time :=
  Value.reread_of_isJson _ (isJson_document time)

theorem isData_document : (document time).isData = true :=
  Value.isData_of_isJson _ (isJson_document time)

theorem isWritable_document : (document time).isWritable = true :=
  Value.isWritable_of_isJson _ (isJson_document time)

end Moment

namespace StepError

theorem reread_document (error : StepError) : error.document.reread = error.reread.document := by
  simp [document, reread, Value.reread, Value.rereadEntries, Value.name_str, Table.insertAll,
    Table.insert]

theorem isData_document (error : StepError) : error.document.isData = error.isData := by
  simp [document, isData, Value.isData, Value.allEntriesData]

theorem isWritable_document (error : StepError) :
    error.document.isWritable = error.isWritable := by
  simp [document, isWritable, Value.isWritable, Value.allEntriesWritable, Value.isName]

end StepError

namespace StepResult

variable (result : StepResult)

/-- What is reread of the document of a result is the document of what is reread. -/
theorem reread_document : result.document.reread = result.reread.document := by
  have told : (Value.ofOption (result.error.map StepError.document)).reread =
      Value.ofOption ((result.error.map StepError.reread).map StepError.document) := by
    cases result.error with
    | none => rfl
    | some error => exact error.reread_document
  simp [document, reread, Value.reread, Value.rereadEntries, Value.name_str, Table.insertAll,
    Table.insert, Moment.reread_document, told]

theorem isData_document : result.document.isData = result.isData := by
  have told : (Value.ofOption (result.error.map StepError.document)).isData =
      result.error.all StepError.isData := by
    cases result.error with
    | none => rfl
    | some error => exact error.isData_document
  simp [document, isData, Value.isData, Value.allEntriesData, Moment.isData_document, told,
    Bool.and_assoc]

theorem isWritable_document : result.document.isWritable = result.isWritable := by
  have told : (Value.ofOption (result.error.map StepError.document)).isWritable =
      result.error.all StepError.isWritable := by
    cases result.error with
    | none => rfl
    | some error => exact error.isWritable_document
  simp [document, isWritable, Value.isWritable, Value.allEntriesWritable, Value.isName,
    Moment.isWritable_document, told, Bool.and_assoc]

end StepResult

namespace Execution

variable (execution : Execution)

/-- What is reread of the document of a record is the document of what is reread. -/
theorem reread_record : execution.record.reread = execution.reread.record := by
  have listed (results : List StepResult) :
      Value.rereadItems (results.map StepResult.document) =
        (results.map StepResult.reread).map StepResult.document := by
    induction results with
    | nil => rfl
    | cons result rest inductionHypothesis =>
      rw [List.map_cons, Value.rereadItems, result.reread_document, inductionHypothesis]
      rfl
  simp only [record, reread, Value.reread, Value.rereadEntries, Value.name_str, Table.insertAll,
    List.foldl_cons, List.foldl_nil, Moment.reread_document, listed]
  simp [Table.insert]

/-- The document of a record of data holds the values themselves. -/
theorem document_of_isData {execution : Execution} (data : execution.isData = true) :
    execution.document = .ok execution.record := by
  simp only [isData, Bool.and_eq_true] at data
  obtain ⟨⟨⟨⟨-, input⟩, outputs⟩, -⟩, -⟩ := data
  rw [document, Value.copy_of_isData input, Value.copy_of_isData outputs]
  rfl

theorem isData_record : execution.record.isData = execution.isData := by
  have listed (results : List StepResult) :
      Value.allData (results.map StepResult.document) = results.all StepResult.isData := by
    induction results with
    | nil => rfl
    | cons result rest inductionHypothesis =>
      rw [List.map_cons, Value.allData, result.isData_document, inductionHypothesis]
      rfl
  simp [record, isData, Value.isData, Value.allEntriesData, Moment.isData_document, listed,
    Bool.and_assoc]

theorem isWritable_record : execution.record.isWritable = execution.isWritable := by
  have listed (results : List StepResult) :
      Value.allWritable (results.map StepResult.document) =
        results.all StepResult.isWritable := by
    induction results with
    | nil => rfl
    | cons result rest inductionHypothesis =>
      rw [List.map_cons, Value.allWritable, result.isWritable_document, inductionHypothesis]
      rfl
  simp [record, isWritable, Value.isWritable, Value.allEntriesWritable, Value.isName,
    Moment.isWritable_document, listed, Bool.and_assoc]

end Execution

/-! ## Equality -/

theorem Moment.sameTime_self (time : Option Moment) : sameTime time time = true := by
  cases time with
  | none => rfl
  | some m => simp [sameTime, Value.same, Value.leafSame, Value.leaf?]

theorem StepError.sameAs_reread_iff {error : StepError} (data : error.isData = true)
    (writable : error.isWritable = true) :
    error.reread.sameAs error = true ↔ error.hasForm = true := by
  rw [isData, Bool.and_eq_true] at data
  rw [isWritable, Bool.and_eq_true] at writable
  rw [sameAs, hasForm, Bool.and_eq_true, Bool.and_eq_true]
  exact and_congr (Value.same_reread_iff data.1 writable.1)
    (Value.same_reread_iff data.2 writable.2)

/-- A result is reread as an equal one when all that it holds are JSON values. -/
theorem StepResult.sameAs_reread_iff {result : StepResult} (data : result.isData = true)
    (writable : result.isWritable = true) (timed : result.isTimed = true) :
    result.reread.sameAs result = true ↔ result.hasForm = true := by
  simp only [isData, Bool.and_eq_true] at data
  simp only [isWritable, Bool.and_eq_true] at writable
  simp only [isTimed, Bool.and_eq_true] at timed
  rw [hasForm_iff]
  obtain ⟨stepId, status, output, error, startedAt, finishedAt⟩ := result
  cases error with
  | none =>
    simp [sameAs, reread, Moment.sameTime_self, Value.same_reread_iff data.1.1 writable.1.1,
      Value.same_reread_iff data.1.2 writable.1.2, timed]
  | some error =>
    have told := @StepError.sameAs_reread_iff error data.2 writable.2
    simp [sameAs, reread, Moment.sameTime_self, Value.same_reread_iff data.1.1 writable.1.1,
      Value.same_reread_iff data.1.2 writable.1.2, timed, told, and_assoc]

/-- Results are reread as equal ones, one by one. -/
theorem StepResult.all_sameAs_reread_iff {results : List StepResult}
    (data : ∀ result ∈ results, result.isData = true)
    (writable : ∀ result ∈ results, result.isWritable = true)
    (timed : ∀ result ∈ results, result.isTimed = true) :
    ((results.map reread).zip results).all (fun (r, r') => r.sameAs r') = true ↔
      ∀ result ∈ results, result.hasForm = true := by
  induction results with
  | nil => simp
  | cons result rest inductionHypothesis =>
    rw [List.forall_mem_cons] at data writable timed
    rw [List.map_cons, List.zip_cons_cons, List.all_cons, Bool.and_eq_true, List.forall_mem_cons,
      inductionHypothesis data.2 writable.2 timed.2,
      sameAs_reread_iff data.1 writable.1 timed.1]

/-- A record is reread as an equal one when all that it holds are JSON values. -/
theorem Execution.sameAs_reread_iff {execution : Execution} (data : execution.isData = true)
    (writable : execution.isWritable = true) (timed : execution.isTimed = true) :
    execution.reread.sameAs execution = true ↔ execution.hasForm = true := by
  simp only [isData, Bool.and_eq_true, List.all_eq_true] at data
  simp only [isWritable, Bool.and_eq_true, List.all_eq_true] at writable
  simp only [isTimed, Bool.and_eq_true, List.all_eq_true] at timed
  obtain ⟨⟨⟨⟨⟨id, workflow⟩, input⟩, outputs⟩, results⟩, error⟩ := data
  obtain ⟨⟨⟨⟨⟨id', workflow'⟩, input'⟩, outputs'⟩, results'⟩, error'⟩ := writable
  obtain ⟨⟨results'', started⟩, finished⟩ := timed
  rw [hasForm_iff]
  simp only [sameAs, reread, Bool.and_eq_true, Value.same_reread_iff id id',
    Value.same_reread_iff workflow workflow', Value.same_reread_iff input input',
    Value.same_reread_iff outputs outputs', Value.same_reread_iff error error',
    StepResult.all_sameAs_reread_iff results results' results'', Moment.sameTime_self, started,
    finished, List.length_map, decide_true, and_true, true_and, and_assoc]

end Stepwise
