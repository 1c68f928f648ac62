import Stepwise.Execution.Document
import Stepwise.Proofs.Execution.Copy
import Stepwise.Proofs.Json.Forms
import Stepwise.Proofs.Time.Iso

/-!
# Records of JSON values

When all that a record holds are JSON values and universal times, then nothing is lost by keeping
it: its copy is the record itself, and so is what its document is read as.
-/

namespace Stepwise

/-- A moment in universal time. -/
def Moment.isUniversal (m : Moment) : Bool := m.isValid && m.offset = some 0

/-- Both times of a result are universal, as far as it has them. -/
def StepResult.isTimed (result : StepResult) : Bool :=
  result.startedAt.all Moment.isUniversal && result.finishedAt.all Moment.isUniversal

/-- All times of a record and of its results are universal. -/
def Execution.isTimed (execution : Execution) : Bool :=
  execution.results.all StepResult.isTimed && execution.startedAt.all Moment.isUniversal &&
    execution.finishedAt.all Moment.isUniversal

/-- Both times of a result can be told, as far as it has them. -/
def StepResult.isTold (result : StepResult) : Bool :=
  result.startedAt.all Moment.isTold && result.finishedAt.all Moment.isTold

/-- All times of a record and of its results can be told. -/
def Execution.isTold (execution : Execution) : Bool :=
  execution.results.all StepResult.isTold && execution.startedAt.all Moment.isTold &&
    execution.finishedAt.all Moment.isTold

/-- Both times of a result are in the calendar, as far as it has them. -/
def StepResult.isDated (result : StepResult) : Bool :=
  result.startedAt.all Moment.isValid && result.finishedAt.all Moment.isValid

/-- All times of a record and of its results are in the calendar. -/
def Execution.isDated (execution : Execution) : Bool :=
  execution.results.all StepResult.isDated && execution.startedAt.all Moment.isValid &&
    execution.finishedAt.all Moment.isValid

/-- The result with its times as ISO times tell them. -/
def StepResult.restated (result : StepResult) : StepResult :=
  { result with
    startedAt := result.startedAt.map Moment.restated
    finishedAt := result.finishedAt.map Moment.restated }

/-- The record with all times as ISO times tell them. -/
def Execution.restated (execution : Execution) : Execution :=
  { execution with
    results := execution.results.map StepResult.restated
    startedAt := execution.startedAt.map Moment.restated
    finishedAt := execution.finishedAt.map Moment.restated }

/-- Both texts of an error are JSON values. -/
def StepError.hasForm (error : StepError) : Bool := error.kind.isJson && error.message.isJson

/-- All that a result holds are JSON values and universal times. -/
def StepResult.hasForm (result : StepResult) : Bool :=
  result.stepId.isJson && result.output.isJson && result.error.all StepError.hasForm &&
    result.startedAt.all Moment.isUniversal && result.finishedAt.all Moment.isUniversal

/-- All that a record holds are JSON values and universal times. -/
def Execution.hasForm (execution : Execution) : Bool :=
  execution.id.isJson && execution.workflow.isJson && execution.input.isJson &&
    execution.outputs.isJson && execution.results.all StepResult.hasForm &&
    execution.startedAt.all Moment.isUniversal && execution.finishedAt.all Moment.isUniversal &&
    execution.error.isJson

/-- The document of a record whose parts are their own copies. -/
def Execution.record (execution : Execution) : Value :=
  .map [(.str "id", execution.id), (.str "workflow_id", execution.workflow),
    (.str "status", .str execution.status.name), (.str "input", execution.input),
    (.str "outputs", execution.outputs),
    (.str "step_results", .list (execution.results.map StepResult.document)),
    (.str "started_at", Moment.document execution.startedAt),
    (.str "finished_at", Moment.document execution.finishedAt),
    (.str "error", execution.error)]

/-! ## Parts -/

theorem Moment.isTold_of_isUniversal {m : Moment} (universal : m.isUniversal = true) :
    m.isTold = true := by
  rw [isUniversal, Bool.and_eq_true, decide_eq_true_eq] at universal
  rw [isTold, universal.1, universal.2]
  rfl

theorem Moment.all_isTold {time : Option Moment} (universal : time.all isUniversal = true) :
    time.all isTold = true := by
  cases time with
  | none => rfl
  | some m => exact isTold_of_isUniversal universal

/-- What the document of a time tells is read back, and so is that there is none. -/
theorem Moment.ofDocument?_document {time : Option Moment} (valid : time.all isValid = true) :
    ofDocument? (document time) = .ok (time.map restated) := by
  cases time with
  | none => rfl
  | some m =>
    rw [Option.all_some] at valid
    have some : (Value.str m.iso).truthy = true := by
      have chars : m.iso ≠ "" := by
        rw [iso]
        simp [← String.toList_inj, Moment.chars]
      simp [Value.truthy, chars]
    simp [ofDocument?, document, some, Iso.read_iso_of_isValid valid]

/-- Times that can be told are in the calendar, and what is told of them are the times. -/
theorem Moment.all_restated {time : Option Moment} (told : time.all isTold = true) :
    time.all isValid = true ∧ time.map restated = time := by
  cases time with
  | none => exact ⟨rfl, rfl⟩
  | some m =>
    rw [Option.all_some] at told
    exact ⟨(Bool.and_eq_true_iff.mp told).1, congrArg some (restated_of_isTold told)⟩

theorem Moment.isJson_document (time : Option Moment) : (Moment.document time).isJson = true := by
  cases time <;> simp [document, Value.isJson]

theorem Status.ofValue_name (status : Status) : Status.ofValue (.str status.name) = .ok status := by
  cases status <;> rfl

theorem StepStatus.ofValue_name (status : StepStatus) :
    StepStatus.ofValue (.str status.name) = .ok status := by
  cases status <;> rfl

theorem StepError.ofDocument_document (error : StepError) :
    StepError.ofDocument error.document = .ok error := by
  simp [document, ofDocument, Value.subscript, Value.opened, Value.hashable, Value.unhashable?,
    Value.getOr, Value.get?, Table.find?]
  rfl

namespace StepResult

variable {result : StepResult}

theorem hasForm_iff : result.hasForm = true ↔
    result.stepId.isJson = true ∧ result.output.isJson = true ∧
      result.error.all StepError.hasForm = true ∧
      result.startedAt.all Moment.isUniversal = true ∧
      result.finishedAt.all Moment.isUniversal = true := by
  simp only [hasForm, Bool.and_eq_true, and_assoc]

theorem isTimed_of_hasForm (form : result.hasForm = true) : result.isTimed = true := by
  obtain ⟨-, -, -, started, finished⟩ := hasForm_iff.mp form
  rw [isTimed, started, finished]
  rfl

theorem isTold_of_isTimed (timed : result.isTimed = true) : result.isTold = true := by
  rw [isTimed, Bool.and_eq_true] at timed
  rw [isTold, Bool.and_eq_true]
  exact timed.imp Moment.all_isTold Moment.all_isTold

/-- What the document of a result tells is read back. -/
theorem ofDocument_document (dated : result.isDated = true) :
    ofDocument result.document = .ok result.restated := by
  rw [isDated, Bool.and_eq_true] at dated
  obtain ⟨started, finished⟩ := dated
  have started' := Moment.ofDocument?_document started
  have finished' := Moment.ofDocument?_document finished
  have named := StepStatus.ofValue_name result.status
  obtain ⟨stepId, status, output, error, startedAt, finishedAt⟩ := result
  cases error with
  | none =>
    simp [document, ofDocument, Value.subscript, Value.opened, Value.hashable, Value.unhashable?,
      Value.getOr, Value.get?, Table.find?, bind, Except.bind, pure, Except.pure, named, started',
      finished', Value.ofOption, Value.truthy, restated]
  | some error =>
    have told : (Value.ofOption (some error.document)).truthy = true := by
      simp [StepError.document, Value.ofOption, Value.truthy]
    simp [document, ofDocument, Value.subscript, Value.opened, Value.hashable, Value.unhashable?,
      Value.getOr, Value.get?, Table.find?, bind, Except.bind, pure, Except.pure, named, started',
      finished', told, restated]
    simp [Value.ofOption, StepError.ofDocument_document]

/-- What can be told of a result is all there is to it. -/
theorem restated_of_isTold (told : result.isTold = true) :
    result.isDated = true ∧ result.restated = result := by
  rw [isTold, Bool.and_eq_true] at told
  obtain ⟨started, same⟩ := Moment.all_restated told.1
  obtain ⟨finished, same'⟩ := Moment.all_restated told.2
  rw [isDated, restated, started, finished, same, same']
  exact ⟨rfl, rfl⟩

theorem isJson_document (form : result.hasForm = true) : result.document.isJson = true := by
  obtain ⟨stepId, output, error, -, -⟩ := hasForm_iff.mp form
  have told : (Value.ofOption (result.error.map StepError.document)).isJson = true := by
    cases stated : result.error with
    | none => rfl
    | some error' =>
      rw [stated, Option.all_some, StepError.hasForm, Bool.and_eq_true] at error
      simp [Value.ofOption, StepError.document, Value.isJson, Value.allEntriesJson, Value.isText,
        Table.contains, Table.find?, error]
  simp [document, Value.isJson, Value.allEntriesJson, Value.isText, Table.contains, Table.find?,
    stepId, output, told, Moment.isJson_document]

theorem obstacle?_of_hasForm (form : result.hasForm = true) : result.obstacle? = none := by
  obtain ⟨stepId, output, error, -, -⟩ := hasForm_iff.mp form
  rw [obstacle?, Value.obstacle?_of_isJson _ stepId, Value.obstacle?_of_isJson _ output]
  cases stated : result.error with
  | none => rfl
  | some error' =>
    rw [stated, Option.all_some, StepError.hasForm, Bool.and_eq_true] at error
    simp [Value.obstacle?_of_isJson _ error.1, Value.obstacle?_of_isJson _ error.2]

theorem copied_of_hasForm (form : result.hasForm = true) : result.copied = result := by
  obtain ⟨named, given, told, -, -⟩ := hasForm_iff.mp form
  obtain ⟨stepId, status, output, error, startedAt, finishedAt⟩ := result
  rw [copied, Value.copied_of_isJson _ named, Value.copied_of_isJson _ given]
  cases error with
  | none => rfl
  | some error =>
    simp only [Option.all_some, StepError.hasForm, Bool.and_eq_true] at told
    simp [Value.copied_of_isJson _ told.1, Value.copied_of_isJson _ told.2]

end StepResult

/-! ## Records -/

namespace Execution

variable {execution : Execution}

theorem hasForm_iff : execution.hasForm = true ↔
    execution.id.isJson = true ∧ execution.workflow.isJson = true ∧
      execution.input.isJson = true ∧ execution.outputs.isJson = true ∧
      (∀ result ∈ execution.results, result.hasForm = true) ∧
      execution.startedAt.all Moment.isUniversal = true ∧
      execution.finishedAt.all Moment.isUniversal = true ∧ execution.error.isJson = true := by
  simp only [hasForm, Bool.and_eq_true, List.all_eq_true, and_assoc]

/-- The copy of a record of JSON values is the record. -/
theorem snapshot_of_hasForm (form : execution.hasForm = true) :
    execution.snapshot = .ok execution := by
  obtain ⟨id, workflow, input, outputs, results, -, -, error⟩ := hasForm_iff.mp form
  have free : execution.obstacle? = none := by
    refine obstacle?_eq_none.mpr ⟨Value.obstacle?_of_isJson _ id, Value.obstacle?_of_isJson _ workflow,
      Value.obstacle?_of_isJson _ input, Value.obstacle?_of_isJson _ outputs, ?_,
      Value.obstacle?_of_isJson _ error⟩
    exact fun result member => StepResult.obstacle?_of_hasForm (results result member)
  have same : execution.results.map StepResult.copied = execution.results :=
    (List.map_congr_left fun result member =>
      StepResult.copied_of_hasForm (results result member)).trans (List.map_id' _)
  rw [snapshot, free, copied, Value.copied_of_isJson _ id, Value.copied_of_isJson _ workflow,
    Value.copied_of_isJson _ input, Value.copied_of_isJson _ outputs,
    Value.copied_of_isJson _ error, same]
  rfl

/-- The document of a record of JSON values is made of its parts as they are. -/
theorem document_of_hasForm (form : execution.hasForm = true) :
    execution.document = .ok execution.record := by
  obtain ⟨-, -, input, outputs, -⟩ := hasForm_iff.mp form
  rw [document, Value.copy_of_isData (Value.isData_of_isJson _ input),
    Value.copy_of_isData (Value.isData_of_isJson _ outputs)]
  rfl

theorem isJson_record (form : execution.hasForm = true) : execution.record.isJson = true := by
  obtain ⟨id, workflow, input, outputs, results, -, -, error⟩ := hasForm_iff.mp form
  have listed : Value.allJson (execution.results.map StepResult.document) = true := by
    generalize execution.results = list at results
    induction list with
    | nil => rfl
    | cons result rest inductionHypothesis =>
      rw [List.map_cons, Value.allJson, StepResult.isJson_document (results result
        List.mem_cons_self), inductionHypothesis fun other member =>
          results other (List.mem_cons_of_mem result member)]
      rfl
  simp [record, Value.isJson, Value.allEntriesJson, Value.isText, Table.contains, Table.find?, id,
    workflow, input, outputs, listed, error, Moment.isJson_document]

theorem isTimed_of_hasForm (form : execution.hasForm = true) : execution.isTimed = true := by
  obtain ⟨-, -, -, -, results, started, finished, -⟩ := hasForm_iff.mp form
  rw [isTimed, started, finished, List.all_eq_true.mpr fun result member =>
    StepResult.isTimed_of_hasForm (results result member)]
  rfl

theorem isTold_of_isTimed (timed : execution.isTimed = true) : execution.isTold = true := by
  simp only [isTimed, Bool.and_eq_true, List.all_eq_true] at timed
  simp only [isTold, Bool.and_eq_true, List.all_eq_true]
  obtain ⟨⟨results, started⟩, finished⟩ := timed
  exact ⟨⟨fun result member => StepResult.isTold_of_isTimed (results result member),
    Moment.all_isTold started⟩, Moment.all_isTold finished⟩

/-- What the document of a record tells is read back. -/
theorem ofDocument_record_of_isDated (dated : execution.isDated = true) :
    ofDocument execution.record = .ok execution.restated := by
  simp only [isDated, Bool.and_eq_true, List.all_eq_true] at dated
  obtain ⟨⟨results, started⟩, finished⟩ := dated
  have started' := Moment.ofDocument?_document started
  have finished' := Moment.ofDocument?_document finished
  have named := Status.ofValue_name execution.status
  have listed : (execution.results.map StepResult.document).mapM StepResult.ofDocument =
      .ok (execution.results.map StepResult.restated) := by
    generalize execution.results = list at results
    induction list with
    | nil => rfl
    | cons result rest inductionHypothesis =>
      rw [List.map_cons, List.mapM_cons, StepResult.ofDocument_document (results result
        List.mem_cons_self), inductionHypothesis fun other member =>
          results other (List.mem_cons_of_mem result member)]
      rfl
  simp [record, ofDocument, Value.subscript, Value.opened, Value.hashable, Value.unhashable?,
    Value.getOr, Value.get?, Table.find?, Value.items, bind, Except.bind, pure, Except.pure, named,
    started', finished', listed, restated]

/-- What can be told of a record is all there is to it. -/
theorem restated_of_isTold (told : execution.isTold = true) :
    execution.isDated = true ∧ execution.restated = execution := by
  simp only [isTold, Bool.and_eq_true, List.all_eq_true] at told
  obtain ⟨⟨results, started⟩, finished⟩ := told
  obtain ⟨started, same⟩ := Moment.all_restated started
  obtain ⟨finished, same'⟩ := Moment.all_restated finished
  have dated : execution.results.all StepResult.isDated = true := List.all_eq_true.mpr
    fun result member => (StepResult.restated_of_isTold (results result member)).1
  have listed : execution.results.map StepResult.restated = execution.results :=
    (List.map_congr_left fun result member =>
      (StepResult.restated_of_isTold (results result member)).2).trans (List.map_id' _)
  rw [isDated, restated, dated, started, finished, listed, same, same']
  exact ⟨rfl, rfl⟩

/-- A record whose times can be told is read back from its document. -/
theorem ofDocument_record_of_isTold (told : execution.isTold = true) :
    ofDocument execution.record = .ok execution := by
  obtain ⟨dated, same⟩ := restated_of_isTold told
  rw [ofDocument_record_of_isDated dated, same]

theorem ofDocument_record (timed : execution.isTimed = true) :
    ofDocument execution.record = .ok execution :=
  ofDocument_record_of_isTold (isTold_of_isTimed timed)

end Execution

end Stepwise
