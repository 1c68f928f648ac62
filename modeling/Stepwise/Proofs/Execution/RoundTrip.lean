import Stepwise.Proofs.Execution.Lifecycle
import Stepwise.Proofs.Execution.Reread
import Stepwise.Proofs.Value.Key

/-!
# Executions come back from their documents

Two things could be lost in a document: a value, because it is not the same as its copy, and a time,
because its text is read as another one. Data is its own copy. The times that a text can state are
read back from their ISO form, and an execution has no other times as long as none is brought in:
the ones that it starts with, be it created or read, and those of the calls on it. So an execution
of data comes back as it was.
-/

namespace Stepwise

/-- A moment that some text states. -/
def Moment.IsStated (m : Moment) : Prop := ∃ source, Iso.read source = .ok m

/-- The moments that texts state are those that the ISO form can tell. -/
theorem Moment.isStated_iff {m : Moment} : m.IsStated ↔ m.isTold = true :=
  ⟨fun ⟨_, found⟩ => Iso.isTold_of_read found, fun told => ⟨m.iso, Iso.read_iso told⟩⟩

/-- The times that a call brings in. -/
def Change.times : Change → List Moment
  | transition _ now => [now]
  | addResult result => result.startedAt.toList ++ result.finishedAt.toList
  | bindOutput _ _ => []

/-- An execution that was created or read and then used: calls were made on it, whether they
returned or not, and copies of it were taken and used in its place. All times in it could be stated
by a text, in whatever form. -/
inductive Execution.Obtained : Execution → Prop
  | created {id workflow input : Value} {now : Moment} {execution : Execution}
      (stated : now.IsStated) (made : create id workflow input now = .ok execution) :
      Obtained execution
  | read {document : Value} {execution : Execution} (found : ofDocument document = .ok execution) :
      Obtained execution
  | changed {execution : Execution} {change : Change} (before : Obtained execution)
      (stated : ∀ time ∈ change.times, time.IsStated) : Obtained (change.left execution)
  | copied {execution copy : Execution} (before : Obtained execution)
      (taken : execution.snapshot = .ok copy) : Obtained copy

/-! ## Times that are read -/

theorem Moment.all_isTold_of_ofDocument? {v : Value} {time : Option Moment}
    (found : ofDocument? v = .ok time) : time.all isTold = true := by
  unfold ofDocument? at found
  split at found
  · cases found
    rfl
  · split at found
    · split at found
      · rename_i read
        cases found
        exact Iso.isTold_of_read read
      · cases found
    · cases found

/-- The times of a result are the last that is read of it. -/
theorem StepResult.isTold_of_times {v stepId output : Value} {status : StepStatus}
    {error : Option StepError} {result : StepResult}
    (found : (do
      let started ← v.getOr "started_at" .null
      let startedAt ← Moment.ofDocument? started
      let finished ← v.getOr "finished_at" .null
      let finishedAt ← Moment.ofDocument? finished
      return StepResult.mk stepId status output error startedAt finishedAt) = .ok result) :
    result.isTold = true := by
  obtain ⟨started, -, found⟩ := Result.bind_ok found
  obtain ⟨startedAt, start, found⟩ := Result.bind_ok found
  obtain ⟨finished, -, found⟩ := Result.bind_ok found
  obtain ⟨finishedAt, finish, found⟩ := Result.bind_ok found
  cases found
  rw [isTold, Moment.all_isTold_of_ofDocument? start, Moment.all_isTold_of_ofDocument? finish]
  rfl

theorem StepResult.isTold_of_ofDocument {v : Value} {result : StepResult}
    (found : ofDocument v = .ok result) : result.isTold = true := by
  unfold ofDocument at found
  obtain ⟨stepId, -, found⟩ := Result.bind_ok found
  obtain ⟨named, -, found⟩ := Result.bind_ok found
  obtain ⟨status, -, found⟩ := Result.bind_ok found
  obtain ⟨output, -, found⟩ := Result.bind_ok found
  obtain ⟨recorded, -, found⟩ := Result.bind_ok found
  split at found
  · obtain ⟨stated, -, found⟩ := Result.bind_ok found
    obtain ⟨error, -, found⟩ := Result.bind_ok found
    exact isTold_of_times found
  · obtain ⟨error, -, found⟩ := Result.bind_ok found
    exact isTold_of_times found

theorem Result.forall_of_mapM {α β : Type} {act : α → Except Fault β} {holds : β → Prop}
    (each : ∀ a b, act a = .ok b → holds b) {items : List α} {results : List β}
    (made : items.mapM act = .ok results) : ∀ b ∈ results, holds b := by
  induction items generalizing results with
  | nil =>
    cases made
    simp
  | cons a rest inductionHypothesis =>
    rw [List.mapM_cons] at made
    obtain ⟨b, one, made⟩ := Result.bind_ok made
    obtain ⟨others, more, made⟩ := Result.bind_ok made
    cases made
    exact List.forall_mem_cons.mpr ⟨each a b one, inductionHypothesis more⟩

namespace Execution

variable {execution : Execution}

theorem isTold_iff : execution.isTold = true ↔
    (∀ result ∈ execution.results, result.isTold = true) ∧
      execution.startedAt.all Moment.isTold = true ∧
      execution.finishedAt.all Moment.isTold = true := by
  simp only [isTold, Bool.and_eq_true, List.all_eq_true, and_assoc]

/-- All times of an execution that was read can be told. -/
theorem isTold_of_ofDocument {v : Value} (found : ofDocument v = .ok execution) :
    execution.isTold = true := by
  unfold ofDocument at found
  obtain ⟨id, -, found⟩ := Result.bind_ok found
  obtain ⟨workflow, -, found⟩ := Result.bind_ok found
  obtain ⟨named, -, found⟩ := Result.bind_ok found
  obtain ⟨status, -, found⟩ := Result.bind_ok found
  obtain ⟨input, -, found⟩ := Result.bind_ok found
  obtain ⟨outputs, -, found⟩ := Result.bind_ok found
  obtain ⟨listed, -, found⟩ := Result.bind_ok found
  obtain ⟨documents, -, found⟩ := Result.bind_ok found
  obtain ⟨results, each, found⟩ := Result.bind_ok found
  obtain ⟨started, -, found⟩ := Result.bind_ok found
  obtain ⟨startedAt, start, found⟩ := Result.bind_ok found
  obtain ⟨finished, -, found⟩ := Result.bind_ok found
  obtain ⟨finishedAt, finish, found⟩ := Result.bind_ok found
  obtain ⟨error, -, found⟩ := Result.bind_ok found
  cases found
  exact isTold_iff.mpr ⟨Result.forall_of_mapM (fun _ _ => StepResult.isTold_of_ofDocument) each,
    Moment.all_isTold_of_ofDocument? start, Moment.all_isTold_of_ofDocument? finish⟩

/-! ## Times that are kept -/

theorem isTold_of_create {id workflow input : Value} {now : Moment} (told : now.isTold = true)
    (made : create id workflow input now = .ok execution) : execution.isTold = true := by
  unfold create at made
  split at made
  all_goals
    obtain ⟨given, -, made⟩ := Result.bind_ok made
    cases made
    exact isTold_iff.mpr ⟨by simp, told, rfl⟩

/-- A call that succeeds adds no times but its own. -/
theorem isTold_of_outcome {change : Change} {changed : Execution}
    (told : execution.isTold = true) (own : ∀ time ∈ change.times, time.isTold = true)
    (came : change.outcome execution = .ok changed) : changed.isTold = true := by
  obtain ⟨results, started, finished⟩ := isTold_iff.mp told
  cases change with
  | transition next now =>
    rw [Change.outcome, transition] at came
    split at came
    · cases came
      refine isTold_iff.mpr ⟨results, started, ?_⟩
      dsimp only
      split
      · exact own now (by simp [Change.times])
      · exact finished
    · obtain ⟨id, -, came⟩ := Result.bind_ok came
      cases came
  | addResult result =>
    rw [Change.outcome, addResult] at came
    split at came
    · obtain ⟨id, -, came⟩ := Result.bind_ok came
      obtain ⟨step, -, came⟩ := Result.bind_ok came
      cases came
    · cases came
      have added : result.isTold = true := by
        rw [StepResult.isTold, Bool.and_eq_true, Option.all_eq_true, Option.all_eq_true]
        exact ⟨fun time given => own time (by simp [Change.times, given]),
          fun time given => own time (by simp [Change.times, given])⟩
      refine isTold_iff.mpr ⟨?_, started, finished⟩
      exact List.forall_mem_append.mpr ⟨results, by simpa using added⟩
  | bindOutput name output =>
    rw [Change.outcome, bindOutput] at came
    obtain ⟨outputs, -, came⟩ := Result.bind_ok came
    cases came
    exact told

theorem isTold_left {change : Change} (told : execution.isTold = true)
    (own : ∀ time ∈ change.times, time.isTold = true) : (change.left execution).isTold = true := by
  rw [Change.left, Change.runOn_make]
  split
  · rename_i came
    exact isTold_of_outcome told own came
  · exact told

theorem isTold_of_snapshot {copy : Execution} (told : execution.isTold = true)
    (taken : execution.snapshot = .ok copy) : copy.isTold = true := by
  unfold snapshot Fault.barring at taken
  split at taken
  · cases taken
  · cases taken
    obtain ⟨results, times⟩ := isTold_iff.mp told
    refine isTold_iff.mpr ⟨fun result member => ?_, times⟩
    obtain ⟨original, known, rfl⟩ := List.mem_map.mp member
    exact results original known

/-- An execution that was obtained has no times but those that can be told. -/
theorem Obtained.isTold (obtained : Obtained execution) : execution.isTold = true := by
  induction obtained with
  | created stated made => exact isTold_of_create (Moment.isStated_iff.mp stated) made
  | read found => exact isTold_of_ofDocument found
  | changed before stated told =>
    exact isTold_left told fun time member => Moment.isStated_iff.mp (stated time member)
  | copied before taken told => exact isTold_of_snapshot told taken

/-! ## There and back -/

end Execution

namespace Execution

variable {execution : Execution}

namespace Sample

/-- A document with a date for a time of day, an offset of minutes and seconds, and an error without
a message. -/
def foreign : Value :=
  .map [(.str "id", .int 7), (.str "workflow_id", .null), (.str "status", .str "running"),
    (.str "started_at", .str "2024-02-29"),
    (.str "step_results", .list [.map [(.str "step_id", .tuple [.bool true]),
      (.str "status", .str "failed"), (.str "error", .map [(.str "type", .str "ValueError")]),
      (.str "started_at", .str "20240301T103015,25-05:30:15"), (.str "finished_at", .str "")]])]

/-- What it is read as. -/
def told : Execution where
  id := .int 7
  workflow := .null
  status := .running
  input := .map []
  outputs := .map []
  results := [⟨.tuple [.bool true], .failed, .null, some ⟨.str "ValueError", .str ""⟩,
    some ⟨⟨2024, 3, 1⟩, 10, 30, 15, 250000, some (-19815000000)⟩, none⟩]
  startedAt := some ⟨⟨2024, 2, 29⟩, 0, 0, 0, 0, none⟩
  finishedAt := none
  error := .null

/-- The calls with which it ends. -/
def closing : List Change := [.bindOutput (.str "late") (.int 1), .transition .failed noon]

end Sample

end Execution

end Stepwise
