import Stepwise.Proofs.Execution.Reread
import Stepwise.Proofs.Value.Obstacle

/-!
# What keeps a document from being written

The document of a record is made with copies of its input and of its outputs, and then written.
Objects are never written, and a value without objects can be copied and is its own copy. So copying
changes nothing about what can be written, but where an object is in the way, it may be met first in
copying.
-/

namespace Stepwise

namespace Value

mutual

/-- A value is in the way of writing before it is copied and after. -/
theorem isWritable_copied : ∀ v : Value, v.copied.isWritable = v.isWritable
  | .list items | .tuple items => by
    rw [copied, isWritable, isWritable, allWritable_copiedItems items]
  | .map entries => by rw [copied, isWritable, isWritable, allEntriesWritable_copiedEntries entries]
  | .set _ | .object _ _ _ | .faulty _ _ => by simp only [copied, isWritable]
  | .null | .bool _ | .int _ | .float _ | .str _ | .bytes _ | .date _ | .moment _ | .callable
  | .endless _ _ => by rw [copied]; all_goals exact nofun

theorem allWritable_copiedItems : ∀ items : List Value,
    allWritable (copiedItems items) = allWritable items
  | [] => rfl
  | item :: rest => by
    rw [copiedItems, allWritable, allWritable, isWritable_copied item, allWritable_copiedItems rest]

theorem allEntriesWritable_copiedEntries : ∀ entries : List (Value × Value),
    allEntriesWritable (copiedEntries entries) = allEntriesWritable entries
  | [] => rfl
  | (key, content) :: rest => by
    have name : key.copied.isName = key.isName := by cases key <;> simp [copied, isName]
    rw [copiedEntries, allEntriesWritable, allEntriesWritable, name, isWritable_copied content,
      allEntriesWritable_copiedEntries rest]

end

theorem obstacle?_of_isName {key : Value} (name : key.isName = true) : key.obstacle? = none := by
  cases key <;> first | rfl | cases name

mutual

/-- There is no object in what can be written, so nothing keeps it from being copied. -/
theorem obstacle?_of_isWritable : ∀ v : Value, v.isWritable = true → v.obstacle? = none
  | .list items, writable | .tuple items, writable => by
    rw [isWritable] at writable
    rw [obstacle?]
    exact itemObstacle?_of_allWritable items writable
  | .map entries, writable => by
    rw [isWritable] at writable
    rw [obstacle?]
    exact entryObstacle?_of_allEntriesWritable entries writable
  | .null, _ | .bool _, _ | .int _, _ | .float _, _ | .str _, _ => by simp only [obstacle?]
  | .bytes _, writable | .set _, writable | .date _, writable | .moment _, writable
  | .object _ _ _, writable | .callable, writable | .faulty _ _, writable
  | .endless _ _, writable => by simp [isWritable] at writable

theorem itemObstacle?_of_allWritable : ∀ items : List Value, allWritable items = true →
    itemObstacle? items = none
  | [], _ => rfl
  | item :: rest, writable => by
    rw [allWritable, Bool.and_eq_true] at writable
    rw [itemObstacle?, obstacle?_of_isWritable item writable.1,
      itemObstacle?_of_allWritable rest writable.2]
    rfl

theorem entryObstacle?_of_allEntriesWritable : ∀ entries : List (Value × Value),
    allEntriesWritable entries = true → entryObstacle? entries = none
  | [], _ => rfl
  | (key, content) :: rest, writable => by
    simp only [allEntriesWritable, Bool.and_eq_true] at writable
    obtain ⟨⟨name, body⟩, others⟩ := writable
    rw [entryObstacle?, obstacle?_of_isWritable content body, obstacle?_of_isName name,
      entryObstacle?_of_allEntriesWritable rest others]
    rfl

end

theorem copied_of_isName {key : Value} (name : key.isName = true) : key.copied = key := by
  cases key with
  | null | bool _ | int _ | float _ | str _ => rw [copied]; all_goals exact nofun
  | _ => cases name

mutual

/-- So it is its own copy. -/
theorem copied_of_isWritable : ∀ v : Value, v.isWritable = true → v.copied = v
  | .list items, writable | .tuple items, writable => by
    rw [isWritable] at writable
    rw [copied, copiedItems_of_allWritable items writable]
  | .map entries, writable => by
    rw [isWritable] at writable
    rw [copied, copiedEntries_of_allEntriesWritable entries writable]
  | .null, _ | .bool _, _ | .int _, _ | .float _, _ | .str _, _ => by
    rw [copied]
    all_goals exact nofun
  | .bytes _, writable | .set _, writable | .date _, writable | .moment _, writable
  | .object _ _ _, writable | .callable, writable | .faulty _ _, writable
  | .endless _ _, writable => by simp [isWritable] at writable

theorem copiedItems_of_allWritable : ∀ items : List Value, allWritable items = true →
    copiedItems items = items
  | [], _ => rfl
  | item :: rest, writable => by
    rw [allWritable, Bool.and_eq_true] at writable
    rw [copiedItems, copied_of_isWritable item writable.1,
      copiedItems_of_allWritable rest writable.2]

theorem copiedEntries_of_allEntriesWritable : ∀ entries : List (Value × Value),
    allEntriesWritable entries = true → copiedEntries entries = entries
  | [], _ => rfl
  | (key, content) :: rest, writable => by
    simp only [allEntriesWritable, Bool.and_eq_true] at writable
    obtain ⟨⟨name, body⟩, others⟩ := writable
    rw [copiedEntries, copied_of_isName name, copied_of_isWritable content body,
      copiedEntries_of_allEntriesWritable rest others]

end

end Value

namespace Execution

variable {execution : Execution}

/-- What is met first when the input of a record and then its outputs are copied. -/
def copyFault? (execution : Execution) : Option Fault :=
  execution.input.obstacle?.or execution.outputs.obstacle?

theorem copyFault?_of_isWritable (writable : execution.isWritable = true) :
    execution.copyFault? = none := by
  simp only [isWritable, Bool.and_eq_true] at writable
  obtain ⟨⟨⟨⟨-, input⟩, outputs⟩, -⟩, -⟩ := writable
  rw [copyFault?, Value.obstacle?_of_isWritable _ input, Value.obstacle?_of_isWritable _ outputs]
  rfl

/-- The document of a record is that of the record with copies of its input and of its outputs. -/
theorem document_eq (execution : Execution) :
    execution.document = Fault.barring execution.copyFault?
      { execution with
        input := execution.input.copied
        outputs := execution.outputs.copied }.record := by
  rw [document, copyFault?, Value.copy, Value.copy]
  cases execution.input.obstacle? with
  | some f => rfl
  | none =>
    cases execution.outputs.obstacle? with
    | some f => rfl
    | none => rfl

/-- The document of a record that can be written holds the values themselves. -/
theorem document_of_isWritable (writable : execution.isWritable = true) :
    execution.document = .ok execution.record := by
  have free := copyFault?_of_isWritable writable
  simp only [isWritable, Bool.and_eq_true] at writable
  obtain ⟨⟨⟨⟨-, input⟩, outputs⟩, -⟩, -⟩ := writable
  rw [document_eq, free, Value.copied_of_isWritable _ input, Value.copied_of_isWritable _ outputs]
  rfl

/-- The document of a record is written when all values in it can be, and only then. -/
theorem isOk_document_bind (execution : Execution) :
    (execution.document >>= Json.document).isOk = execution.isWritable := by
  rw [document_eq]
  cases met : execution.copyFault? with
  | some f =>
    cases writable : execution.isWritable with
    | false => rfl
    | true =>
      rw [copyFault?_of_isWritable writable] at met
      cases met
  | none =>
    simp only [Fault.barring, bind, Except.bind]
    rw [Json.document, Json.isOk_write, isWritable_record, isWritable, isWritable,
      Value.isWritable_copied, Value.isWritable_copied]

end Execution

end Stepwise
