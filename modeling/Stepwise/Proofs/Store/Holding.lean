import Stepwise.Proofs.Disk.Files
import Stepwise.Proofs.Effect
import Stepwise.Proofs.Value.Table
import Stepwise.Store.Basic

/-!
# What a store holds

A store holds a record when it has it under its id: in memory as a copy, in a folder as the text of
its document. A save that succeeds leaves the record held, whatever was there before. In a folder
this rests on the document being moved into place whole.
-/

namespace Stepwise

namespace Folder

/-- A document that was written is read with the text of its record. -/
theorem writeDocument_ok {files changed : Files} {document : Path} {execution : Execution}
    (written : writeDocument files document execution = (.ok (), changed)) :
    ∃ content chars, execution.document = .ok content ∧ Json.document content = .ok chars ∧
      changed.read document = .ok (Utf8.encode chars) := by
  unfold writeDocument at written
  cases begun : files.write (draftPath document) [] with
  | error f => simp [begun] at written
  | ok opened =>
    simp only [begun] at written
    split at written
    · rename_i final finished
      obtain ⟨-, rfl⟩ := Prod.mk.inj written
      obtain ⟨content, made, finished⟩ := Result.bind_ok finished
      obtain ⟨chars, formed, finished⟩ := Result.bind_ok finished
      obtain ⟨drafted, draft, moved⟩ := Result.bind_ok finished
      obtain ⟨origin, located, kept, found⟩ := Files.write_ok draft
      exact ⟨content, chars, made, formed,
        Files.replace_ok (Files.locate_of_keepsDirectories kept located) found moved⟩
    · cases (Prod.mk.inj written).1

theorem save_ok {files changed : Files} {folder : Path} {execution : Execution}
    (saved : save files folder execution = (.ok (), changed)) :
    ∃ document content chars, documentPath folder execution.id = .ok document ∧
      execution.document = .ok content ∧ Json.document content = .ok chars ∧
      changed.read document = .ok (Utf8.encode chars) := by
  unfold save at saved
  cases named : documentPath folder execution.id with
  | error f => simp [named] at saved
  | ok document =>
    simp only [named] at saved
    split at saved
    · rename_i final written
      obtain ⟨-, rfl⟩ := Prod.mk.inj saved
      obtain ⟨content, chars, made, formed, read⟩ := writeDocument_ok written
      exact ⟨document, content, chars, rfl, made, formed, read⟩
    · rename_i f left written
      split at saved
      · split at saved
        · cases (Prod.mk.inj saved).1
        · obtain ⟨refused, -⟩ := Prod.mk.inj saved
          obtain ⟨id, -, refused⟩ := Result.bind_ok refused
          obtain ⟨reason, -, refused⟩ := Result.bind_ok refused
          cases refused
      · cases (Prod.mk.inj saved).1

end Folder

namespace Store

/-- The store has the record under its id. -/
def Holds (store : Store) (record : Execution) : Prop :=
  match store.backing with
  | .memory kept => kept.find? record.id = some record.copied
  | .folder path =>
    ∃ document content chars, Folder.documentPath path record.id = .ok document ∧
      record.document = .ok content ∧ Json.document content = .ok chars ∧
      store.files.read document = .ok (Utf8.encode chars)

/-- A record is held once it has been saved. -/
theorem holds_of_save {store left : Store} {record : Execution}
    (own : record.id.same record.id = true)
    (saved : (save record).runOn store = (.ok (), left)) : left.Holds record := by
  obtain ⟨_, entered, called, saved⟩ := Effect.bind_ok saved
  rw [Effect.runOn_get_bind] at saved
  split at saved
  · rename_i kept _
    rw [Effect.runOn_lift_bind] at saved
    cases taken : record.snapshot with
    | error f => simp [taken] at saved
    | ok snapshot =>
      simp only [taken, Effect.runOn_lift_bind] at saved
      cases key : record.id.hashable with
      | error f => simp [key] at saved
      | ok _ =>
        simp only [key, Effect.runOn_set] at saved
        obtain ⟨-, rfl⟩ := Prod.mk.inj saved
        have copied : snapshot = record.copied := by
          unfold Execution.snapshot Fault.barring at taken
          split at taken
          · cases taken
          · exact (Except.ok.inj taken).symm
        exact copied ▸ Table.find?_insert_self own snapshot kept
  · rename_i path backing
    rw [Effect.runOn_set_bind, Effect.runOn_lift] at saved
    obtain ⟨succeeded, rfl⟩ := Prod.mk.inj saved
    rcases written : Folder.save entered.files path record with ⟨result, files⟩
    rw [written] at succeeded
    dsimp only at succeeded
    subst succeeded
    unfold Holds
    simp only [backing]
    exact Folder.save_ok written

/-- The store with one more call of a kind counted. -/
def counting (store : Store) (call : StoreCall) : Store :=
  { store with
    made := fun other => if other = call then store.made call + 1 else store.made other }

theorem enter_eq (store : Store) (call : StoreCall) :
    (enter call).runOn store =
      match store.plan call (store.made call + 1) with
      | some f => (.error f, store.counting call)
      | none => (.ok (), store.counting call) := by
  rw [enter, Effect.runOn_get_bind, Effect.runOn_set_bind]
  cases store.plan call (store.made call + 1) <;> rfl

/-- A store in memory keeps a copy of every record that can be copied and has a key for an id,
unless the call is planned to fail. -/
theorem save_inMemory {store : Store} {kept : Table Execution} {record : Execution}
    (backing : store.backing = .memory kept)
    (unplanned : store.plan .save (store.made .save + 1) = none)
    (free : record.obstacle? = none) (key : record.id.hashable = .ok ()) :
    (save record).runOn store =
      (.ok (), { store.counting .save with
        backing := .memory (kept.insert record.id record.copied) }) := by
  have snapshot : record.snapshot = .ok record.copied := by
    rw [Execution.snapshot, free]
    rfl
  have inMemory : (store.counting .save).backing = .memory kept := backing
  rw [save, Effect.runOn_bind, enter_eq, unplanned]
  dsimp only
  rw [Effect.runOn_get_bind, inMemory]
  dsimp only
  rw [Effect.runOn_lift_bind, snapshot]
  dsimp only
  rw [Effect.runOn_lift_bind, key]
  rfl

/-- In memory a save fails and leaves what is kept, or keeps a copy of the record, which could be
copied. -/
theorem save_memory {store left : Store} {kept : Table Execution} {record : Execution}
    {result : Except Fault Unit} (backing : store.backing = .memory kept)
    (saved : (save record).runOn store = (result, left)) :
    (∃ f, result = .error f ∧ left.backing = .memory kept) ∨
      result = .ok () ∧ record.obstacle? = none ∧
        left.backing = .memory (kept.insert record.id record.copied) := by
  have inMemory : (store.counting .save).backing = .memory kept := backing
  rw [save, Effect.runOn_bind, enter_eq] at saved
  cases planned : store.plan .save (store.made .save + 1) with
  | some f =>
    simp only [planned] at saved
    obtain ⟨rfl, rfl⟩ := Prod.mk.inj saved
    exact .inl ⟨f, rfl, inMemory⟩
  | none =>
    simp only [planned, Effect.runOn_get_bind, inMemory, Effect.runOn_lift_bind,
      Execution.snapshot] at saved
    cases obstacle : record.obstacle? with
    | some f =>
      simp only [obstacle, Fault.barring] at saved
      obtain ⟨rfl, rfl⟩ := Prod.mk.inj saved
      exact .inl ⟨f, rfl, inMemory⟩
    | none =>
      simp only [obstacle, Fault.barring] at saved
      cases key : record.id.hashable with
      | error f =>
        simp only [key] at saved
        obtain ⟨rfl, rfl⟩ := Prod.mk.inj saved
        exact .inl ⟨f, rfl, inMemory⟩
      | ok _ =>
        simp only [key, Effect.runOn_set] at saved
        obtain ⟨rfl, rfl⟩ := Prod.mk.inj saved
        exact .inr ⟨rfl, rfl, rfl⟩

/-- Loading only counts the call. -/
theorem load_left (store : Store) (id : Value) :
    ((load id).runOn store).2 = store.counting .load := by
  rw [load, Effect.runOn_bind, enter_eq]
  cases store.plan .load (store.made .load + 1) with
  | some f => rfl
  | none =>
    dsimp only
    rw [Effect.runOn_get_bind]
    split
    · rw [Effect.runOn_lift_bind]
      split
      · split
        · rw [Effect.runOn_lift_bind]
          split <;> rfl
        · rfl
      · rfl
    · rw [Effect.runOn_lift]

/-- What is loaded from memory is a copy of what is kept. -/
theorem load_memory {store left : Store} {kept : Table Execution} {id : Value}
    {answer : Option Execution} (backing : store.backing = .memory kept)
    (loaded : (load id).runOn store = (.ok answer, left)) :
    answer = (kept.find? id).map Execution.copied := by
  have inMemory : (store.counting .load).backing = .memory kept := backing
  obtain ⟨_, entered, called, loaded⟩ := Effect.bind_ok loaded
  rw [enter_eq] at called
  split at called
  · cases (Prod.mk.inj called).1
  · obtain ⟨-, rfl⟩ := Prod.mk.inj called
    simp only [Effect.runOn_get_bind, inMemory, Effect.runOn_lift_bind] at loaded
    split at loaded
    · cases listed : kept.find? id with
      | none =>
        simp only [listed, Effect.runOn_pure] at loaded
        exact (Except.ok.inj (Prod.mk.inj loaded).1).symm
      | some record =>
        simp only [listed, Execution.snapshot, Effect.runOn_lift_bind] at loaded
        cases obstacle : record.obstacle? with
        | some f =>
          simp only [obstacle, Fault.barring] at loaded
          cases (Prod.mk.inj loaded).1
        | none =>
          simp only [obstacle, Fault.barring, Effect.runOn_pure] at loaded
          exact (Except.ok.inj (Prod.mk.inj loaded).1).symm
    · cases (Prod.mk.inj loaded).1

end Store

end Stepwise
