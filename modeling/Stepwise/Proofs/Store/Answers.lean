import Stepwise.Proofs.Store.Contents
import Stepwise.Proofs.Store.Keeping

/-!
# What loading answers

A text leads to a document, and what is there decides what is answered about the text: whether there
is an execution, and which one is loaded. What cannot be read is refused, or it goes astray.
-/

namespace Stepwise

namespace Folder

variable {files : Files} {path document : Path} {goal : Place} {id : String} {entry : Entry}

/-- What may be answered when an execution is loaded by the name of what is there. -/
inductive Answers : Entry → Except Fault (Option Execution) → Prop
  | execution {content : List UInt8} {found : Execution} (read : executionOf content = .ok found)
      (fit : isFit content = true) : Answers (.file content) (.ok (some found))
  | refusal {content : List UInt8} {f : Fault} (refused : executionOf content = .error f)
      (refusal : IsRefusal f) (message : String) :
      Answers (.file content) (.error (.persistenceOf message))
  | directory (message : String) : Answers .directory (.error (.persistenceOf message))
  | stray {content : List UInt8} {f : Fault} (astray : executionOf content = .error f)
      (stray : IsStray f) (unfit : isFit content = false) :
      Answers (.file content) (.error f)

/-- A directory in the place of a document is refused. -/
theorem isRefusal_directory (path : Path) : IsRefusal (Trouble.isDirectory.fault [path]) := by
  have number : (Value.int 21).text = .ok "21" := by
    change Value.wholeText 21 = .ok "21"
    unfold Value.wholeText
    rw [if_pos]
    · rfl
    · have least : 2 ≤ Numeral.digitLimit := by decide
      -- The limit itself is too large to be computed with.
      generalize Numeral.digitLimit = limit at least
      exact Nat.lt_of_lt_of_le (by decide) (Nat.pow_le_pow_right (by decide : 0 < 10) least)
  refine ⟨rfl, s!"[Errno 21] Is a directory: {quoted path.text}", ?_⟩
  change Fault.systemText [.int 21, .str "Is a directory", .str path.text] = _
  rw [Fault.systemText, number]
  rfl

theorem slashless_of_documentName (named : IsFileName (documentName id)) : '/' ∉ id.toList := by
  intro member
  apply named.slashless
  rw [documentName, String.toList_append]
  exact List.mem_append_left _ member

/-! ## By the place of the document -/

section Located

variable (asked : documentPath path (.str id) = .ok document)
  (located : files.locate document = .ok goal)

include asked located

theorem contains_of_located :
    contains files path (.str id) = .ok (files.find? goal).isSome := by
  rw [contains, asked]
  simp only [Files.present, Files.status, Files.entry, located, bind, Except.bind]
  cases files.find? goal <;> rfl

theorem load_of_missing (absent : files.find? goal = none) :
    load files path (.str id) = .ok none := by
  rw [load, asked]
  simp only [Files.present, Files.status, Files.entry, located, absent, bind, Except.bind]
  rfl

variable (present : files.find? goal = some entry)

include present

theorem load_of_execution {found : Execution} (read : readDocument files document = .ok found) :
    load files path (.str id) = .ok (some found) := by
  rw [load, asked]
  simp only [Files.present, Files.status, Files.entry, located, present, read, bind, Except.bind]
  rfl

/-- A fault that is translated is told in what is answered. -/
theorem load_of_refusal {f : Fault} (refused : readDocument files document = .error f)
    (refusal : IsRefusal f) :
    ∃ message, load files path (.str id) = .error (.persistenceOf message) := by
  obtain ⟨translated, reason, told⟩ := refusal
  refine ⟨s!"Could not load execution {id}: {reason}", ?_⟩
  rw [load, asked]
  simp only [Files.present, Files.status, Files.entry, located, present, refused, translated,
    Value.text, told, bind, Except.bind]
  rfl

/-- A fault that is not translated is what is answered. -/
theorem load_of_stray {f : Fault} (astray : readDocument files document = .error f)
    (stray : IsStray f) : load files path (.str id) = .error f := by
  rw [load, asked]
  simp only [Files.present, Files.status, Files.entry, located, present, astray,
    not_isDocumentFault stray, bind, Except.bind]
  rfl

/-- Loading answers what the entry at the place of the document gives. -/
theorem load_answers : Answers entry (load files path (.str id)) := by
  cases entry with
  | directory =>
    have refused : readDocument files document = .error (Trouble.isDirectory.fault [document]) := by
      simp only [readDocument, Files.readText, Files.read, Files.entry, located, present, bind,
        Except.bind, pure, Except.pure]
    obtain ⟨message, answered⟩ := load_of_refusal asked located present refused
      (isRefusal_directory document)
    rw [answered]
    exact .directory message
  | file content =>
    have read := readDocument_eq (Files.read_of_find? located present)
    have reading := reading_executionOf content
    generalize made : executionOf content = result at read reading
    cases reading with
    | made found fits =>
      rw [load_of_execution asked located present read]
      exact .execution made fits
    | refused f refusal =>
      obtain ⟨message, answered⟩ := load_of_refusal asked located present read refusal
      rw [answered]
      exact .refusal made refusal message
    | astray f stray misfits =>
      rw [load_of_stray asked located present read stray]
      exact .stray made stray misfits

end Located

end Folder

/-! ## Stores in folders -/

namespace Store

variable {store : Store} {path : Path}

/-- A call that is planned to fail is counted and does nothing else. -/
theorem enter_of_planned {call : StoreCall} {f : Fault}
    (planned : store.plan call (store.made call + 1) = some f) :
    (enter call).runOn store = (.error f, store.counting call) := by
  rw [Store.enter_eq, planned]

theorem enter_of_unplanned {call : StoreCall}
    (unplanned : store.plan call (store.made call + 1) = none) :
    (enter call).runOn store = (.ok (), store.counting call) := by
  rw [Store.enter_eq, unplanned]

theorem load_inFolder (backing : store.backing = .folder path)
    (unplanned : store.plan .load (store.made .load + 1) = none) (id : Value) :
    (load id).runOn store = (Folder.load store.files path id, store.counting .load) := by
  rw [load, Effect.runOn_bind, enter_of_unplanned unplanned]
  dsimp only
  rw [Effect.runOn_get_bind, counting_backing, backing]
  dsimp only
  rw [Effect.runOn_lift, counting_files]

/-- Deleting leaves what erasing leaves, and everything when that fails. -/
theorem delete_inFolder (backing : store.backing = .folder path)
    (unplanned : store.plan .delete (store.made .delete + 1) = none) (id : Value) :
    (delete id).runOn store =
      ((Folder.erase store.files path id).map fun _ => (),
        { store.counting .delete with
          files := (Folder.erase store.files path id).toOption.getD store.files }) := by
  rw [delete, Effect.runOn_bind, enter_of_unplanned unplanned]
  dsimp only
  rw [Effect.runOn_get_bind, counting_backing, backing]
  dsimp only
  rw [Effect.runOn_lift_bind, counting_files]
  cases Folder.erase store.files path id with
  | ok files => rfl
  | error f =>
    dsimp only
    rw [← backing]
    rfl

theorem save_inFolder (backing : store.backing = .folder path)
    (unplanned : store.plan .save (store.made .save + 1) = none) (execution : Execution) :
    (save execution).runOn store =
      ((Folder.save store.files path execution).1,
        { store.counting .save with files := (Folder.save store.files path execution).2 }) := by
  rw [save, Effect.runOn_bind, enter_of_unplanned unplanned]
  dsimp only
  rw [Effect.runOn_get_bind, counting_backing, backing]
  dsimp only
  rw [counting_files]
  rcases Folder.save store.files path execution with ⟨result, files⟩
  dsimp only
  rw [Effect.runOn_set_bind, Effect.runOn_lift, ← backing]

/-- The store keeps its executions in a folder, and no call of it is planned to fail. -/
structure IsFolder (store : Store) (path : Path) : Prop where
  backing : store.backing = .folder path
  unplanned : ∀ call number, store.plan call number = none

namespace IsFolder

theorem counting (folder : store.IsFolder path) (call : StoreCall) :
    (store.counting call).IsFolder path where
  backing := folder.backing
  unplanned := folder.unplanned

theorem enter_eq (folder : store.IsFolder path) (call : StoreCall) :
    (enter call).runOn store = (.ok (), store.counting call) :=
  enter_of_unplanned (folder.unplanned _ _)

theorem load_eq (folder : store.IsFolder path) (id : Value) :
    (load id).runOn store = (Folder.load store.files path id, store.counting .load) :=
  load_inFolder folder.backing (folder.unplanned _ _) id

theorem contains_eq (folder : store.IsFolder path) (id : Value) :
    (contains id).runOn store = (Folder.contains store.files path id, store) := by
  rw [contains, Effect.runOn_get_bind, folder.backing]
  exact Effect.runOn_lift _ _

theorem delete_eq (folder : store.IsFolder path) (id : Value) :
    (delete id).runOn store =
      ((Folder.erase store.files path id).map fun _ => (),
        { store.counting .delete with
          files := (Folder.erase store.files path id).toOption.getD store.files }) :=
  delete_inFolder folder.backing (folder.unplanned _ _) id

theorem save_eq (folder : store.IsFolder path) (execution : Execution) :
    (save execution).runOn store =
      ((Folder.save store.files path execution).1,
        { store.counting .save with files := (Folder.save store.files path execution).2 }) :=
  save_inFolder folder.backing (folder.unplanned _ _) execution

end IsFolder

end Store

end Stepwise
