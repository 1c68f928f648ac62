import Stepwise.Proofs.Execution.Recall
import Stepwise.Proofs.Store.Agreement
import Stepwise.Proofs.Store.Loss
import Stepwise.Proofs.Store.Reaching

/-!
# Ids as keys

A folder is given executions to save and ids to delete, one after the other. Whatever the executions
hold and whichever saves fail, the documents in it are those of the ids that were saved and not
deleted since. So what is asked about a text without slashes is answered by its own execution. But a
text with slashes that leads to the folder speaks for its last name, which is another id.
-/

namespace Stepwise

namespace Folder

variable {files changed : Files} {path : Path} {place : Place} {id : String}
  {execution : Execution} {bytes : List UInt8}

/-- What is written of an execution is read as JSON says it. -/
theorem executionOf_written_eq (made : written execution = .ok bytes)
    (canonical : execution.record.isCanonical = true)
    (shallow : execution.record.nesting ≤ Json.deepest) :
    executionOf bytes = Execution.ofDocument execution.record.spoken.reread := by
  have writable : execution.isWritable = true := by
    rw [← execution.isOk_document_bind]
    obtain ⟨document, given, rest⟩ := Result.bind_ok made
    obtain ⟨text, formed, -⟩ := Result.bind_ok rest
    rw [given]
    exact congrArg Except.isOk formed
  rw [written, Execution.document_of_isWritable writable] at made
  obtain ⟨document, same, made⟩ := Result.bind_ok made
  obtain rfl := Except.ok.inj same
  rw [← execution.isWritable_record] at writable
  obtain ⟨text, formed, plain, read⟩ := Json.reread_document_spoken canonical writable shallow
  rw [formed] at made
  obtain rfl := Except.ok.inj made
  rw [executionOf, Utf8.decode_encode]
  dsimp only
  rw [Text.uniformLines_of_plain plain, read]

/-- What is written of an execution is what is recalled of it. -/
theorem executionOf_recalled (made : written execution = .ok bytes)
    (recallable : execution.IsRecallable) : executionOf bytes = .ok execution.recalled := by
  rw [executionOf_written_eq made recallable.canonical recallable.shallow]
  exact Execution.ofDocument_recalled recallable.dated

/-- What is written of data with times that can be told is reread. -/
theorem executionOf_written_of_isTold (made : written execution = .ok bytes)
    (data : execution.isData = true) (told : execution.isTold = true)
    (shallow : execution.record.nesting ≤ Json.deepest) :
    executionOf bytes = .ok execution.reread := by
  rw [← execution.isData_record] at data
  obtain ⟨canonical, same⟩ := execution.record.spoken_of_isData data
  rw [executionOf_written_eq made canonical shallow, same, execution.reread_record]
  refine Execution.ofDocument_record_of_isTold ?_
  rw [Execution.isTold, Execution.reread, List.all_map]
  exact told

/-- What is written of data with universal times is reread. -/
theorem executionOf_written (made : written execution = .ok bytes)
    (data : execution.isData = true) (timed : execution.isTimed = true)
    (shallow : execution.record.nesting ≤ Json.deepest) :
    executionOf bytes = .ok execution.reread :=
  executionOf_written_of_isTold made data (Execution.isTold_of_isTimed timed) shallow

/-! ## What a folder keeps -/

/-- Under an id either nothing is kept and there is no document, or an execution with this id is
kept and the document is what is written of it. -/
inductive Held (id : String) : Option Execution → Option Entry → Prop
  | absent : Held id none none
  | present {execution : Execution} {bytes : List UInt8} (named : IsId id)
      (own : execution.id = .str id) (made : written execution = .ok bytes) :
      Held id (some execution) (some (.file bytes))

/-- The documents in a folder are those of the executions that it keeps under their ids, and no
directory is in the way of one. -/
structure Keeps (files : Files) (path : Path) (place : Place) (kept : String → Option Execution) :
    Prop where
  directory : files.HasDirectory path place
  flat : ∀ name, files.isDirectoryAt (place ++ [name]) = false
  documents : ∀ id, Held id (kept id) (files.find? (place ++ [documentName id]))

namespace Keeps

variable {kept : String → Option Execution}

theorem of_empty (directory : files.HasDirectory path place) (empty : files.inside place = []) :
    Keeps files path place fun _ => none where
  directory := directory
  flat name := by
    rw [Files.isDirectoryAt, Files.find?_below, empty]
    rfl
  documents id := by
    rw [Files.find?_below, empty]
    exact .absent

/-- A save that succeeds leaves the execution under its id. -/
theorem saved (keeps : Keeps files path place kept) (named : IsId id)
    (own : execution.id = .str id) (made : written execution = .ok bytes) :
    ∃ changed, save files path execution = (.ok (), changed) ∧
      Keeps changed path place fun other => if id = other then some execution else kept other := by
  obtain ⟨document, given, rest⟩ := Result.bind_ok made
  obtain ⟨text, formed, encoded⟩ := Result.bind_ok rest
  obtain rfl := Except.ok.inj encoded
  obtain ⟨changed, answered, directory, inside⟩ := save_of_document keeps.directory given formed
    named own (keeps.flat (documentName id)) (keeps.flat (draftName id))
  have found := find?_of_saved inside
  refine ⟨changed, answered, directory, fun name => ?_, fun other => ?_⟩
  · rw [Files.isDirectoryAt, found]
    by_cases last : name = documentName id
    · rw [if_pos last]
    · rw [if_neg last]
      by_cases draft : name = draftName id
      · rw [if_pos draft]
      · rw [if_neg draft]
        exact keeps.flat name
  · rw [found, if_neg (documentName_ne_draftName other id)]
    by_cases same : id = other
    · subst same
      rw [if_pos rfl, if_pos rfl]
      exact .present named own made
    · rw [if_neg same, if_neg (mt documentName_inj (Ne.symm same))]
      exact keeps.documents other

/-- A save that fails leaves what was kept. -/
theorem unsaved (keeps : Keeps files path place kept) (named : IsId id)
    (own : execution.id = .str id) {f : Fault} (unmade : written execution = .error f) :
    ∃ g changed, save files path execution = (.error g, changed) ∧
      Keeps changed path place kept := by
  obtain ⟨g, changed, answered, directory, left⟩ := save_of_unmade keeps.directory unmade named own
    (keeps.flat (draftName id))
  have found : ∀ name, name ≠ draftName id →
      changed.find? (place ++ [name]) = files.find? (place ++ [name]) := by
    intro name other
    have apart : place ++ [name] ≠ place ++ [draftName id] := by simpa using other
    obtain rfl | rfl := left
    · rw [Files.find?_remove files (by simp), if_neg apart]
    · rw [Files.find?_put files (by simp), if_neg apart]
  have drafted : changed.isDirectoryAt (place ++ [draftName id]) = false := by
    obtain rfl | rfl := left
    · rw [Files.isDirectoryAt, Files.find?_remove files (by simp), if_pos rfl]
    · rw [Files.isDirectoryAt, Files.find?_put files (by simp), if_pos rfl]
  refine ⟨g, changed, answered, directory, fun name => ?_, fun other => ?_⟩
  · by_cases draft : name = draftName id
    · rw [draft, drafted]
    · rw [Files.isDirectoryAt, found name draft]
      exact keeps.flat name
  · rw [found _ (documentName_ne_draftName other id)]
    exact keeps.documents other

/-- There is no directory where a document is. -/
theorem free (keeps : Keeps files path place kept) (id : String) :
    files.find? (place ++ [documentName id]) ≠ some .directory := by
  intro taken
  have flat := keeps.flat (documentName id)
  rw [Files.isDirectoryAt, taken] at flat
  cases flat

theorem isSome_document (keeps : Keeps files path place kept) (id : String) :
    (files.find? (place ++ [documentName id])).isSome = (kept id).isSome := by
  have held := keeps.documents id
  generalize kept id = execution at held
  generalize files.find? (place ++ [documentName id]) = entry at held
  cases held <;> rfl

theorem absent (keeps : Keeps files path place kept) (nothing : kept id = none) :
    files.find? (place ++ [documentName id]) = none := by
  have held := keeps.documents id
  rw [nothing] at held
  generalize files.find? (place ++ [documentName id]) = entry at held
  cases held
  rfl

/-- What is kept under an id has it, and its document is there. -/
theorem document (keeps : Keeps files path place kept) (held : kept id = some execution) :
    IsId id ∧ execution.id = .str id ∧ ∃ bytes, written execution = .ok bytes ∧
      files.find? (place ++ [documentName id]) = some (.file bytes) := by
  have known := keeps.documents id
  rw [held] at known
  generalize files.find? (place ++ [documentName id]) = entry at known
  cases known with
  | present named own made => exact ⟨named, own, _, made, rfl⟩

/-- What is kept is loaded as what is read of what was written. -/
theorem load_of_written (keeps : Keeps files path place kept) (held : kept id = some execution)
    (made : written execution = .ok bytes) {read : Execution}
    (given : executionOf bytes = .ok read) : load files path (.str id) = .ok (some read) := by
  obtain ⟨named, -, bytes', made', present⟩ := keeps.document held
  obtain rfl := Except.ok.inj (made'.symm.trans made)
  have located := keeps.directory.locate_below (isFileName_documentName named)
  exact load_of_execution (documentPath_str named.slashless path) located present
    ((readDocument_eq (Files.read_of_find? located present)).trans given)

/-- Nothing is kept under an id once a text that leads to its document is deleted. -/
theorem erased (keeps : Keeps files path place kept) {text : String}
    (reaches : Reaches files path place text id) :
    ∃ changed, erase files path (.str text) = .ok changed ∧
      Keeps changed path place fun other => if id = other then none else kept other := by
  obtain ⟨changed, answered, directories, found⟩ := erase_of_reaches reaches (keeps.free id)
  refine ⟨changed, answered, keeps.directory.of_keepsDirectories directories, fun name => ?_,
    fun other => ?_⟩
  · rw [Files.isDirectoryAt, found]
    by_cases same : place ++ [name] = place ++ [documentName id]
    · rw [if_pos same]
    · rw [if_neg same]
      exact keeps.flat name
  · rw [found]
    by_cases same : id = other
    · subst same
      rw [if_pos rfl, if_pos rfl]
      exact .absent
    · rw [if_neg same, if_neg (mt document_eq_iff.mp (Ne.symm same))]
      exact keeps.documents other

end Keeps

end Folder

/-! ## Changes -/

/-- A change that is asked of a store. -/
inductive StoreChange where
  | save (execution : Execution)
  | delete (id : String)

namespace StoreChange

def make : StoreChange → Effect Store Unit
  | save execution => Store.save execution
  | delete id => Store.delete (.str id)

/-- The id that a change is about can name a file. -/
def IsProper : StoreChange → Prop
  | save execution => ∃ id, execution.id = .str id ∧ Folder.IsId id
  | delete id => Folder.IsId id

/-- What is kept under an id after a change, which was done or else refused. -/
def leaves (kept : String → Option Execution) (done : Bool) :
    StoreChange → String → Option Execution
  | save execution, id => if done && execution.id.isStr id then some execution else kept id
  | delete gone, id => if done && gone = id then none else kept id

theorem leaves_save {execution : Execution} {id : String} (own : execution.id = .str id)
    (kept : String → Option Execution) :
    leaves kept true (save execution) =
      fun other => if id = other then some execution else kept other := by
  funext other
  simp only [leaves, own, Value.isStr, Bool.true_and, decide_eq_true_eq]

theorem leaves_delete (id : String) (kept : String → Option Execution) :
    leaves kept true (delete id) = fun other => if id = other then none else kept other := by
  funext other
  simp only [leaves, Bool.true_and, decide_eq_true_eq]

end StoreChange

namespace Store

open Folder

variable {store : Store} {path : Path} {place : Place} {kept : String → Option Execution}
  {text id : String}

/-- The store after changes that come one after the other. -/
def after (store : Store) : List StoreChange → Store
  | [] => store
  | change :: rest => after (change.make.runOn store).2 rest

/-- What is kept under each id after the changes: what was saved under it last, unless it was
deleted since. -/
def keptAfter (store : Store) (kept : String → Option Execution) :
    List StoreChange → String → Option Execution
  | [] => kept
  | change :: rest =>
    keptAfter (change.make.runOn store).2
      (change.leaves kept (change.make.runOn store).1.isOk) rest

/-- A change leaves the documents of what is kept after it. -/
theorem IsFolder.keeps_make (folder : store.IsFolder path)
    (keeps : Keeps store.files path place kept) {change : StoreChange} (proper : change.IsProper) :
    (change.make.runOn store).2.IsFolder path ∧ Keeps (change.make.runOn store).2.files path place
      (change.leaves kept (change.make.runOn store).1.isOk) := by
  cases change with
  | save execution =>
    obtain ⟨id, own, named⟩ := proper
    rw [StoreChange.make, folder.save_eq]
    cases made : written execution with
    | ok bytes =>
      obtain ⟨changed, answered, keeps'⟩ := keeps.saved named own made
      rw [answered]
      rw [← StoreChange.leaves_save own] at keeps'
      exact ⟨⟨folder.backing, folder.unplanned⟩, keeps'⟩
    | error f =>
      obtain ⟨g, changed, answered, keeps'⟩ := keeps.unsaved named own made
      rw [answered]
      exact ⟨⟨folder.backing, folder.unplanned⟩, keeps'⟩
  | delete id =>
    obtain ⟨changed, answered, keeps'⟩ :=
      keeps.erased (reaches_self keeps.directory (isFileName_documentName proper))
    rw [StoreChange.make, folder.delete_eq, answered]
    rw [← StoreChange.leaves_delete] at keeps'
    exact ⟨⟨folder.backing, folder.unplanned⟩, keeps'⟩

/-- So do all changes. -/
theorem IsFolder.keeps_after (folder : store.IsFolder path)
    (keeps : Keeps store.files path place kept) {changes : List StoreChange}
    (proper : ∀ change ∈ changes, change.IsProper) :
    (store.after changes).IsFolder path ∧
      Keeps (store.after changes).files path place (store.keptAfter kept changes) := by
  induction changes generalizing store kept with
  | nil => exact ⟨folder, keeps⟩
  | cons change rest inductionHypothesis =>
    obtain ⟨first, others⟩ := List.forall_mem_cons.mp proper
    obtain ⟨folder', keeps'⟩ := folder.keeps_make keeps first
    exact inductionHypothesis folder' keeps' others

/-! ## What is asked about a text -/

/-- What is asked about a text is answered by what is kept under an id, and deleting the text
deletes that and no more. -/
structure SpeaksFor (store : Store) (place : Place) (text id : String) (kept : Option Execution) :
    Prop where
  contains : ((Store.contains (.str text)).runOn store).1 = .ok kept.isSome
  missing : kept = none → ((load (.str text)).runOn store).1 = .ok none
  loads : ∀ execution, kept = some execution →
    ∃ bytes, written execution = .ok bytes ∧
      Answers (.file bytes) ((load (.str text)).runOn store).1
  rereads : ∀ execution, kept = some execution → execution.isData = true →
    execution.isTimed = true → execution.record.nesting ≤ Json.deepest →
    ((load (.str text)).runOn store).1 = .ok (some execution.reread) ∧
      execution.reread.id = .str id
  deletes : ((delete (.str text)).runOn store).1 = .ok ()
  leaves : ∀ other, ((delete (.str text)).runOn store).2.files.find?
      (place ++ [documentName other]) =
    if other = id then none else store.files.find? (place ++ [documentName other])

/-- Nothing is known under a text, but when its document would have too long a name, it is refused.
Deleting it changes nothing. -/
structure SaysNothing (store : Store) (path : Path) (text : String) : Prop where
  answers : (((contains (.str text)).runOn store).1 = .ok false ∧
      ((load (.str text)).runOn store).1 = .ok none ∧
      ((delete (.str text)).runOn store).1 = .ok ()) ∨
    Files.longestName < (documentName text).utf8ByteSize ∧
      ((contains (.str text)).runOn store).1 = .error (overlong path text) ∧
      ((load (.str text)).runOn store).1 = .error (overlong path text) ∧
      ((delete (.str text)).runOn store).1 = .error (overlong path text)
  leaves : ((delete (.str text)).runOn store).2.files = store.files

/-- A text that leads to the document of an id speaks for the id. -/
theorem IsFolder.speaksFor (folder : store.IsFolder path)
    (keeps : Keeps store.files path place kept)
    (reaches : Reaches store.files path place text id) :
    store.SpeaksFor place text id (kept id) where
  contains := by
    rw [folder.contains_eq, contains_of_located rfl reaches, keeps.isSome_document]
  missing nothing := by
    rw [folder.load_eq, load_of_missing rfl reaches (keeps.absent nothing)]
  loads execution held := by
    obtain ⟨-, -, bytes, made, present⟩ := keeps.document held
    rw [folder.load_eq]
    exact ⟨bytes, made, load_answers rfl reaches present⟩
  rereads execution held data timed shallow := by
    obtain ⟨-, own, bytes, made, present⟩ := keeps.document held
    have read := readDocument_eq (Files.read_of_find? reaches present)
    rw [executionOf_written made data timed shallow] at read
    have same : execution.reread.id = .str id := by
      rw [Execution.reread, own]
      exact Value.reread_of_isJson _ (by rw [Value.isJson])
    rw [folder.load_eq, load_of_execution rfl reaches present read]
    exact ⟨rfl, same⟩
  deletes := by
    obtain ⟨changed, erased, -⟩ := erase_of_reaches reaches (keeps.free id)
    rw [folder.delete_eq, erased]
    rfl
  leaves other := by
    obtain ⟨changed, erased, -, found⟩ := erase_of_reaches reaches (keeps.free id)
    rw [folder.delete_eq, erased]
    dsimp only [Except.toOption, Option.getD_some]
    rw [found]
    simp only [document_eq_iff]

/-- A text without slashes that cannot be an id says nothing. -/
theorem IsFolder.saysNothing (folder : store.IsFolder path)
    (keeps : Keeps store.files path place kept) (slashless : '/' ∉ text.toList)
    (improper : ¬ IsId text) : store.SaysNothing path text := by
  have unknown : kept text = none := by
    rw [Option.eq_none_iff_forall_not_mem]
    intro execution held
    exact improper (keeps.document held).1
  obtain missing | ⟨refused, long⟩ :=
    present_of_absent keeps.directory slashless (keeps.absent unknown)
  · obtain ⟨unknown, unloaded, erased⟩ := calls_of_missing missing
    refine ⟨.inl ⟨?_, ?_, ?_⟩, ?_⟩
    · rw [folder.contains_eq, unknown]
    · rw [folder.load_eq, unloaded]
    · rw [folder.delete_eq, erased]
      rfl
    · rw [folder.delete_eq, erased]
      rfl
  · obtain ⟨unknown, unloaded, erased⟩ := calls_of_refused refused
    refine ⟨.inr ⟨long, ?_, ?_, ?_⟩, ?_⟩
    · rw [folder.contains_eq, unknown]
    · rw [folder.load_eq, unloaded]
    · rw [folder.delete_eq, erased]
      rfl
    · rw [folder.delete_eq, erased]
      rfl

/-- An execution is saved when it can be written, and only then. -/
theorem IsFolder.isOk_save (folder : store.IsFolder path)
    (keeps : Keeps store.files path place kept) {execution : Execution} (named : IsId id)
    (own : execution.id = .str id) :
    ((save execution).runOn store).1.isOk = (written execution).isOk := by
  rw [folder.save_eq]
  cases made : written execution with
  | ok bytes =>
    obtain ⟨changed, answered, -⟩ := keeps.saved named own made
    rw [answered]
    rfl
  | error f =>
    obtain ⟨g, changed, answered, -⟩ := keeps.unsaved named own made
    rw [answered]
    rfl

/-- Ids are the keys of a store in a folder, but for texts with slashes that lead to the folder. -/
structure IsKeyed (store : Store) (path : Path) (place : Place)
    (kept : String → Option Execution) : Prop where
  /-- An execution is saved under its id when it can be written, and only then. -/
  saves : ∀ id execution, IsId id → execution.id = .str id →
    ((save execution).runOn store).1.isOk = (written execution).isOk
  /-- What is kept under an id has this id, which can name a file. -/
  known : ∀ id execution, kept id = some execution → IsId id ∧ execution.id = .str id
  /-- An id leads to its document, and so do texts with slashes in which what stands before the id
  leads to the folder, unless they are too long, but no other texts. -/
  reached : ∀ text id, IsId id → (Reaches store.files path place text id ↔
    text = id ∨ ∃ front, text = front ++ "/" ++ id ∧
      store.files.locate (path.join (front ++ "/")) = .ok place ∧
        (path.join (documentName text)).text.utf8ByteSize < Files.pathLimit)
  /-- A text speaks for the id whose document it leads to. -/
  speaks : ∀ text id, Reaches store.files path place text id →
    store.SpeaksFor place text id (kept id)
  /-- Deleting a text that leads to no document of the folder leaves them all. -/
  elsewhere : ∀ text, (∀ id, ¬ Reaches store.files path place text id) → ∀ id,
    ((delete (.str text)).runOn store).2.files.find? (place ++ [documentName id]) =
      store.files.find? (place ++ [documentName id])
  /-- A text without slashes that cannot be an id says nothing. -/
  nothing : ∀ text, '/' ∉ text.toList → ¬ IsId text → store.SaysNothing path text

theorem IsFolder.isKeyed (folder : store.IsFolder path)
    (keeps : Keeps store.files path place kept) : store.IsKeyed path place kept where
  saves id execution named own := folder.isOk_save keeps named own
  known id execution held := ⟨(keeps.document held).1, (keeps.document held).2.1⟩
  reached text id named := reaches_iff keeps.directory (isFileName_documentName named)
  speaks text id reaches := folder.speaksFor keeps reaches
  elsewhere text unreached id := by
    rw [folder.delete_eq]
    cases erased : Folder.erase store.files path (.str text) with
    | error f => rfl
    | ok changed => exact erase_elsewhere unreached erased id
  nothing text slashless improper := folder.saysNothing keeps slashless improper

/-- Whatever was saved in an empty folder and deleted again, ids are the keys of what is kept there,
but for texts with slashes that lead to the folder. -/
theorem keys_up_to_detours {files : Files} (directory : files.HasDirectory path place)
    (empty : files.inside place = []) {changes : List StoreChange}
    (proper : ∀ change ∈ changes, change.IsProper) :
    ((create (.folder path) files).after changes).IsKeyed path place
      ((create (.folder path) files).keptAfter (fun _ => none) changes) := by
  have folder : (create (.folder path) files).IsFolder path := ⟨rfl, fun _ _ => rfl⟩
  obtain ⟨folder', keeps⟩ := folder.keeps_after (Keeps.of_empty directory empty) proper
  exact folder'.isKeyed keeps

namespace Sample

/-- Two records are saved and one of them is deleted. -/
def changes : List StoreChange :=
  [.save (record "a-1" 2024), .save (record "b-1" 2025), .delete "b-1"]

theorem isProper_changes : ∀ change ∈ changes, change.IsProper := by
  have first : IsId "a-1" := isId_of_letters (by decide) rfl (by decide +kernel)
  have second : IsId "b-1" := isId_of_letters (by decide) rfl (by decide +kernel)
  simp [changes, StoreChange.IsProper, record, first, second]

theorem record_id (id : String) (year : Nat) : (record id year).id = .str id := rfl

/-- The first record is kept, and nothing is kept under its detour. -/
theorem keptAfter_changes :
    (create (.folder Sample.path) files).keptAfter (fun _ => none) changes "a-1" =
        some (record "a-1" 2024) ∧
      (create (.folder Sample.path) files).keptAfter (fun _ => none) changes "./a-1" = none := by
  have named : IsId "a-1" := isId_of_letters (by decide) rfl (by decide +kernel)
  have fit : CanKeep (record "a-1" 2024) :=
    ⟨⟨_, rfl, named⟩, by decide +kernel, by decide +kernel⟩
  have folder : (create (.folder Sample.path) files).IsFolder Sample.path := ⟨rfl, fun _ _ => rfl⟩
  have done : ((StoreChange.save (record "a-1" 2024)).make.runOn
      (create (.folder Sample.path) files)).1.isOk = true := by
    rw [StoreChange.make, folder.isOk_save (Keeps.of_empty hasDirectory rfl) named rfl,
      written_of_fit fit]
    rfl
  constructor
  · simp [changes, keptAfter, StoreChange.leaves, done, record_id, Value.isStr]
  · simp [changes, keptAfter, StoreChange.leaves, record_id, Value.isStr]

/-- The folder, with a dot in front of it, is the folder. -/
theorem locate_detour {kept : Files} (directory : kept.HasDirectory Sample.path ["data"]) :
    kept.locate (Sample.path.join ("." ++ "/")) = .ok ["data"] := by
  have same : Sample.path.join ("." ++ "/") = Sample.path := by decide +kernel
  rw [same]
  exact directory.located

end Sample

/-- One record is left of two, under its own id. -/
theorem keys_of_two_records :
    Sample.files.HasDirectory Sample.path ["data"] ∧ Sample.files.inside ["data"] = [] ∧
      (∀ change ∈ Sample.changes, change.IsProper) ∧
      ((create (.folder Sample.path) Sample.files).after Sample.changes).IsKeyed Sample.path
        ["data"]
        ((create (.folder Sample.path) Sample.files).keptAfter (fun _ => none) Sample.changes) ∧
      (create (.folder Sample.path) Sample.files).keptAfter (fun _ => none) Sample.changes "a-1" =
        some (Sample.record "a-1" 2024) :=
  ⟨Sample.hasDirectory, rfl, Sample.isProper_changes,
    keys_up_to_detours Sample.hasDirectory rfl Sample.isProper_changes, Sample.keptAfter_changes.1⟩

/-- Nothing was saved under a detour of an id, and still the execution of the id is there and is
loaded. -/
theorem detour_loads_other_id :
    (create (.folder Sample.path) Sample.files).keptAfter (fun _ => none) Sample.changes "./a-1" =
        none ∧
      ((contains (.str "./a-1")).runOn
        ((create (.folder Sample.path) Sample.files).after Sample.changes)).1 = .ok true ∧
      ∃ loaded, ((load (.str "./a-1")).runOn
          ((create (.folder Sample.path) Sample.files).after Sample.changes)).1 =
        .ok (some loaded) ∧ loaded.id = .str "a-1" := by
  have folder : (create (.folder Sample.path) Sample.files).IsFolder Sample.path :=
    ⟨rfl, fun _ _ => rfl⟩
  obtain ⟨folder', keeps⟩ := folder.keeps_after (Keeps.of_empty Sample.hasDirectory rfl)
    Sample.isProper_changes
  have named : IsId "a-1" := isId_of_letters (by decide) rfl (by decide +kernel)
  have reaches := (reaches_iff keeps.directory (isFileName_documentName named)).mpr
    (.inr ⟨".", rfl, Sample.locate_detour keeps.directory, by decide +kernel⟩)
  have speaks := folder'.speaksFor keeps reaches
  obtain ⟨kept, unkept⟩ := Sample.keptAfter_changes
  rw [kept] at speaks
  exact ⟨unkept, speaks.contains, _, speaks.rereads _ rfl (by decide +kernel) (by decide +kernel)
    (by decide +kernel)⟩

end Store

end Stepwise
