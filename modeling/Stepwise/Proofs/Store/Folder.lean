import Stepwise.Proofs.Disk.Directory
import Stepwise.Proofs.Execution.Document
import Stepwise.Proofs.Json.Reading
import Stepwise.Proofs.Text.Plain
import Stepwise.Store.Folder

/-!
# A folder of documents

In a folder with room for its documents, saving an execution leaves one new document, which takes
the place of one with its name, and nothing of its draft. The document is read as the execution that
was saved. Erasing takes it away again.
-/

namespace Stepwise

namespace Folder

/-- A text can be the id of an execution in a folder when a document and its draft can be named for
it. -/
structure IsId (id : String) : Prop where
  slashless : '/' ∉ id.toList
  nulless : '\x00' ∉ id.toList
  proper : id ≠ ""
  short : (id ++ (ending ++ ".tmp")).utf8ByteSize ≤ Files.longestName

/-- The name of the document of an id. -/
def documentName (id : String) : String := id ++ ending

/-- The name of the file that the document of an id is first written to. -/
def draftName (id : String) : String := id ++ (ending ++ ".tmp")

variable {files : Files} {path : Path} {place : Place} {id : String} {execution : Execution}

/-! ## Names -/

theorem documentName_inj {other : String} (same : documentName id = documentName other) :
    id = other := by
  have chars := congrArg String.toList same
  simp only [documentName, String.toList_append] at chars
  exact String.toList_inj.mp (List.append_cancel_right chars)

/-- A draft is no document. -/
theorem documentName_ne_draftName (id other : String) : documentName id ≠ draftName other := by
  intro same
  have chars := congrArg (fun name => (String.toList name).getLast?) same
  simp [documentName, draftName, ending] at chars

theorem not_mem_append {c : Char} {tail : String} (absent : c ∉ id.toList)
    (absent' : c ∉ tail.toList) : c ∉ (id ++ tail).toList := by
  rw [String.toList_append, List.mem_append]
  exact not_or.mpr ⟨absent, absent'⟩

theorem append_ne {tail other : String} (long : other.toList.length < tail.toList.length) :
    id ++ tail ≠ other := by
  rintro rfl
  rw [String.toList_append, List.length_append] at long
  omega

theorem isFileName_of_ending {tail : String} (named : IsId id) (slashless : '/' ∉ tail.toList)
    (nulless : '\x00' ∉ tail.toList) (long : 2 < tail.toList.length)
    (short : (id ++ tail).utf8ByteSize ≤ Files.longestName) : IsFileName (id ++ tail) where
  slashless := not_mem_append named.slashless slashless
  nulless := not_mem_append named.nulless nulless
  proper := ⟨append_ne (Nat.lt_of_le_of_lt (by decide) long),
    append_ne (Nat.lt_of_le_of_lt (by decide) long), append_ne long⟩
  short := short

theorem isFileName_documentName (named : IsId id) : IsFileName (documentName id) := by
  refine isFileName_of_ending named (by decide) (by decide) (by decide) ?_
  have short := named.short
  rw [String.utf8ByteSize_append] at short ⊢
  rw [String.utf8ByteSize_append] at short
  omega

theorem isFileName_draftName (named : IsId id) : IsFileName (draftName id) :=
  isFileName_of_ending named (by decide) (by decide) (by decide) named.short

/-- Texts of letters, digits and hyphens can be ids, unless they are too long. -/
theorem isId_of_letters (proper : id ≠ "")
    (letters : (id.toList.all fun c => c.isAlphanum || c = '-') = true)
    (short : id.utf8ByteSize ≤ 246) : IsId id where
  slashless member := by
    exact absurd (List.all_eq_true.mp letters _ member) (by decide)
  nulless member := by
    exact absurd (List.all_eq_true.mp letters _ member) (by decide)
  proper := proper
  short := by
    rw [String.utf8ByteSize_append]
    exact Nat.add_le_add_right short 9

/-! ## Paths -/

theorem documentPath_str (slashless : '/' ∉ id.toList) (path : Path) :
    documentPath path (.str id) = .ok (path.below (documentName id)) :=
  congrArg Except.ok (Files.join_eq_below (not_mem_append slashless (by decide))
    ⟨append_ne (by decide), append_ne (by decide)⟩ path)

/-- A document is named for its id. -/
theorem stem_documentName (proper : id ≠ "") (path : Path) :
    (path.below (documentName id)).stem = id := by
  have some : 0 < id.toList.length :=
    List.length_pos_iff.mpr fun blank => proper (String.toList_eq_nil_iff.mp blank)
  have last : (path.below (documentName id)).name.toList = id.toList ++ ending.toList := by
    rw [Path.name, Path.below, List.getLast?_concat, Option.getD_some, documentName,
      String.toList_append]
  have point : ((id.toList ++ ending.toList).reverse.takeWhile (· ≠ '.')).length = 4 := by
    rw [List.reverse_append]
    rfl
  have length : (id.toList ++ ending.toList).length = id.toList.length + 5 := by
    rw [List.length_append]
    rfl
  have long : ¬ (decide (4 = 0) ||
      decide ((id.toList ++ ending.toList).length ≤ 4 + 1)) = true := by
    rw [Bool.or_eq_true, decide_eq_true_eq, decide_eq_true_eq]
    omega
  rw [Path.stem, last, Path.splitName, point, if_neg long, length, Nat.add_sub_assoc (by decide),
    Nat.add_sub_assoc (by decide), List.take_left' (by omega), String.ofList_toList]

theorem stem_below (named : IsId id) (path : Path) : (path.below (documentName id)).stem = id :=
  stem_documentName named.proper path

theorem draftPath_below (named : IsId id) (path : Path) :
    draftPath (path.below (documentName id)) = path.below (draftName id) := by
  rw [draftPath, Path.withEnding, stem_below named, Path.below, List.dropLast_concat]
  rfl

/-! ## Contents -/

/-- The bytes of the document of an execution. -/
def content (execution : Execution) : List UInt8 :=
  Utf8.encode ((Json.document execution.record).toOption.getD [])

/-- The bytes of the document of an execution, unless it cannot be written. -/
def written (execution : Execution) : Except Fault (List UInt8) := do
  let document ← execution.document
  let text ← Json.document document
  return Utf8.encode text

/-- A folder can keep an execution: it has a name, and its document can be read back. -/
structure CanKeep (execution : Execution) : Prop where
  named : ∃ id, execution.id = .str id ∧ IsId id
  form : execution.hasForm = true
  shallow : execution.record.levels ≤ Json.deepest

theorem content_of_written {text : List Char}
    (written : Json.document execution.record = .ok text) :
    content execution = Utf8.encode text := by
  rw [content, written]
  rfl

theorem CanKeep.document (fit : CanKeep execution) :
    ∃ text, Json.document execution.record = .ok text ∧ Utf8.encode text = content execution ∧
      (∀ c ∈ text, IsPlain c) ∧ Json.read text = .ok execution.record := by
  obtain ⟨text, written, plain, read⟩ :=
    Json.read_document (Execution.isJson_record fit.form) fit.shallow
  exact ⟨text, written, (content_of_written written).symm, plain, read⟩

/-- What can be kept can be written. -/
theorem written_of_fit (fit : CanKeep execution) : written execution = .ok (content execution) := by
  obtain ⟨text, formed, encoded, -⟩ := fit.document
  simp only [written, Execution.document_of_hasForm fit.form, formed, bind, Except.bind]
  rw [encoded]
  rfl

/-- What is read of a document of plain characters is told from the value that it has the form of. -/
theorem readDocument_of_read (directory : files.HasDirectory path place) {name : String}
    (named : IsFileName name) {text : List Char} {v : Value} (plain : ∀ c ∈ text, IsPlain c)
    (read : Json.read text = .ok v)
    (found : (files.inside place).lookup name = some (.file (Utf8.encode text))) :
    readDocument files (path.below name) = Execution.ofDocument v := by
  have given : files.readText (path.below name) = .ok text := by
    rw [Files.readText, directory.read_below named found]
    simp only [bind, Except.bind, Utf8.decode_encode, Text.uniformLines_of_plain plain]
    rfl
  simp only [readDocument, given, bind, Except.bind, read]

/-- What was written of an execution is read as that execution. -/
theorem readDocument_below (directory : files.HasDirectory path place) {name : String}
    (named : IsFileName name) (fit : CanKeep execution)
    (found : (files.inside place).lookup name = some (.file (content execution))) :
    readDocument files (path.below name) = .ok execution := by
  obtain ⟨text, -, encoded, plain, read⟩ := fit.document
  rw [← encoded] at found
  rw [readDocument_of_read directory named plain read found]
  exact Execution.ofDocument_record (Execution.isTimed_of_hasForm fit.form)

/-! ## Calls -/

/-- The document of an id is there when the folder has its name. -/
theorem contains_str (directory : files.HasDirectory path place) (named : IsId id) :
    contains files path (.str id) =
      .ok ((files.inside place).lookup (documentName id)).isSome := by
  rw [contains, documentPath_str named.slashless]
  exact directory.present_below (isFileName_documentName named)

theorem load_of_absent (directory : files.HasDirectory path place) (named : IsId id)
    (absent : (files.inside place).lookup (documentName id) = none) :
    load files path (.str id) = .ok none := by
  simp only [load, documentPath_str named.slashless, bind, Except.bind,
    directory.present_below (isFileName_documentName named), absent]
  rfl

/-- What is loaded is what is read of the document. -/
theorem load_of_read (directory : files.HasDirectory path place) (named : IsId id) {entry : Entry}
    (present : (files.inside place).lookup (documentName id) = some entry)
    (read : readDocument files (path.below (documentName id)) = .ok execution) :
    load files path (.str id) = .ok (some execution) := by
  simp only [load, documentPath_str named.slashless, bind, Except.bind,
    directory.present_below (isFileName_documentName named), present, read]
  rfl

theorem load_of_present (directory : files.HasDirectory path place) (named : IsId id)
    (fit : CanKeep execution)
    (present : (files.inside place).lookup (documentName id) =
      some (.file (content execution))) :
    load files path (.str id) = .ok (some execution) :=
  load_of_read directory named present
    (readDocument_below directory (isFileName_documentName named) fit present)

/-- Erasing takes a document away and leaves the others as they are. -/
theorem erase_str (directory : files.HasDirectory path place) (named : IsId id)
    (free : files.isDirectoryAt (place ++ [documentName id]) = false) :
    ∃ changed, erase files path (.str id) = .ok changed ∧ changed.HasDirectory path place ∧
      changed.inside place = (files.inside place).filter fun known => known.1 ≠ documentName id := by
  have proper := isFileName_documentName named
  have present := directory.present_below proper
  cases found : (files.inside place).lookup (documentName id) with
  | none =>
    refine ⟨files, ?_, directory, ?_⟩
    · simp only [erase, documentPath_str named.slashless, bind, Except.bind, present, found]
      rfl
    · refine (List.filter_eq_self.mpr fun known member => decide_eq_true ?_).symm
      rintro same
      have others := List.lookup_eq_none_iff.mp found known member
      simp [same] at others
  | some entry =>
    cases entry with
    | directory =>
      rw [Files.isDirectoryAt, Files.find?_below, found] at free
      cases free
    | file content =>
      refine ⟨files.remove (place ++ [documentName id]), ?_,
        directory.of_keepsDirectories (Files.keepsDirectories_remove free),
        Files.inside_remove files place _⟩
      simp only [erase, documentPath_str named.slashless, bind, Except.bind, present, found,
        Option.isSome_some, if_true]
      exact directory.unlink_below proper found

/-- Saving puts a document last, in place of one with its name, and leaves no draft. -/
theorem save_of_document (directory : files.HasDirectory path place) {document : Value}
    (given : execution.document = .ok document) {text : List Char}
    (written : Json.document document = .ok text)
    (named : IsId id) (known : execution.id = .str id)
    (free : files.isDirectoryAt (place ++ [documentName id]) = false)
    (clear : files.isDirectoryAt (place ++ [draftName id]) = false) :
    ∃ changed, save files path execution = (.ok (), changed) ∧ changed.HasDirectory path place ∧
      changed.inside place =
        (((files.inside place).filter fun item => item.1 ≠ draftName id).filter fun item =>
          item.1 ≠ documentName id) ++ [(documentName id, .file (Utf8.encode text))] := by
  obtain ⟨opened, drafted, begun, filled, directory', found, left⟩ :=
    directory.rewrite_below (isFileName_draftName named) clear [] (Utf8.encode text)
  have apart : place ++ [documentName id] ≠ place ++ [draftName id] := by
    simpa using documentName_ne_draftName id id
  have draft := found (place ++ [draftName id])
  rw [if_pos rfl] at draft
  have free' : drafted.isDirectoryAt (place ++ [documentName id]) = false := by
    rw [Files.isDirectoryAt, found, if_neg apart]
    exact free
  obtain ⟨changed, moved, final, inside⟩ := directory'.replace_below (isFileName_documentName named)
    (isFileName_draftName named) draft free'
  rw [left, Files.inside_remove] at inside
  refine ⟨changed, ?_, final, inside⟩
  have finished : writeDocument files (path.below (documentName id)) execution =
      (.ok (), changed) := by
    simp only [writeDocument, draftPath_below named, begun, given, bind, Except.bind, written,
      filled, moved]
  simp only [save, known, documentPath_str named.slashless, finished]

/-- What stands in a folder after a save: the new document, no draft, and all else as before. -/
theorem find?_of_saved {changed : Files} {bytes : List UInt8}
    (inside : changed.inside place =
      (((files.inside place).filter fun item => item.1 ≠ draftName id).filter fun item =>
        item.1 ≠ documentName id) ++ [(documentName id, .file bytes)]) (name : String) :
    changed.find? (place ++ [name]) =
      if name = documentName id then some (.file bytes)
      else if name = draftName id then none else files.find? (place ++ [name]) := by
  rw [Files.find?_below, Files.find?_below, inside, List.lookup_append, Files.lookup_without,
    Files.lookup_without, List.lookup_cons, List.lookup_nil]
  by_cases last : name = documentName id
  · rw [if_pos last, if_pos last, beq_iff_eq.mpr last]
    rfl
  · rw [if_neg last, if_neg last, beq_eq_false_iff_ne.mpr last]
    exact Option.or_none

theorem save_of_written (directory : files.HasDirectory path place)
    (given : execution.document = .ok execution.record) {text : List Char}
    (written : Json.document execution.record = .ok text)
    (named : IsId id) (known : execution.id = .str id)
    (free : files.isDirectoryAt (place ++ [documentName id]) = false)
    (clear : files.isDirectoryAt (place ++ [draftName id]) = false) :
    ∃ changed, save files path execution = (.ok (), changed) ∧ changed.HasDirectory path place ∧
      changed.inside place =
        (((files.inside place).filter fun item => item.1 ≠ draftName id).filter fun item =>
          item.1 ≠ documentName id) ++ [(documentName id, .file (content execution))] := by
  rw [content_of_written written]
  exact save_of_document directory given written named known free clear

theorem save_of_fit (directory : files.HasDirectory path place) (fit : CanKeep execution)
    (named : IsId id) (known : execution.id = .str id)
    (free : files.isDirectoryAt (place ++ [documentName id]) = false)
    (clear : files.isDirectoryAt (place ++ [draftName id]) = false) :
    ∃ changed, save files path execution = (.ok (), changed) ∧ changed.HasDirectory path place ∧
      changed.inside place =
        (((files.inside place).filter fun item => item.1 ≠ draftName id).filter fun item =>
          item.1 ≠ documentName id) ++ [(documentName id, .file (content execution))] := by
  obtain ⟨text, written, -, -, -⟩ := fit.document
  exact save_of_written directory (Execution.document_of_hasForm fit.form) written named known free
    clear

/-- What cannot be written leaves an empty draft at first. -/
theorem writeDocument_of_unmade (directory : files.HasDirectory path place) {f : Fault}
    (unmade : written execution = .error f) (named : IsId id)
    (clear : files.isDirectoryAt (place ++ [draftName id]) = false) :
    writeDocument files (path.below (documentName id)) execution =
      (.error f, files.put (place ++ [draftName id]) (.file [])) := by
  have begun := directory.write_below (isFileName_draftName named) clear []
  simp only [writeDocument, draftPath_below named, begun]
  rw [written] at unmade
  cases given : execution.document with
  | error other =>
    rw [given] at unmade
    obtain rfl := Except.error.inj unmade
    rfl
  | ok document =>
    rw [given] at unmade
    cases formed : Json.document document with
    | error other =>
      simp only [bind, Except.bind, formed] at unmade ⊢
      obtain rfl := Except.error.inj unmade
      rfl
    | ok text =>
      simp only [bind, Except.bind, formed] at unmade
      cases unmade

/-- The draft is removed again. -/
theorem unlink_draft (directory : files.HasDirectory path place) (named : IsId id)
    (clear : files.isDirectoryAt (place ++ [draftName id]) = false) :
    (files.put (place ++ [draftName id]) (.file [])).unlinkIfPresent
        (draftPath (path.below (documentName id))) =
      .ok (files.remove (place ++ [draftName id])) := by
  have drafted : ((files.put (place ++ [draftName id]) (.file [])).inside place).lookup
      (draftName id) = some (.file []) := by
    rw [← Files.find?_below, Files.find?_put files (by simp), if_pos rfl]
  rw [draftPath_below named, (directory.of_keepsDirectories
    (Files.keepsDirectories_put clear [])).unlinkIfPresent_below (isFileName_draftName named)
      drafted, Files.remove_put]

/-- A fault of storing is told in the name of the execution, and nothing is left of the draft. -/
theorem save_of_storageFault (directory : files.HasDirectory path place) {f : Fault}
    (unmade : written execution = .error f) (storage : isStorageFault f = true) {reason : String}
    (told : f.text = .ok reason) (named : IsId id) (known : execution.id = .str id)
    (clear : files.isDirectoryAt (place ++ [draftName id]) = false) :
    save files path execution =
      (.error (.persistenceOf s!"Could not save execution {id}: {reason}"),
        files.remove (place ++ [draftName id])) := by
  simp only [save, known, documentPath_str named.slashless,
    writeDocument_of_unmade directory unmade named clear, storage, if_true,
    unlink_draft directory named clear, Value.text, told, bind, Except.bind]
  rfl

/-- Any other fault is handed on, and the empty draft stays. -/
theorem save_of_otherFault (directory : files.HasDirectory path place) {f : Fault}
    (unmade : written execution = .error f) (other : isStorageFault f = false)
    (named : IsId id) (known : execution.id = .str id)
    (clear : files.isDirectoryAt (place ++ [draftName id]) = false) :
    save files path execution = (.error f, files.put (place ++ [draftName id]) (.file [])) := by
  simp only [save, known, documentPath_str named.slashless,
    writeDocument_of_unmade directory unmade named clear, other]
  rfl

/-- Whatever keeps a document from being written, the save fails, and nothing is left of it but a
draft, which may be empty. -/
theorem save_of_unmade (directory : files.HasDirectory path place) {f : Fault}
    (unmade : written execution = .error f) (named : IsId id) (known : execution.id = .str id)
    (clear : files.isDirectoryAt (place ++ [draftName id]) = false) :
    ∃ (g : Fault) (changed : Files), save files path execution = (.error g, changed) ∧
      changed.HasDirectory path place ∧
      (changed = files.remove (place ++ [draftName id]) ∨
        changed = files.put (place ++ [draftName id]) (.file [])) := by
  have removed := directory.of_keepsDirectories (Files.keepsDirectories_remove clear)
  cases storage : isStorageFault f with
  | false =>
    exact ⟨f, _, save_of_otherFault directory unmade storage named known clear,
      directory.of_keepsDirectories (Files.keepsDirectories_put clear []), .inr rfl⟩
  | true =>
    cases told : f.text with
    | error g =>
      refine ⟨g, _, ?_, removed, .inl rfl⟩
      simp only [save, known, documentPath_str named.slashless,
        writeDocument_of_unmade directory unmade named clear, storage, if_true,
        unlink_draft directory named clear, Value.text, told, bind, Except.bind]
    | ok reason =>
      exact ⟨_, _, save_of_storageFault directory unmade storage told named known clear, removed,
        .inl rfl⟩

end Folder

end Stepwise
