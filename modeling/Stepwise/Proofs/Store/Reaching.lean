import Stepwise.Proofs.Disk.Detour
import Stepwise.Proofs.Store.Answers

/-!
# Which texts lead to the document of an id

A folder makes a path of any text that it is asked about. A text without slashes leads to its own
document, if anywhere. But a text with slashes leads to the document of its last name when what
stands before that leads to the folder itself: then everything that is asked about the text is
answered by that document.
-/

namespace Stepwise

namespace Folder

/-- A text leads to the document of an id in a directory. -/
def Reaches (files : Files) (path : Path) (place : Place) (text id : String) : Prop :=
  files.locate (path.join (documentName text)) = .ok (place ++ [documentName id])

variable {files changed : Files} {path : Path} {place : Place} {text id : String}

theorem isPlainName_documentName (slashless : '/' ∉ text.toList) :
    Path.IsPlainName (documentName text) :=
  ⟨not_mem_append slashless (by decide), append_ne (by decide), append_ne (by decide)⟩

theorem join_documentName (slashless : '/' ∉ text.toList) (path : Path) :
    path.join (documentName text) = path.below (documentName text) :=
  have plain := isPlainName_documentName slashless
  Files.join_eq_below plain.1 plain.2 path

theorem join_detour (path : Path) (front : String) (slashless : '/' ∉ id.toList) :
    path.join (documentName (front ++ "/" ++ id)) =
      (path.join (front ++ "/")).below (documentName id) := by
  rw [← Path.join_append path front (isPlainName_documentName slashless), documentName,
    documentName, String.append_assoc]

/-- The documents of different ids are at different places. -/
theorem document_eq_iff {other : String} :
    place ++ [documentName other] = place ++ [documentName id] ↔ other = id := by
  rw [List.append_cancel_left_eq, List.singleton_inj]
  exact ⟨documentName_inj, congrArg documentName⟩

theorem documentName_down (text : String) : documentName text ≠ ".." := append_ne (by decide)

/-- What leads to a document of a directory leads right below it. -/
theorem leads_of_below {base : Path} {goal : Place}
    (leads : files.locate (base.below (documentName id)) = .ok goal) :
    ∃ place, files.locate base = .ok place ∧ files.find? place = some .directory ∧
      goal = place ++ [documentName id] :=
  Files.locate_of_below (append_ne (by decide)) (documentName_down id) leads

theorem reaches_self (directory : files.HasDirectory path place)
    (named : IsFileName (documentName id)) : Reaches files path place id id := by
  rw [Reaches, join_documentName (slashless_of_documentName named)]
  exact directory.locate_below named

/-- A text without slashes leads to the place of its own document, unless that cannot have the
name. -/
theorem locate_of_slashless (directory : files.HasDirectory path place)
    (slashless : '/' ∉ text.toList) :
    files.locate (path.join (documentName text)) = .error .nullCharacter ∨
      files.locate (path.join (documentName text)) = .error .nameTooLong ∧
        Files.longestName < (documentName text).utf8ByteSize ∨
      files.locate (path.join (documentName text)) = .ok (place ++ [documentName text]) := by
  rw [join_documentName slashless,
    Files.locate_below directory.located directory.found (documentName_down text)]
  by_cases long : Files.longestName < (documentName text).utf8ByteSize
  · rw [if_pos long, ite_self]
    split
    · exact .inl rfl
    · exact .inr (.inl ⟨rfl, long⟩)
  · obtain ⟨front, whole, bounded, -⟩ :=
      Files.text_below path (isPlainName_documentName slashless).2.1
    have room := directory.room
    have fits : ¬ Files.pathLimit ≤ (path.below (documentName text)).text.utf8ByteSize := by
      rw [whole, String.utf8ByteSize_append]
      omega
    rw [if_neg long, if_neg fits]
    split
    · exact .inl rfl
    · exact .inr (.inr rfl)

/-- A text without slashes leads to no document but its own. -/
theorem eq_of_reaches (directory : files.HasDirectory path place) (slashless : '/' ∉ text.toList)
    (reaches : Reaches files path place text id) : text = id := by
  rw [Reaches] at reaches
  obtain null | ⟨long, -⟩ | own := locate_of_slashless directory slashless
  · rw [null] at reaches
    cases reaches
  · rw [long] at reaches
    cases reaches
  · rw [own] at reaches
    exact document_eq_iff.mp (Except.ok.inj reaches)

/-- The refusal of a text whose document would have too long a name. -/
def overlong (path : Path) (text : String) : Fault :=
  Trouble.nameTooLong.fault [path.join (documentName text)]

/-- Where there is no document of a text without slashes, none is present, but when its name would
be too long, that cannot be told. -/
theorem present_of_absent (directory : files.HasDirectory path place)
    (slashless : '/' ∉ text.toList) (absent : files.find? (place ++ [documentName text]) = none) :
    files.present (path.join (documentName text)) = .ok false ∨
      files.present (path.join (documentName text)) = .error (overlong path text) ∧
        Files.longestName < (documentName text).utf8ByteSize := by
  unfold Files.present Files.status Files.entry
  obtain null | ⟨long, size⟩ | own := locate_of_slashless directory slashless
  · rw [null]
    exact .inl rfl
  · rw [long]
    exact .inr ⟨rfl, size⟩
  · simp only [own, bind, Except.bind, absent]
    exact .inl rfl

/-- What is not present is not loaded and need not be erased. -/
theorem calls_of_missing (missing : files.present (path.join (documentName text)) = .ok false) :
    contains files path (.str text) = .ok false ∧ load files path (.str text) = .ok none ∧
      erase files path (.str text) = .ok files := by
  have asked : documentPath path (.str text) = .ok (path.join (documentName text)) := rfl
  refine ⟨?_, ?_, ?_⟩
  · simp only [contains, asked, bind, Except.bind, missing]
  · simp only [load, asked, bind, Except.bind, missing]
    rfl
  · simp only [erase, asked, bind, Except.bind, missing]
    rfl

/-- Where it cannot be told whether something is present, every call is refused for that. -/
theorem calls_of_refused {f : Fault}
    (refused : files.present (path.join (documentName text)) = .error f) :
    contains files path (.str text) = .error f ∧ load files path (.str text) = .error f ∧
      erase files path (.str text) = .error f := by
  have asked : documentPath path (.str text) = .ok (path.join (documentName text)) := rfl
  refine ⟨?_, ?_, ?_⟩
  · simp only [contains, asked, bind, Except.bind, refused]
  · simp only [load, asked, bind, Except.bind, refused]
  · simp only [erase, asked, bind, Except.bind, refused]

/-- A text with slashes leads to the document of its last name when what stands before leads to the
directory and the path of it is not too long. -/
theorem reaches_detour_iff {front : String} (directory : files.HasDirectory path place)
    (named : IsFileName (documentName id)) :
    Reaches files path place (front ++ "/" ++ id) id ↔
      files.locate (path.join (front ++ "/")) = .ok place ∧
        (path.join (documentName (front ++ "/" ++ id))).text.utf8ByteSize < Files.pathLimit := by
  have slashless := slashless_of_documentName named
  constructor
  · intro reaches
    have short := Files.size_of_locate reaches
    rw [Reaches, join_detour path front slashless] at reaches
    obtain ⟨goal, located, -, same⟩ := leads_of_below reaches
    obtain rfl := List.append_inj_left' same rfl
    exact ⟨located, short⟩
  · rintro ⟨located, short⟩
    have clear := Files.nulless_below located named.proper.1 named.nulless
    rw [join_detour path front slashless] at short
    rw [Reaches, join_detour path front slashless,
      Files.locate_below located directory.found (documentName_down id), if_neg clear,
      if_neg (Nat.not_le.mpr short), if_neg (Nat.not_lt.mpr named.short)]

theorem eq_of_reaches_detour {front : String} {other : String} (slashless : '/' ∉ id.toList)
    (reaches : Reaches files path place (front ++ "/" ++ id) other) : other = id := by
  rw [Reaches, join_detour path front slashless] at reaches
  obtain ⟨goal, -, -, same⟩ := leads_of_below reaches
  exact documentName_inj (List.singleton_inj.mp (List.append_inj_right' same rfl))

/-- The document of an id is reached by the id itself and, through what leads to the directory, by
texts with slashes before the id, unless they are too long. -/
theorem reaches_iff (directory : files.HasDirectory path place)
    (named : IsFileName (documentName id)) :
    Reaches files path place text id ↔ text = id ∨ ∃ front, text = front ++ "/" ++ id ∧
      files.locate (path.join (front ++ "/")) = .ok place ∧
        (path.join (documentName text)).text.utf8ByteSize < Files.pathLimit := by
  constructor
  · intro reaches
    rcases Text.exists_last_mark text.toList with slashless | ⟨front, last, whole, slashless⟩
    · exact .inl (eq_of_reaches directory slashless reaches)
    · obtain rfl : text = String.ofList front ++ "/" ++ String.ofList last := by
        rw [← String.toList_inj, whole]
        simp
      have slashless' : '/' ∉ (String.ofList last).toList := by rwa [String.toList_ofList]
      obtain rfl := eq_of_reaches_detour slashless' reaches
      exact .inr ⟨_, rfl, (reaches_detour_iff directory named).mp reaches⟩
  · rintro (rfl | ⟨front, rfl, leads⟩)
    · exact reaches_self directory named
    · exact (reaches_detour_iff directory named).mpr leads

/-! ## Erasing -/

/-- Erasing by a text that leads to a document takes that document away and no other. -/
theorem erase_of_reaches (reaches : Reaches files path place text id)
    (free : files.find? (place ++ [documentName id]) ≠ some .directory) :
    ∃ changed, erase files path (.str text) = .ok changed ∧ files.KeepsDirectories changed ∧
      ∀ goal, changed.find? goal =
        if goal = place ++ [documentName id] then none else files.find? goal := by
  have asked : documentPath path (.str text) = .ok (path.join (documentName text)) := rfl
  rw [Reaches] at reaches
  rw [erase, asked]
  cases found : files.find? (place ++ [documentName id]) with
  | none =>
    refine ⟨files, ?_, ⟨rfl, fun _ kept => kept⟩, fun goal => ?_⟩
    · simp only [Files.present, Files.status, Files.entry, reaches, found, bind, Except.bind]
      rfl
    · split
      · rename_i same
        rw [same, found]
      · rfl
  | some entry =>
    cases entry with
    | directory => exact absurd found free
    | file content =>
      have occupied : files.isDirectoryAt (place ++ [documentName id]) = false := by
        rw [Files.isDirectoryAt, found]
      refine ⟨files.remove (place ++ [documentName id]), ?_,
        Files.keepsDirectories_remove occupied, Files.find?_remove files (by simp)⟩
      simp only [Files.present, Files.status, Files.entry, Files.unlink, reaches, found, bind,
        Except.bind]
      rfl

/-- Erasing by a text that leads to no document of a directory leaves them all. -/
theorem erase_elsewhere (elsewhere : ∀ id, ¬ Reaches files path place text id)
    (erased : erase files path (.str text) = .ok changed) (id : String) :
    changed.find? (place ++ [documentName id]) = files.find? (place ++ [documentName id]) := by
  have asked : documentPath path (.str text) = .ok (path.join (documentName text)) := rfl
  rw [erase, asked] at erased
  obtain ⟨document, made, erased⟩ := Result.bind_ok erased
  obtain rfl := Except.ok.inj made
  obtain ⟨present, -, erased⟩ := Result.bind_ok erased
  cases present with
  | false =>
    obtain rfl := Except.ok.inj erased
    rfl
  | true =>
    rw [if_pos rfl, Files.unlink] at erased
    split at erased
    · rename_i goal content located found
      obtain rfl := Except.ok.inj erased
      have file := Files.find?_of_entry located found
      have below : goal ≠ [] := by
        rintro rfl
        cases file
      rw [Files.find?_remove files below, if_neg]
      intro same
      exact elsewhere id (located.trans (congrArg Except.ok same.symm))
    · cases erased
    · cases erased
    · cases erased

end Folder

end Stepwise
