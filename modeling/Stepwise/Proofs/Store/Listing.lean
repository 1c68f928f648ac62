import Stepwise.Proofs.Store.Agreement
import Stepwise.Proofs.Store.Answers

/-!
# What a listing passes over

A listing of a folder goes through the documents in it and loads each by the name that it is named
for. What cannot be read is passed over, so the answer is made of the executions that can be loaded,
as if nothing else were there. But a document that goes astray ends the listing, and so does a start
time that no instant can be told for.
-/

namespace Stepwise

namespace Folder

variable {files : Files} {path : Path} {place : Place} {id : String} {entry : Entry}

/-! ## Documents -/

/-- The name of the document that is loaded for a name: the name itself, unless there is nothing in
front of its ending. -/
def askedName (name : String) : String :=
  documentName (String.ofList (Path.splitName name.toList).1)

def isDocument (name : String) : Bool := ending.toList.isSuffixOf name.toList

/-- What is loaded for some names. -/
def asked (inside : List (String × Entry)) (names : List String) : List Entry :=
  names.filterMap fun name => inside.lookup (askedName name)

/-- What a listing loads, the latest first. -/
def listed (inside : List (String × Entry)) : List Entry :=
  asked inside ((inside.map Prod.fst).reverse.filter isDocument)

/-- The execution that something gives. -/
def execution? : Entry → Option Execution
  | .directory => none
  | .file content => (executionOf content).toOption

/-- Whether something goes astray when it is loaded. -/
def isAstray : Entry → Bool
  | .directory => false
  | .file content =>
    match executionOf content with
    | .ok _ => false
    | .error f => !isDocumentFault f

/-- What a load comes to for a listing: an execution, or none where it is passed over. -/
def ComesTo (found : Option Execution) (answer : Except Fault (Option Execution)) : Prop :=
  answer = .ok found ∨ found = none ∧ ∃ message, answer = .error (.persistenceOf message)

/-- What is there either goes astray or comes to the execution that it gives. -/
theorem Answers.cases {answer : Except Fault (Option Execution)} (answers : Answers entry answer) :
    (isAstray entry = true ∧ ∃ f, IsStray f ∧ answer = .error f) ∨
      isAstray entry = false ∧ ComesTo (execution? entry) answer := by
  cases answers with
  | execution read fit =>
    right
    rw [isAstray, execution?, read]
    exact ⟨rfl, .inl rfl⟩
  | refusal refused refusal message =>
    right
    rw [isAstray, execution?, refused]
    dsimp only
    rw [refusal.1]
    exact ⟨rfl, .inr ⟨rfl, message, rfl⟩⟩
  | directory message => exact .inr ⟨rfl, .inr ⟨rfl, message, rfl⟩⟩
  | stray astray stray unfit =>
    left
    rw [isAstray, astray]
    dsimp only
    rw [not_isDocumentFault stray]
    exact ⟨rfl, _, stray, rfl⟩

theorem stem_eq (path : Path) (name : String) :
    documentName (path.below name).stem = askedName name := by
  unfold askedName Path.stem Path.name Path.below
  rw [List.getLast?_concat]
  rfl

theorem askedName_documentName (proper : id ≠ "") :
    askedName (documentName id) = documentName id := by
  rw [← stem_eq ⟨"", []⟩, stem_documentName proper]

/-- A document is loaded under its own name, unless that is the ending alone. -/
theorem askedName_cases {name : String} (document : isDocument name = true) :
    askedName name = name ∨ name = ending := by
  obtain ⟨front, whole⟩ := List.isSuffixOf_iff_suffix.mp document
  obtain rfl : documentName (String.ofList front) = name := by
    rw [← String.toList_inj, documentName, String.toList_append, String.toList_ofList, whole]
  by_cases blank : String.ofList front = ""
  · right
    rw [documentName, blank]
    rfl
  · exact .inl (askedName_documentName blank)

theorem isFileName_askedName {name : String} (document : isDocument name = true)
    (named : IsFileName name) : IsFileName (askedName name) := by
  rcases askedName_cases document with same | rfl
  · exact same.symm ▸ named
  · exact ⟨by decide, by decide, by decide, by decide⟩

theorem asked_cons (inside : List (String × Entry)) (name : String) (rest : List String) :
    asked inside (name :: rest) = (inside.lookup (askedName name)).toList ++ asked inside rest := by
  unfold asked
  rw [List.filterMap_cons]
  cases inside.lookup (askedName name) <;> rfl

theorem any_asked_cons (inside : List (String × Entry)) (name : String) (rest : List String) :
    (asked inside (name :: rest)).any isAstray =
      ((inside.lookup (askedName name)).any isAstray || (asked inside rest).any isAstray) := by
  rw [asked_cons, List.any_append]
  cases inside.lookup (askedName name) with
  | none => rfl
  | some entry => simp

theorem executions_asked_cons (inside : List (String × Entry)) (name : String)
    (rest : List String) :
    (asked inside (name :: rest)).filterMap execution? =
      ((inside.lookup (askedName name)).bind execution?).toList ++
        (asked inside rest).filterMap execution? := by
  rw [asked_cons, List.filterMap_append]
  cases inside.lookup (askedName name) with
  | none => rfl
  | some entry => cases given : execution? entry <;> simp [given]

/-- Whatever there is under a name, or if there is nothing, it goes astray or comes to the execution
that it gives. -/
theorem load_cases (directory : files.HasDirectory path place)
    (named : IsFileName (documentName id)) :
    (((files.inside place).lookup (documentName id)).any isAstray = true ∧
        ∃ f, IsStray f ∧ load files path (.str id) = .error f) ∨
      ((files.inside place).lookup (documentName id)).any isAstray = false ∧
        ComesTo (((files.inside place).lookup (documentName id)).bind execution?)
          (load files path (.str id)) := by
  have asked := documentPath_str (slashless_of_documentName named) path
  have located := directory.locate_below named
  rw [← Files.find?_below]
  cases present : files.find? (place ++ [documentName id]) with
  | none => exact .inr ⟨rfl, .inl (load_of_missing asked located present)⟩
  | some entry => exact (load_answers asked located present).cases

theorem askedName_askedName {name : String} (document : isDocument name = true) :
    askedName (askedName name) = askedName name := by
  rcases askedName_cases document with same | rfl
  · rw [same, same]
  · exact askedName_documentName (by decide)

theorem documents_listed (directory : files.HasDirectory path place) :
    documents files path =
      (((files.inside place).map Prod.fst).reverse.filter isDocument).map path.below := by
  rw [documents, Files.withEnding, Files.names_eq directory.located]
  rfl

/-! ## What can be read -/

/-- Whether a name is a document that a listing gets an execution for. -/
def isReadable (inside : List (String × Entry)) (name : String) : Bool :=
  isDocument name && ((inside.lookup (askedName name)).bind execution?).isSome

/-- A directory with nothing in it but the documents that can be read. -/
def readable (inside : List (String × Entry)) : List (String × Entry) :=
  inside.filter fun known => isReadable inside known.1

theorem isDocument_askedName (name : String) : isDocument (askedName name) = true := by
  rw [isDocument, List.isSuffixOf_iff_suffix, askedName, documentName, String.toList_append]
  exact List.suffix_append _ _

/-- What can be read is read in the same way when nothing else is there. -/
theorem lookup_readable {inside : List (String × Entry)} {name : String}
    (reads : isReadable inside name = true) :
    (readable inside).lookup (askedName name) = inside.lookup (askedName name) := by
  obtain ⟨document, given⟩ := Bool.and_eq_true_iff.mp reads
  refine Files.lookup_filter inside (isReadable inside) ?_
  rw [isReadable, askedName_askedName document, isDocument_askedName, given]
  rfl

theorem not_isAstray (given : (execution? entry).isSome = true) : isAstray entry = false := by
  cases entry with
  | directory => cases given
  | file content =>
    rw [execution?] at given
    rw [isAstray]
    cases read : executionOf content with
    | ok found => rfl
    | error f =>
      rw [read] at given
      cases given

/-- What is loaded by names comes to the same when nothing but what can be read is there and what
cannot be read is not asked for. -/
theorem asked_readable (inside : List (String × Entry)) {names : List String}
    (documents : ∀ name ∈ names, isDocument name = true) :
    (asked (readable inside) (names.filter (isReadable inside))).filterMap execution? =
        (asked inside names).filterMap execution? ∧
      (asked (readable inside) (names.filter (isReadable inside))).any isAstray = false := by
  induction names with
  | nil => exact ⟨rfl, rfl⟩
  | cons name rest inductionHypothesis =>
    obtain ⟨document, others⟩ := List.forall_mem_cons.mp documents
    obtain ⟨same, straight⟩ := inductionHypothesis others
    rw [executions_asked_cons]
    by_cases reads : isReadable inside name = true
    · rw [List.filter_cons_of_pos reads, executions_asked_cons, any_asked_cons,
        lookup_readable reads, same, straight]
      refine ⟨rfl, ?_⟩
      obtain ⟨-, given⟩ := Bool.and_eq_true_iff.mp reads
      cases present : inside.lookup (askedName name) with
      | none => rfl
      | some entry =>
        rw [present] at given
        rw [Option.any_some, not_isAstray given]
        rfl
    · rw [List.filter_cons_of_neg reads, same]
      refine ⟨?_, straight⟩
      rw [isReadable, document, Bool.true_and, Bool.not_eq_true, Option.isSome_eq_false_iff,
        Option.isNone_iff_eq_none] at reads
      rw [reads]
      rfl

/-- The documents that can be read are listed alike when nothing else is there. -/
theorem listed_readable (inside : List (String × Entry)) :
    (listed (readable inside)).filterMap execution? = (listed inside).filterMap execution? ∧
      (listed (readable inside)).any isAstray = false := by
  have names : ((readable inside).map Prod.fst).reverse.filter isDocument =
      ((inside.map Prod.fst).reverse.filter isDocument).filter (isReadable inside) := by
    have kept : (readable inside).map Prod.fst =
        (inside.map Prod.fst).filter (isReadable inside) := by
      rw [List.filter_map]
      rfl
    rw [kept, ← List.filter_reverse, List.filter_filter, List.filter_filter]
    refine List.filter_congr fun name _ => ?_
    rw [Bool.and_comm]
  rw [listed, names]
  exact asked_readable inside fun name member => (List.mem_filter.mp member).2

/-- What was written of an execution gives that execution. -/
theorem execution?_content {execution : Execution} (fit : CanKeep execution) :
    execution? (.file (content execution)) = some execution := by
  obtain ⟨text, -, encoded, plain, read⟩ := fit.document
  rw [← encoded, execution?, executionOf, Utf8.decode_encode]
  dsimp only
  rw [Text.uniformLines_of_plain plain, read]
  dsimp only
  rw [Execution.ofDocument_record (Execution.isTimed_of_hasForm fit.form)]
  rfl

end Folder

/-! ## Start times -/

/-- The execution started in the first day of the calendar, but it is not told in which zone. -/
def Execution.isTimeless (execution : Execution) : Bool :=
  execution.startedAt.any fun m => m.offset.isNone && decide (m.date = ⟨1, 1, 1⟩)

namespace Listing

variable {executions : List Execution}

/-- What ends a listing of an execution for which no instant can be told. -/
def outOfRange : Fault := .valueError "year 0 is out of range"

theorem key_cases (execution : Execution) :
    (execution.isTimeless = false → ∃ k, key execution = .ok k) ∧
      (execution.isTimeless = true → key execution = .error outOfRange) := by
  unfold Execution.isTimeless key
  cases execution.startedAt with
  | none => exact ⟨fun _ => ⟨_, rfl⟩, nofun⟩
  | some m =>
    obtain ⟨date, hour, minute, second, microsecond, offset⟩ := m
    dsimp only [Option.any_some, Moment.timestamp]
    cases offset with
    | some zone => exact ⟨fun _ => ⟨_, rfl⟩, nofun⟩
    | none =>
      rw [Option.isNone_none, Bool.true_and]
      dsimp only
      by_cases first : date = ⟨1, 1, 1⟩
      · rw [if_pos first, decide_eq_true first]
        exact ⟨nofun, fun _ => rfl⟩
      · rw [if_neg first, decide_eq_false first]
        exact ⟨fun _ => ⟨_, rfl⟩, nofun⟩

/-- A listing has executions in some order, up to its limit, unless no instant can be told for one
of them. -/
theorem newest_cases (executions : List Execution) (limit : Int) :
    (executions.any Execution.isTimeless = false →
      ∃ ordered : List Execution, ordered.Perm executions ∧
        newest executions (.int limit) = .ok (ordered.take limit.toNat)) ∧
    (executions.any Execution.isTimeless = true →
      newest executions (.int limit) = .error outOfRange) := by
  obtain ⟨timely, timeless⟩ : (executions.any Execution.isTimeless = false →
        ∃ keyed, executions.mapM (fun execution => do
          let k ← key execution
          return (k, execution)) = .ok keyed ∧ keyed.map Prod.snd = executions) ∧
      (executions.any Execution.isTimeless = true →
        executions.mapM (fun execution => do
          let k ← key execution
          return (k, execution)) = .error outOfRange) := by
    induction executions with
    | nil => exact ⟨fun _ => ⟨[], rfl, rfl⟩, nofun⟩
    | cons execution rest inductionHypothesis =>
      obtain ⟨given, failed⟩ := inductionHypothesis
      obtain ⟨told, untold⟩ := key_cases execution
      rw [List.any_cons, List.mapM_cons]
      cases first : execution.isTimeless with
      | true =>
        rw [untold first]
        exact ⟨nofun, fun _ => rfl⟩
      | false =>
        obtain ⟨k, known⟩ := told first
        rw [Bool.false_or, known]
        constructor
        · intro all
          obtain ⟨keyed, made, same⟩ := given all
          refine ⟨(k, execution) :: keyed, ?_, by rw [List.map_cons, same]⟩
          rw [made]
          rfl
        · intro some
          rw [failed some]
          rfl
  constructor
  · intro all
    obtain ⟨keyed, made, same⟩ := timely all
    refine ⟨(keyed.mergeSort fun a b => !a.1.less b.1).map Prod.snd, ?_, ?_⟩
    · rw [← same]
      exact (List.mergeSort_perm keyed _).map Prod.snd
    · rw [newest, sorted, made]
      rfl
  · intro some
    rw [newest, sorted, timeless some]
    rfl

end Listing

namespace Store

open Folder

variable {store : Store} {path : Path} {place : Place}

theorem loadEach_of_comesTo (folder : store.IsFolder path) {document : Path}
    {found : Option Execution}
    (comes : ComesTo found (Folder.load store.files path (.str document.stem))) (rest : List Path) :
    ((loadEach (document :: rest)).runOn store).1 =
      ((loadEach rest).runOn (store.counting .load)).1.map (found.toList ++ ·) := by
  have first : (tryCatch (load (.str document.stem)) fun f =>
      if f.isPersistence then return none else throw f).runOn store =
        (.ok found, store.counting .load) := by
    rw [Effect.runOn_tryCatch, folder.load_eq]
    obtain answered | ⟨rfl, message, answered⟩ := comes
    · rw [answered]
    · rw [answered]
      rfl
  rw [loadEach, Effect.runOn_bind, first]
  dsimp only
  rw [Effect.runOn_bind]
  rcases (loadEach rest).runOn (store.counting .load) with ⟨_ | _, left⟩ <;> rfl

theorem loadEach_of_stray (folder : store.IsFolder path) {document : Path} {f : Fault}
    (astray : Folder.load store.files path (.str document.stem) = .error f) (stray : IsStray f)
    (rest : List Path) : ((loadEach (document :: rest)).runOn store).1 = .error f := by
  have foreign : f.isPersistence = false := by
    obtain ⟨message, rfl⟩ | ⟨message, rfl⟩ := stray
    · rfl
    · rfl
  rw [loadEach, Effect.runOn_bind, Effect.runOn_tryCatch, folder.load_eq, astray]
  dsimp only
  rw [foreign]
  rfl

/-- Loading document by document comes to the executions that the documents give, unless one of them
goes astray. -/
theorem loadEach_cases (folder : store.IsFolder path)
    (directory : store.files.HasDirectory path place) {names : List String}
    (named : ∀ name ∈ names, IsFileName (askedName name)) :
    ((asked (store.files.inside place) names).any isAstray = false →
      ((loadEach (names.map path.below)).runOn store).1 =
        .ok ((asked (store.files.inside place) names).filterMap execution?)) ∧
    ((asked (store.files.inside place) names).any isAstray = true →
      ∃ f, IsStray f ∧ ((loadEach (names.map path.below)).runOn store).1 = .error f) := by
  induction names generalizing store with
  | nil => exact ⟨fun _ => rfl, nofun⟩
  | cons name rest inductionHypothesis =>
    obtain ⟨proper, others⟩ := List.forall_mem_cons.mp named
    obtain ⟨given, failed⟩ := inductionHypothesis (folder.counting .load) directory others
    rw [counting_files] at given failed
    rw [← stem_eq path] at proper
    rw [List.map_cons]
    rw [any_asked_cons, executions_asked_cons, ← stem_eq path]
    obtain ⟨astray, f, stray, answered⟩ | ⟨passed, comes⟩ := load_cases directory proper
    · rw [astray, Bool.true_or]
      exact ⟨nofun, fun _ => ⟨f, stray, loadEach_of_stray folder answered stray _⟩⟩
    · rw [passed, Bool.false_or, loadEach_of_comesTo folder comes]
      constructor
      · intro all
        rw [given all]
        rfl
      · intro some
        obtain ⟨f, stray, ended⟩ := failed some
        rw [ended]
        exact ⟨f, stray, rfl⟩

/-- A listing puts the executions in order that the documents give, unless one of them goes
astray. -/
theorem list_cases (folder : store.IsFolder path)
    (directory : store.files.HasDirectory path place)
    (named : ∀ known ∈ store.files.inside place, IsFileName known.1) (filter : Filter)
    (limit : Value) :
    ((listed (store.files.inside place)).any isAstray = false →
      ((list filter limit).runOn store).1 = Listing.newest
        (((listed (store.files.inside place)).filterMap execution?).filter filter.accepts) limit) ∧
    ((listed (store.files.inside place)).any isAstray = true →
      ∃ f, IsStray f ∧ ((list filter limit).runOn store).1 = .error f) := by
  have proper : ∀ name ∈ ((store.files.inside place).map Prod.fst).reverse.filter isDocument,
      IsFileName (askedName name) := by
    intro name member
    obtain ⟨present, document⟩ := List.mem_filter.mp member
    obtain ⟨known, there, rfl⟩ := List.mem_map.mp (List.mem_reverse.mp present)
    exact isFileName_askedName document (named known there)
  obtain ⟨given, failed⟩ := loadEach_cases (folder.counting .list) directory proper
  rw [counting_files] at given failed
  rw [list, Effect.runOn_bind, folder.enter_eq]
  dsimp only
  rw [Effect.runOn_get_bind, counting_backing, folder.backing]
  dsimp only
  rw [counting_files, documents_listed directory, Effect.runOn_bind]
  rcases loaded : (loadEach ((((store.files.inside place).map Prod.fst).reverse.filter
    isDocument).map path.below)).runOn (store.counting .list) with ⟨result, left⟩
  rw [loaded] at given failed
  dsimp only at given failed ⊢
  constructor
  · intro all
    obtain rfl := given all
    dsimp only
    rw [Effect.runOn_lift]
    rfl
  · intro some
    obtain ⟨f, stray, rfl⟩ := failed some
    exact ⟨f, stray, rfl⟩

/-- A store in a folder passes over what cannot be read there. -/
structure PassesOver (store : Store) (place : Place) : Prop where
  /-- Loading the id that a file is named for gives an execution or is refused, unless the file holds
  JSON of another shape or depth. -/
  loads : ∀ id entry, (store.files.inside place).lookup (documentName id) = some entry →
    Answers entry ((load (.str id)).runOn store).1
  /-- A listing answers from all the executions that the files give, and from nothing else. -/
  lists : ∀ filter limit, (listed (store.files.inside place)).any isAstray = false →
    (((listed (store.files.inside place)).filterMap execution?).filter filter.accepts).any
      Execution.isTimeless = false →
    ∃ ordered : List Execution, ordered.Perm
        (((listed (store.files.inside place)).filterMap execution?).filter filter.accepts) ∧
      ((list filter (.int limit)).runOn store).1 = .ok (ordered.take limit.toNat)
  /-- It answers as if the files that cannot be read were absent. -/
  alone : ∀ filter limit (other : Store) path' place', other.IsFolder path' →
    other.files.HasDirectory path' place' →
    other.files.inside place' = readable (store.files.inside place) →
    (listed (store.files.inside place)).any isAstray = false →
    ((list filter limit).runOn other).1 = ((list filter limit).runOn store).1
  /-- One file that goes astray ends it. -/
  astray : ∀ filter limit, (listed (store.files.inside place)).any isAstray = true →
    ∃ f, IsStray f ∧ ((list filter limit).runOn store).1 = .error f
  /-- So does an execution to be listed for whose start no instant can be told. -/
  timeless : ∀ filter limit, (listed (store.files.inside place)).any isAstray = false →
    (((listed (store.files.inside place)).filterMap execution?).filter filter.accepts).any
      Execution.isTimeless = true →
    ((list filter (.int limit)).runOn store).1 = .error Listing.outOfRange

/-- Whatever there is in its folder, a store passes over what cannot be read, but not over JSON of
another shape or depth. -/
theorem passes_over_unreadable (folder : store.IsFolder path)
    (directory : store.files.HasDirectory path place)
    (named : ∀ known ∈ store.files.inside place, IsFileName known.1) : store.PassesOver place where
  loads id entry present := by
    obtain ⟨front, back, split, -⟩ := List.lookup_eq_some_iff.mp present
    have member : (documentName id, entry) ∈ store.files.inside place := by
      rw [split]
      simp
    have proper := named _ member
    rw [folder.load_eq]
    exact load_answers (documentPath_str (slashless_of_documentName proper) path)
      (directory.locate_below proper) ((Files.find?_below _ place _).trans present)
  lists filter limit straight timely := by
    rw [(list_cases folder directory named filter (.int limit)).1 straight]
    exact (Listing.newest_cases _ limit).1 timely
  alone filter limit other path' place' folder' directory' inside straight := by
    have named' : ∀ known ∈ other.files.inside place', IsFileName known.1 := by
      intro known member
      rw [inside] at member
      exact named known (List.mem_of_mem_filter member)
    obtain ⟨same, straight'⟩ := listed_readable (store.files.inside place)
    rw [← inside] at same straight'
    rw [(list_cases folder directory named filter limit).1 straight,
      (list_cases folder' directory' named' filter limit).1 straight', same]
  astray filter limit := (list_cases folder directory named filter limit).2
  timeless filter limit straight untimely := by
    rw [(list_cases folder directory named filter (.int limit)).1 straight]
    exact (Listing.newest_cases _ limit).2 untimely

namespace Sample

/-- A folder with an execution in it, a file that is no JSON, one that misses every key, and a
directory with the name of a document. -/
def cluttered : Store := create (.folder Sample.path)
  ⟨[(["data"], .directory), (["data", "a-1.json"], .file (content (record "a-1" 2024))),
    (["data", "b-1.json"], .file [0x7b]), (["data", "c-1.json"], .file [0x7b, 0x7d]),
    (["data", "d-1.json"], .directory)], []⟩

theorem inside_cluttered : cluttered.files.inside ["data"] =
    [("a-1.json", .file (content (record "a-1" 2024))), ("b-1.json", .file [0x7b]),
      ("c-1.json", .file [0x7b, 0x7d]), ("d-1.json", .directory)] := rfl

theorem listed_cluttered : listed (cluttered.files.inside ["data"]) =
    [.directory, .file [0x7b, 0x7d], .file [0x7b], .file (content (record "a-1" 2024))] := by
  rw [inside_cluttered]
  rfl

theorem canKeep_record : CanKeep (record "a-1" 2024) :=
  ⟨⟨_, rfl, isId_of_letters (by decide) rfl (by decide +kernel)⟩, by decide +kernel,
    by decide +kernel⟩

/-- What ends a listing of the folder is nothing that is in it. -/
theorem found_cluttered : (listed (cluttered.files.inside ["data"])).filterMap execution? =
      [record "a-1" 2024] ∧
    (listed (cluttered.files.inside ["data"])).any isAstray = false := by
  have given := execution?_content canKeep_record
  rw [listed_cluttered]
  constructor
  · simp only [List.filterMap_cons, given]
    rfl
  · simp only [List.any_cons, not_isAstray (Option.isSome_iff_exists.mpr ⟨_, given⟩)]
    rfl

theorem hasDirectory_cluttered : cluttered.files.HasDirectory Sample.path ["data"] where
  located := by decide +kernel
  found := rfl
  room := by decide +kernel

theorem isFileName_cluttered : ∀ known ∈ cluttered.files.inside ["data"], IsFileName known.1 := by
  have each : ∀ name ∈ ["a-1.json", "b-1.json", "c-1.json", "d-1.json"], IsFileName name := by
    intro name member
    simp only [List.mem_cons, List.not_mem_nil, or_false] at member
    rcases member with rfl | rfl | rfl | rfl
    all_goals exact ⟨by decide, by decide, by decide, by decide⟩
  intro known member
  exact each known.1 (List.mem_map_of_mem member)

end Sample

theorem cluttered_passes_over :
    Sample.cluttered.IsFolder Sample.path ∧
      Sample.cluttered.files.HasDirectory Sample.path ["data"] ∧
      (∀ known ∈ Sample.cluttered.files.inside ["data"], IsFileName known.1) ∧
      Sample.cluttered.PassesOver ["data"] ∧
      ((list .all (.int 100)).runOn Sample.cluttered).1 = .ok [Sample.record "a-1" 2024] := by
  have folder : Sample.cluttered.IsFolder Sample.path := ⟨rfl, fun _ _ => rfl⟩
  have passes := passes_over_unreadable folder Sample.hasDirectory_cluttered
    Sample.isFileName_cluttered
  refine ⟨folder, Sample.hasDirectory_cluttered, Sample.isFileName_cluttered, passes, ?_⟩
  obtain ⟨found, straight⟩ := Sample.found_cluttered
  obtain ⟨ordered, same, answered⟩ := passes.lists .all 100 straight (by rw [found]; rfl)
  rw [found] at same
  obtain rfl : ordered = [Sample.record "a-1" 2024] := List.perm_singleton.mp same
  exact answered

/-- A folder with a file that holds an empty list. -/
def Sample.misled : Store := create (.folder Sample.path)
  ⟨[(["data"], .directory), (["data", "a-1.json"], .file [0x5b, 0x5d])], []⟩

/-- A file that holds an empty list is no execution, and still it is not refused: loading it goes
astray, and it ends the listing of the folder. -/
theorem listing_ended_by_empty_list :
    Sample.misled.files.HasDirectory Sample.path ["data"] ∧
      Sample.misled.files.inside ["data"] = [(documentName "a-1", .file [0x5b, 0x5d])] ∧
      IsFileName (documentName "a-1") ∧
      (∃ f, IsStray f ∧ ((load (.str "a-1")).runOn Sample.misled).1 = .error f) ∧
      ∃ f, IsStray f ∧ ((list .all (.int 100)).runOn Sample.misled).1 = .error f := by
  have folder : Sample.misled.IsFolder Sample.path := ⟨rfl, fun _ _ => rfl⟩
  have directory : Sample.misled.files.HasDirectory Sample.path ["data"] :=
    ⟨by decide +kernel, rfl, by decide +kernel⟩
  have inside : Sample.misled.files.inside ["data"] =
      [(documentName "a-1", .file [0x5b, 0x5d])] := rfl
  have named : IsFileName (documentName "a-1") := ⟨by decide, by decide, by decide, by decide⟩
  refine ⟨directory, inside, named, ?_, ?_⟩
  · have present : (Sample.misled.files.inside ["data"]).lookup (documentName "a-1") =
        some (.file [0x5b, 0x5d]) := rfl
    rw [folder.load_eq]
    obtain ⟨-, strays⟩ | ⟨straight, -⟩ := load_cases directory named
    · exact strays
    · rw [present] at straight
      cases straight
  · refine (list_cases folder directory ?_ .all (.int 100)).2 rfl
    rw [inside]
    intro known member
    rw [List.mem_singleton.mp member]
    exact named

end Store

end Stepwise
