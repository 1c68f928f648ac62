import Stepwise.Proofs.Store.Keys
import Stepwise.Proofs.Store.Listing
import Stepwise.Proofs.Value.Key

/-!
# What a store stocks

Whatever is saved in a store and deleted again, and whichever of these calls are planned to fail,
the store stocks under each id what was saved under it last, unless it was deleted since: a store
in memory has a copy of it, and a store in a folder has its document and no other documents.
-/

namespace Stepwise

/-- The execution is of the same run, in the same state and with the same times. -/
structure Execution.Resembles (execution other : Execution) : Prop where
  id : execution.id = other.id
  status : execution.status = other.status
  startedAt : execution.startedAt = other.startedAt
  finishedAt : execution.finishedAt = other.finishedAt

theorem Execution.Resembles.trans {execution other last : Execution}
    (first : execution.Resembles other) (second : other.Resembles last) :
    execution.Resembles last where
  id := first.id.trans second.id
  status := first.status.trans second.status
  startedAt := first.startedAt.trans second.startedAt
  finishedAt := first.finishedAt.trans second.finishedAt

/-- A copy is of the same run. -/
theorem Execution.resembles_copied {execution : Execution} {id : String}
    (own : execution.id = .str id) : execution.copied.Resembles execution where
  id := by
    rw [copied, own]
    exact Value.copied_of_isText rfl
  status := rfl
  startedAt := rfl
  finishedAt := rfl

/-- What is left of what is kept when some ids are taken away. -/
def omitting (gone : List String) (kept : String → Option Execution) (id : String) :
    Option Execution :=
  if id ∈ gone then none else kept id

theorem omitting_singleton (id : String) (kept : String → Option Execution) :
    omitting [id] kept = fun other => if id = other then none else kept other := by
  funext other
  simp only [omitting, List.mem_singleton, eq_comm]

/-- The ids in the order in which they came, after a change that is done or is not. What is saved
under a known id leaves it in its place. -/
def StoreChange.orders (ids : List String) (done : Bool) : StoreChange → List String
  | save execution =>
    match done, execution.id with
    | true, .str id => if id ∈ ids then ids else ids ++ [id]
    | _, _ => ids
  | delete id => if done then ids.filter fun other => other ≠ id else ids

theorem StoreChange.orders_save {execution : Execution} {id : String}
    (own : execution.id = .str id) (ids : List String) :
    (save execution).orders ids true = if id ∈ ids then ids else ids ++ [id] := by
  simp only [orders, own]

/-- The ids in the order in which they were first saved in a store, or first since they were deleted
there. -/
def Store.orderAfter (store : Store) (ids : List String) : List StoreChange → List String
  | [] => ids
  | change :: rest =>
    orderAfter (change.make.runOn store).2 (change.orders ids (change.make.runOn store).1.isOk) rest

namespace Folder

variable {files changed : Files} {path : Path} {place : Place} {kept : String → Option Execution}
  {id : String} {execution : Execution}

/-- Whatever is written of an execution is read as one that resembles it. -/
def GivesBack (execution : Execution) : Prop :=
  ∀ bytes, written execution = .ok bytes → ∃ read, executionOf bytes = .ok read ∧
    read.Resembles execution

/-- Executions of data are given back, unless they are nested too deep or their times cannot be
told. -/
theorem givesBack_of_isData (own : execution.id = .str id) (data : execution.isData = true)
    (told : execution.isTold = true) (shallow : execution.record.nesting ≤ Json.deepest) :
    GivesBack execution := by
  intro bytes made
  refine ⟨execution.reread, executionOf_written_of_isTold made data told shallow, ?_, rfl, rfl, rfl⟩
  rw [Execution.reread, own]
  exact Value.reread_of_isJson _ (by rw [Value.isJson])

/-! ## Names of documents -/

/-- The names of the documents in a directory. -/
def documentNames (inside : List (String × Entry)) : List String :=
  (inside.map Prod.fst).filter isDocument

theorem isDocument_documentName (id : String) : isDocument (documentName id) = true := by
  rw [isDocument, List.isSuffixOf_iff_suffix, documentName, String.toList_append]
  exact List.suffix_append _ _

theorem isDocument_draftName (id : String) : isDocument (draftName id) = false := by
  rw [← Bool.not_eq_true, isDocument, List.isSuffixOf_iff_suffix]
  rintro ⟨front, whole⟩
  have last := congrArg List.getLast? whole
  simp [draftName, ending] at last

theorem documentNames_append (inside others : List (String × Entry)) :
    documentNames (inside ++ others) = documentNames inside ++ documentNames others := by
  rw [documentNames, List.map_append, List.filter_append]
  rfl

theorem documentNames_without (inside : List (String × Entry)) (name : String) :
    documentNames (inside.filter fun known => known.1 ≠ name) =
      (documentNames inside).filter fun known => known ≠ name := by
  have names : (inside.filter fun known => known.1 ≠ name).map Prod.fst =
      (inside.map Prod.fst).filter fun known => known ≠ name := by
    rw [List.filter_map]
    rfl
  rw [documentNames, documentNames, names, List.filter_filter, List.filter_filter]
  exact List.filter_congr fun known _ => Bool.and_comm _ _

/-- A draft is not among the documents. -/
theorem documentNames_without_draft (inside : List (String × Entry)) (id : String) :
    documentNames (inside.filter fun known => known.1 ≠ draftName id) = documentNames inside := by
  rw [documentNames_without]
  refine List.filter_eq_self.mpr fun name member => decide_eq_true ?_
  rintro rfl
  have document := (List.mem_filter.mp member).2
  rw [isDocument_draftName] at document
  cases document

theorem map_documentName_without (ids : List String) (id : String) :
    (ids.map documentName).filter (fun name => name ≠ documentName id) =
      (ids.filter fun other => other ≠ id).map documentName := by
  rw [List.filter_map]
  congr 1
  refine List.filter_congr fun other _ => ?_
  simp [Function.comp_apply, (⟨documentName_inj, congrArg documentName⟩ :
    documentName other = documentName id ↔ other = id)]

/-- The document that is saved comes last. -/
theorem Keeps.documentNames_saved (keeps : Keeps files path place kept) (named : IsId id)
    (own : execution.id = .str id) {bytes : List UInt8} (made : written execution = .ok bytes)
    (saved : save files path execution = (.ok (), changed)) :
    documentNames (changed.inside place) =
      ((documentNames (files.inside place)).filter fun name => name ≠ documentName id) ++
        [documentName id] := by
  obtain ⟨document, given, rest⟩ := Result.bind_ok made
  obtain ⟨text, formed, -⟩ := Result.bind_ok rest
  obtain ⟨left, answered, -, inside⟩ := save_of_document keeps.directory given formed named own
    (keeps.flat (documentName id)) (keeps.flat (draftName id))
  obtain ⟨-, rfl⟩ := Prod.mk.inj (saved.symm.trans answered)
  rw [inside, documentNames_append, documentNames_without, documentNames_without_draft]
  congr 1
  exact List.filter_eq_self.mpr (by simp [isDocument_documentName])

theorem Keeps.documentNames_unsaved (keeps : Keeps files path place kept) (named : IsId id)
    (own : execution.id = .str id) {f g : Fault} (unmade : written execution = .error f)
    (unsaved : save files path execution = (.error g, changed)) :
    documentNames (changed.inside place) = documentNames (files.inside place) := by
  obtain ⟨_, left, answered, -, drafted⟩ := save_of_unmade keeps.directory unmade named own
    (keeps.flat (draftName id))
  obtain ⟨-, rfl⟩ := Prod.mk.inj (unsaved.symm.trans answered)
  obtain rfl | rfl := drafted
  · rw [Files.inside_remove, documentNames_without_draft]
  · rw [← documentNames_without_draft _ id, ← Files.inside_remove, Files.remove_put,
      Files.inside_remove, documentNames_without_draft]

end Folder

/-! ## Stocks -/

/-- What is in memory are copies of these executions under these ids, and what is in a folder are
their documents. -/
def Backing.Stocks (files : Files) (kept : String → Option Execution) (ids : List String) :
    Backing → Prop
  | .memory table => table.keys = ids.map .str ∧
      (∀ id, table.find? (.str id) = (kept id).map Execution.copied) ∧
      ∀ id execution, kept id = some execution → execution.obstacle? = none
  | .folder path => ∃ place, Folder.Keeps files path place kept ∧
      Folder.documentNames (files.inside place) = ids.map Folder.documentName

def Backing.isFolder : Backing → Bool
  | .memory _ => false
  | .folder _ => true

namespace Store

/-- The store has the executions that are kept, under these ids, and no others. -/
structure Stocks (store : Store) (kept : String → Option Execution) (ids : List String) : Prop where
  apart : ids.Nodup
  listed : ∀ id, id ∈ ids ↔ (kept id).isSome = true
  own : ∀ id execution, kept id = some execution → Folder.IsId id ∧ execution.id = .str id
  backed : store.backing.Stocks store.files kept ids

variable {store left : Store} {kept : String → Option Execution} {ids : List String} {id : String}
  {execution : Execution}

/-! ## What calls do not change -/

/-- The stores are of one kind, and their calls have one plan. -/
structure IsAkin (store other : Store) : Prop where
  plan : store.plan = other.plan
  kind : store.backing.isFolder = other.backing.isFolder

theorem isAkin_counting (store : Store) (call : StoreCall) : (store.counting call).IsAkin store :=
  ⟨rfl, rfl⟩

theorem IsAkin.trans {other last : Store} (first : store.IsAkin other)
    (second : other.IsAkin last) : store.IsAkin last :=
  ⟨first.plan.trans second.plan, first.kind.trans second.kind⟩

theorem isAkin_save (store : Store) (execution : Execution) :
    ((save execution).runOn store).2.IsAkin store := by
  rw [save, Effect.runOn_bind, enter_eq]
  cases store.plan .save (store.made .save + 1) with
  | some f => exact store.isAkin_counting .save
  | none =>
    dsimp only
    rw [Effect.runOn_get_bind, counting_backing]
    cases backing : store.backing with
    | memory table =>
      dsimp only
      rw [Effect.runOn_lift_bind]
      cases execution.snapshot with
      | error f => exact store.isAkin_counting .save
      | ok snapshot =>
        dsimp only
        rw [Effect.runOn_lift_bind]
        cases execution.id.hashable with
        | error f => exact store.isAkin_counting .save
        | ok _ => exact ⟨rfl, by rw [backing]; rfl⟩
    | folder path =>
      dsimp only
      rcases Folder.save (store.counting .save).files path execution with ⟨result, files⟩
      dsimp only
      rw [Effect.runOn_set_bind, Effect.runOn_lift]
      exact ⟨rfl, by rw [backing]⟩

/-- Deleting counts the call, and it counts no other. -/
theorem delete_left (store : Store) (id : Value) :
    ((delete id).runOn store).2.IsAkin store ∧
      ((delete id).runOn store).2.made = (store.counting .delete).made := by
  rw [delete, Effect.runOn_bind, enter_eq]
  cases store.plan .delete (store.made .delete + 1) with
  | some f => exact ⟨store.isAkin_counting .delete, rfl⟩
  | none =>
    dsimp only
    rw [Effect.runOn_get_bind, counting_backing]
    cases backing : store.backing with
    | memory table =>
      cases table with
      | nil => exact ⟨store.isAkin_counting .delete, rfl⟩
      | cons entry rest =>
        dsimp only
        rw [Effect.runOn_lift_bind]
        cases id.hashable with
        | error f => exact ⟨store.isAkin_counting .delete, rfl⟩
        | ok _ => exact ⟨⟨rfl, by rw [backing]; rfl⟩, rfl⟩
    | folder path =>
      dsimp only
      rw [Effect.runOn_lift_bind]
      cases Folder.erase (store.counting .delete).files path id with
      | error f => exact ⟨store.isAkin_counting .delete, rfl⟩
      | ok files => exact ⟨⟨rfl, by rw [backing]; rfl⟩, rfl⟩

theorem isAkin_make (store : Store) (change : StoreChange) :
    (change.make.runOn store).2.IsAkin store := by
  cases change with
  | save execution => exact isAkin_save store execution
  | delete id => exact (delete_left store (.str id)).1

theorem isAkin_after (store : Store) (changes : List StoreChange) :
    (store.after changes).IsAkin store := by
  induction changes generalizing store with
  | nil => exact ⟨rfl, rfl⟩
  | cons change rest inductionHypothesis =>
    exact (inductionHypothesis _).trans (isAkin_make store change)

/-! ## Changes -/

namespace Stocks

theorem nothing_inMemory (backing : store.backing = .memory []) :
    store.Stocks (fun _ => none) [] where
  apart := List.nodup_nil
  listed := by simp
  own := nofun
  backed := by
    rw [backing]
    exact ⟨rfl, fun _ => rfl, nofun⟩

theorem nothing_inFolder {path : Path} {place : Place} (backing : store.backing = .folder path)
    (directory : store.files.HasDirectory path place) (empty : store.files.inside place = []) :
    store.Stocks (fun _ => none) [] where
  apart := List.nodup_nil
  listed := by simp
  own := nofun
  backed := by
    rw [backing]
    refine ⟨place, .of_empty directory empty, ?_⟩
    rw [empty]
    rfl

/-- What is stocked does not depend on how often the store was called. -/
theorem called (stocks : store.Stocks kept ids) (made : StoreCall → Nat) :
    Stocks { store with made } kept ids :=
  ⟨stocks.apart, stocks.listed, stocks.own, stocks.backed⟩

/-- The ids after a save are the old ones and the new one. -/
theorem replaced (stocks : store.Stocks kept ids) (named : Folder.IsId id)
    (own : execution.id = .str id) {others : List String} (apart : others.Nodup)
    (same : ∀ other, other ∈ others ↔ other ∈ ids ∨ other = id)
    (backed : left.backing.Stocks left.files
      (fun other => if id = other then some execution else kept other) others) :
    left.Stocks (fun other => if id = other then some execution else kept other) others where
  apart := apart
  listed other := by
    rw [same, stocks.listed]
    by_cases new : id = other
    · simp [new]
    · simp [new, Ne.symm new]
  own other held found := by
    split at found
    · rename_i same
      obtain rfl := Option.some.inj found
      exact same ▸ ⟨named, own⟩
    · exact stocks.own other held found
  backed := backed

/-- In memory there is a copy of the execution after a save that is done, and a new id comes
last. -/
theorem saved_inMemory (stocks : store.Stocks kept ids) {table : Table Execution}
    (backing : store.backing = .memory table) (named : Folder.IsId id)
    (own : execution.id = .str id) {result : Except Fault Unit}
    (saved : (Store.save execution).runOn store = (result, left)) :
    (∃ f, result = .error f ∧ left.Stocks kept ids) ∨
      result = .ok () ∧ left.Stocks
        (fun other => if id = other then some execution else kept other)
        (if id ∈ ids then ids else ids ++ [id]) := by
  have backed := stocks.backed
  rw [backing] at backed
  obtain ⟨f, rfl, same⟩ | ⟨rfl, free, inserted⟩ := save_memory backing saved
  · refine .inl ⟨f, rfl, stocks.apart, stocks.listed, stocks.own, ?_⟩
    rw [same]
    exact backed
  obtain ⟨keys, found, copyable⟩ := backed
  have sound : Table.AreKeys table.keys := keys ▸ .of_nodup stocks.apart
  have known : (table.find? (.str id)).isSome = true ↔ id ∈ ids := by
    rw [found, Option.isSome_map, stocks.listed]
  have names := Table.keys_insert table (.str id) execution.copied
  rw [own] at inserted
  have entries : (∀ other, (table.insert (.str id) execution.copied).find? (.str other) =
        (if id = other then some execution else kept other).map Execution.copied) ∧
      ∀ other record, (if id = other then some execution else kept other) = some record →
        record.obstacle? = none := by
    constructor
    · intro other
      rw [Table.find?_insert sound (Value.isKey_str id), Value.same_str, found]
      by_cases same : id = other
      · simp [same]
      · simp [same]
    · intro other record held
      split at held
      · exact Option.some.inj held ▸ free
      · exact copyable other record held
  right
  refine ⟨rfl, ?_⟩
  by_cases member : id ∈ ids
  · rw [if_pos (known.mpr member), keys] at names
    rw [if_pos member]
    refine stocks.replaced named own stocks.apart (fun other => ?_) ?_
    · refine ⟨.inl, ?_⟩
      rintro (there | rfl)
      · exact there
      · exact member
    · rw [inserted]
      exact ⟨names, entries⟩
  · rw [if_neg (mt known.mp member), keys] at names
    rw [if_neg member]
    refine stocks.replaced named own ?_ (fun other => ?_) ?_
    · exact List.nodup_append'.mpr ⟨stocks.apart, List.nodup_singleton id, by simpa using member⟩
    · rw [List.mem_append, List.mem_singleton]
    · rw [inserted]
      refine ⟨?_, entries⟩
      rw [names, List.map_append]
      rfl

/-- In a folder there is the document of the execution after a save that is done. -/
theorem saved_inFolder (stocks : store.Stocks kept ids) {path : Path}
    (backing : store.backing = .folder path) (named : Folder.IsId id)
    (own : execution.id = .str id) {result : Except Fault Unit}
    (saved : (Store.save execution).runOn store = (result, left)) :
    (∃ f, result = .error f ∧ left.Stocks kept ids) ∨
      result = .ok () ∧ ∃ others, left.Stocks
        (fun other => if id = other then some execution else kept other) others := by
  have backed := stocks.backed
  rw [backing] at backed
  obtain ⟨place, keeps, names⟩ := backed
  cases planned : store.plan .save (store.made .save + 1) with
  | some f =>
    rw [Store.save, Effect.runOn_bind, enter_of_planned planned] at saved
    obtain ⟨rfl, rfl⟩ := Prod.mk.inj saved
    exact .inl ⟨f, rfl, stocks.called _⟩
  | none =>
    rw [save_inFolder backing planned] at saved
    obtain ⟨rfl, rfl⟩ := Prod.mk.inj saved
    cases made : Folder.written execution with
    | ok bytes =>
      obtain ⟨changed, answered, keeps'⟩ := keeps.saved named own made
      have after := keeps.documentNames_saved named own made answered
      rw [names, Folder.map_documentName_without] at after
      rw [answered]
      refine .inr ⟨rfl, (ids.filter fun other => other ≠ id) ++ [id],
        stocks.replaced named own ?_ (fun other => ?_) ?_⟩
      · exact List.nodup_append'.mpr ⟨stocks.apart.filter _, List.nodup_singleton id, by simp⟩
      · by_cases same : other = id
        · simp [same]
        · simp [same]
      · refine backing ▸ ⟨place, keeps', ?_⟩
        rw [List.map_append]
        exact after
    | error f =>
      obtain ⟨g, changed, answered, keeps'⟩ := keeps.unsaved named own made
      have after := keeps.documentNames_unsaved named own made answered
      rw [answered]
      exact .inl ⟨g, rfl, stocks.apart, stocks.listed, stocks.own,
        backing ▸ ⟨place, keeps', after.trans names⟩⟩

/-- A save that is done stocks the execution, and one that is not leaves what was stocked. -/
theorem save (stocks : store.Stocks kept ids) (named : Folder.IsId id)
    (own : execution.id = .str id) :
    ∃ others, ((Store.save execution).runOn store).2.Stocks
      ((StoreChange.save execution).leaves kept ((Store.save execution).runOn store).1.isOk)
      others := by
  rcases saved : (Store.save execution).runOn store with ⟨result, left⟩
  have cases : (∃ f, result = .error f ∧ left.Stocks kept ids) ∨
      result = .ok () ∧ ∃ others, left.Stocks
        (fun other => if id = other then some execution else kept other) others := by
    cases backing : store.backing with
    | memory table =>
      exact (stocks.saved_inMemory backing named own saved).imp_right fun saved =>
        ⟨saved.1, _, saved.2⟩
    | folder path => exact stocks.saved_inFolder backing named own saved
  obtain ⟨f, rfl, same⟩ | ⟨rfl, others, changed⟩ := cases
  · exact ⟨ids, same⟩
  · rw [← StoreChange.leaves_save own] at changed
    exact ⟨others, changed⟩

/-- A deletion that is planned to fail is counted, and nothing is deleted. -/
theorem delete_of_planned (stocks : store.Stocks kept ids) {f : Fault}
    (planned : store.plan .delete (store.made .delete + 1) = some f) (id : Value) :
    ∃ left, (Store.delete id).runOn store = (.error f, left) ∧ left.Stocks kept ids := by
  rw [Store.delete, Effect.runOn_bind, enter_of_planned planned]
  exact ⟨_, rfl, stocks.called _⟩

theorem omitted (stocks : store.Stocks kept ids) (id : String)
    (backed : left.backing.Stocks left.files (omitting [id] kept)
      (ids.filter fun other => other ≠ id)) :
    left.Stocks (omitting [id] kept) (ids.filter fun other => other ≠ id) where
  apart := stocks.apart.filter _
  listed other := by
    rw [List.mem_filter, stocks.listed, omitting]
    by_cases same : other = id
    · simp [same]
    · simp [same]
  own other execution held := by
    rw [omitting] at held
    split at held
    · cases held
    · exact stocks.own other execution held
  backed := backed

/-- Other deletions take away what is stocked under the id, if anything is. -/
theorem delete (stocks : store.Stocks kept ids)
    (unplanned : store.plan .delete (store.made .delete + 1) = none) (named : Folder.IsId id) :
    ∃ left, (Store.delete (.str id)).runOn store = (.ok (), left) ∧
      left.Stocks (omitting [id] kept) (ids.filter fun other => other ≠ id) := by
  have backed := stocks.backed
  cases backing : store.backing with
  | memory table =>
    rw [backing] at backed
    obtain ⟨keys, found, free⟩ := backed
    have sound : Table.AreKeys table.keys := keys ▸ .of_nodup stocks.apart
    have erased : ∃ left, (Store.delete (.str id)).runOn store = (.ok (), left) ∧
        left.backing = .memory (table.erase (.str id)) := by
      rw [Store.delete, Effect.runOn_bind, enter_of_unplanned unplanned]
      dsimp only
      rw [Effect.runOn_get_bind, counting_backing, backing]
      cases table with
      | nil => exact ⟨_, rfl, backing⟩
      | cons entry rest => exact ⟨_, rfl, rfl⟩
    obtain ⟨left, done, backing'⟩ := erased
    refine ⟨left, done, stocks.omitted id ?_⟩
    rw [backing']
    refine ⟨?_, fun other => ?_, fun other execution held => ?_⟩
    · rw [Table.keys_erase sound, keys, List.filter_map]
      congr 1
      refine List.filter_congr fun other _ => ?_
      simp
    · rw [Table.find?_erase sound (Value.isKey_str id), Value.same_str, found, omitting]
      by_cases same : id = other
      · simp [same]
      · simp [same, Ne.symm same]
    · rw [omitting] at held
      split at held
      · cases held
      · exact free other execution held
  | folder path =>
    rw [backing] at backed
    obtain ⟨place, keeps, names⟩ := backed
    obtain ⟨changed, erased, -, inside⟩ := Folder.erase_str keeps.directory named
      (keeps.flat (Folder.documentName id))
    obtain ⟨_, erased', keeps'⟩ := keeps.erased
      (Folder.reaches_self keeps.directory (Folder.isFileName_documentName named))
    obtain rfl := Except.ok.inj (erased.symm.trans erased')
    rw [← omitting_singleton] at keeps'
    rw [delete_inFolder backing unplanned, erased]
    refine ⟨_, rfl, stocks.omitted id (backing ▸ ⟨place, keeps', ?_⟩)⟩
    rw [← Folder.map_documentName_without, ← names, ← Folder.documentNames_without, ← inside]
    rfl

/-- A deletion is made or refused, and what is stocked then is what is kept after it. -/
theorem make_delete (stocks : store.Stocks kept ids) (named : Folder.IsId id) :
    ((StoreChange.delete id).make.runOn store).2.Stocks
      ((StoreChange.delete id).leaves kept ((StoreChange.delete id).make.runOn store).1.isOk)
      ((StoreChange.delete id).orders ids ((StoreChange.delete id).make.runOn store).1.isOk) := by
  rw [StoreChange.make]
  cases planned : store.plan .delete (store.made .delete + 1) with
  | some f =>
    obtain ⟨left, refused, same⟩ := stocks.delete_of_planned planned (.str id)
    rw [refused]
    exact same
  | none =>
    obtain ⟨left, done, changed⟩ := stocks.delete planned named
    rw [omitting_singleton, ← StoreChange.leaves_delete] at changed
    rw [done]
    exact changed

/-- So is any change. -/
theorem make (stocks : store.Stocks kept ids) {change : StoreChange} (proper : change.IsProper) :
    ∃ others, (change.make.runOn store).2.Stocks
      (change.leaves kept (change.make.runOn store).1.isOk) others := by
  cases change with
  | save execution =>
    obtain ⟨id, own, named⟩ := proper
    exact stocks.save named own
  | delete id => exact ⟨_, stocks.make_delete proper⟩

/-- So do all changes that come one after the other. -/
theorem after (stocks : store.Stocks kept ids) {changes : List StoreChange}
    (proper : ∀ change ∈ changes, change.IsProper) :
    ∃ others, (store.after changes).Stocks (store.keptAfter kept changes) others := by
  induction changes generalizing store kept ids with
  | nil => exact ⟨ids, stocks⟩
  | cons change rest inductionHypothesis =>
    obtain ⟨first, later⟩ := List.forall_mem_cons.mp proper
    obtain ⟨others, changed⟩ := stocks.make first
    exact inductionHypothesis changed later

/-- In memory the ids stay in the order in which they came. -/
theorem make_inMemory (stocks : store.Stocks kept ids) (memory : store.backing.isFolder = false)
    {change : StoreChange} (proper : change.IsProper) :
    (change.make.runOn store).2.Stocks
      (change.leaves kept (change.make.runOn store).1.isOk)
      (change.orders ids (change.make.runOn store).1.isOk) := by
  cases change with
  | save execution =>
    obtain ⟨id, own, named⟩ := proper
    rw [StoreChange.make]
    cases backing : store.backing with
    | folder path =>
      rw [backing] at memory
      cases memory
    | memory table =>
      rcases saved : (Store.save execution).runOn store with ⟨result, left⟩
      obtain ⟨f, rfl, same⟩ | ⟨rfl, changed⟩ := stocks.saved_inMemory backing named own saved
      · exact same
      · rw [← StoreChange.leaves_save own, ← StoreChange.orders_save own] at changed
        exact changed
  | delete id => exact stocks.make_delete proper

theorem after_inMemory (stocks : store.Stocks kept ids) (memory : store.backing.isFolder = false)
    {changes : List StoreChange} (proper : ∀ change ∈ changes, change.IsProper) :
    (store.after changes).Stocks (store.keptAfter kept changes) (store.orderAfter ids changes) := by
  induction changes generalizing store kept ids with
  | nil => exact stocks
  | cons change rest inductionHypothesis =>
    obtain ⟨first, later⟩ := List.forall_mem_cons.mp proper
    have memory' := (isAkin_make store change).kind.trans memory
    exact inductionHypothesis (stocks.make_inMemory memory first) memory' later

end Stocks

/-- What is kept after all changes was kept before, or it was saved. -/
theorem mem_of_keptAfter {changes : List StoreChange}
    (held : store.keptAfter kept changes id = some execution) :
    kept id = some execution ∨ .save execution ∈ changes := by
  induction changes generalizing store kept with
  | nil => exact .inl held
  | cons change rest inductionHypothesis =>
    obtain before | later := inductionHypothesis held
    · cases change with
      | save saved =>
        rw [StoreChange.leaves] at before
        split at before
        · obtain rfl := Option.some.inj before
          exact .inr List.mem_cons_self
        · exact .inl before
      | delete gone =>
        rw [StoreChange.leaves] at before
        split at before
        · cases before
        · exact .inl before
    · exact .inr (List.mem_cons_of_mem _ later)

/-- What is kept after changes of an empty store was saved. -/
theorem saved_of_keptAfter {changes : List StoreChange}
    (held : store.keptAfter (fun _ => none) changes id = some execution) :
    .save execution ∈ changes :=
  (mem_of_keptAfter held).resolve_left nofun

end Store

end Stepwise
