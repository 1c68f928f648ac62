import Stepwise.Proofs.Store.Cleanup
import Stepwise.Proofs.Store.Newest

/-!
# What a listing selects

Whatever was saved in a store and deleted again, a listing selects the newest of the executions
that are kept and that its filter accepts. It gives them as loading would: from memory as copies of
copies, and from a folder as what is recalled of their documents. In memory executions that started
at one instant stay in the order in which they were first saved.
-/

namespace Stepwise

/-! ## Copies -/

namespace Value

theorem copied_eq_str_iff {v : Value} {text : String} : v.copied = .str text ↔ v = .str text := by
  constructor
  · intro same
    rwa [copied_of_isText (by rw [same]; rfl)] at same
  · rintro rfl
    simp only [copied]

theorem equal_str_iff {v : Value} {text : String} :
    v.equal (.str text) = true ↔ v = .str text := by
  constructor
  · intro equal
    exact eq_str_of_same (Bool.and_eq_true_iff.mp equal).2
  · rintro rfl
    exact same_str_self text

end Value

/-- The filter is about any workflow or about one with a text for its id. -/
def Filter.isPlain (filter : Filter) : Bool := filter.workflow.isNull || filter.workflow.isText

/-- To such a filter a copy is what it is a copy of. -/
theorem Filter.accepts_copied {filter : Filter} (plain : filter.isPlain = true)
    (execution : Execution) : filter.accepts execution.copied = filter.accepts execution := by
  obtain ⟨workflow, status⟩ := filter
  have same : (workflow.isNull || execution.copied.workflow.equal workflow) =
      (workflow.isNull || execution.workflow.equal workflow) := by
    rw [isPlain, Bool.or_eq_true] at plain
    obtain any | text := plain
    · rw [any, Bool.true_or, Bool.true_or]
    · obtain ⟨told, rfl⟩ := Value.exists_str_of_isText text
      have unlike : (Value.str told).isNull = false := rfl
      rw [Bool.eq_iff_iff, unlike, Bool.false_or, Bool.false_or, Value.equal_str_iff,
        Value.equal_str_iff]
      exact Value.copied_eq_str_iff
  exact congrArg (· && _) same

/-- What a store shows of an execution that is kept: the copy of a copy, or what is recalled of its
document. -/
def Backing.shown : Backing → Execution → Execution
  | .memory _ => fun execution => execution.copied.copied
  | .folder _ => Execution.recalled

theorem Backing.shown_id (backing : Backing) {execution : Execution} {id : String}
    (own : execution.id = .str id) : (backing.shown execution).id = .str id := by
  cases backing with
  | memory table =>
    have once := (Execution.resembles_copied own).id.trans own
    exact (Execution.resembles_copied once).id.trans once
  | folder path => exact Execution.recalled_id own

namespace Store

variable {store : Store} {kept : String → Option Execution} {ids : List String}

/-! ## Listings -/

/-- What is kept can be listed: the start times are recent, the documents in a folder can be read,
and no listing is planned to fail and no load. -/
structure IsListable (store : Store) (kept : String → Option Execution) : Prop where
  unplanned : ∀ number, store.plan .list number = none ∧ store.plan .load number = none
  recent : ∀ id execution, kept id = some execution →
    execution.startedAt.all Moment.isRecent = true
  recallable : store.backing.isFolder = true → ∀ id execution, kept id = some execution →
    execution.IsRecallable

/-- A listing of a store gives the newest of the executions that are kept under some ids, each as it
is loaded. -/
structure ListsNewest (store : Store) (kept : String → Option Execution) (ids : List String) :
    Prop where
  apart : ids.Nodup
  known : ∀ id, id ∈ ids ↔ (kept id).isSome = true
  loads : ∀ id execution, kept id = some execution →
    ((load (.str id)).runOn store).1 = .ok (some (store.backing.shown execution))
  lists : ∀ (filter : Filter) (limit : Int), filter.isPlain = true → ∃ chosen made,
    (list filter (.int limit)).runOn store = (.ok chosen, { store with made }) ∧
      Listing.IsNewest filter limit ((ids.filterMap kept).map store.backing.shown) chosen
  /-- What is given for a limit comes first in what is given for a larger one. -/
  grows : ∀ (filter : Filter) (limit more : Int), filter.isPlain = true → limit ≤ more →
    ∀ fewer several, ((list filter (.int limit)).runOn store).1 = .ok fewer →
      ((list filter (.int more)).runOn store).1 = .ok several → fewer <+: several

/-- Under each of the ids an execution is stocked. -/
theorem Stocks.exists_held (stocks : store.Stocks kept ids) {names : List String}
    (same : names.Perm ids) : ∃ held : String → Execution,
      (∀ id ∈ names, kept id = some (held id)) ∧ names.filterMap kept = names.map held := by
  have known : ∀ id ∈ names, ∃ execution, kept id = some execution := fun id member =>
    Option.isSome_iff_exists.mp ((stocks.listed id).mp (same.mem_iff.mp member))
  choose! held found using known
  exact ⟨held, found, List.filterMap_eq_map_iff_forall_eq_some.mpr found⟩

/-- Executions are listed from the top in the order of the ids, or some other. -/
theorem ListsNewest.of_top (stocks : store.Stocks kept ids) {names : List String}
    (same : names.Perm ids)
    (loads : ∀ id execution, kept id = some execution →
      ((load (.str id)).runOn store).1 = .ok (some (store.backing.shown execution)))
    (lists : ∀ (filter : Filter) (limit : Int), filter.isPlain = true → ∃ made,
      (list filter (.int limit)).runOn store =
        (.ok (Listing.top filter limit ((names.filterMap kept).map store.backing.shown)),
          { store with made })) :
    store.ListsNewest kept names where
  apart := same.nodup_iff.mpr stocks.apart
  known id := same.mem_iff.trans (stocks.listed id)
  loads := loads
  lists filter limit plain := by
    obtain ⟨made, listed⟩ := lists filter limit plain
    refine ⟨_, made, listed, Listing.isNewest_top ?_ filter limit⟩
    obtain ⟨held, found, whole⟩ := stocks.exists_held same
    have own : ((names.map held).map store.backing.shown).map Execution.id = names.map .str := by
      rw [List.map_map, List.map_map]
      refine List.map_congr_left fun id member => store.backing.shown_id ?_
      exact (stocks.own id (held id) (found id member)).2
    rw [whole, own]
    exact (same.nodup_iff.mpr stocks.apart).map fun _ _ => Value.str.inj
  grows filter limit more plain less fewer several listed listed' := by
    obtain ⟨made, top⟩ := lists filter limit plain
    obtain ⟨made', top'⟩ := lists filter more plain
    rw [top] at listed
    rw [top'] at listed'
    obtain rfl := Except.ok.inj listed
    obtain rfl := Except.ok.inj listed'
    exact Listing.top_prefix less filter _

namespace Stocks

/-- What is in memory are copies of what is stocked, in the order of the ids. -/
theorem values_eq (stocks : store.Stocks kept ids) {table : Table Execution}
    (backing : store.backing = .memory table) :
    table.map Prod.snd = (ids.filterMap kept).map Execution.copied := by
  have backed := stocks.backed
  rw [backing] at backed
  obtain ⟨keys, found, -⟩ := backed
  have sound : Table.AreKeys table.keys := keys ▸ .of_nodup stocks.apart
  rw [Table.map_snd_eq_filterMap sound, keys, List.filterMap_map, List.map_filterMap]
  exact List.filterMap_congr fun id _ => found id

theorem load_inMemory (stocks : store.Stocks kept ids) {table : Table Execution}
    (backing : store.backing = .memory table)
    (unplanned : store.plan .load (store.made .load + 1) = none) {id : String}
    {execution : Execution} (held : kept id = some execution) :
    ((load (.str id)).runOn store).1 = .ok (some execution.copied.copied) := by
  have backed := stocks.backed
  rw [backing] at backed
  obtain ⟨-, found, free⟩ := backed
  have known := found id
  rw [held, Option.map_some] at known
  have snapshot : execution.copied.snapshot = .ok execution.copied.copied := by
    rw [Execution.snapshot, Execution.obstacle?_copied (free id execution held)]
    rfl
  rw [load, Effect.runOn_bind, enter_of_unplanned unplanned]
  dsimp only
  rw [Effect.runOn_get_bind, counting_backing, backing]
  dsimp only
  rw [Effect.runOn_lift_bind, known]
  change ((lift execution.copied.snapshot >>= fun copy => pure (some copy) :
    Effect Store _).runOn _).1 = _
  rw [snapshot]
  rfl

/-- A listing from memory gives copies of the newest of the copies that are there. -/
theorem listsNewest_inMemory (stocks : store.Stocks kept ids) (listable : store.IsListable kept)
    {table : Table Execution} (backing : store.backing = .memory table) :
    store.ListsNewest kept ids := by
  refine .of_top stocks (.refl ids) (fun id execution held => ?_) fun filter limit plain => ?_
  · rw [backing]
    exact stocks.load_inMemory backing (listable.unplanned _).2 held
  have backed := stocks.backed
  rw [backing] at backed
  obtain ⟨-, -, copyable⟩ := backed
  have there : ∀ execution ∈ (ids.filterMap kept).map Execution.copied,
      execution.startedAt.all Moment.isRecent = true ∧ execution.obstacle? = none := by
    intro execution member
    obtain ⟨original, listed, rfl⟩ := List.mem_map.mp member
    obtain ⟨id, -, held⟩ := List.mem_filterMap.mp listed
    exact ⟨listable.recent id original held, Execution.obstacle?_copied (copyable id original held)⟩
  have shown : (ids.filterMap kept).map store.backing.shown =
      ((ids.filterMap kept).map Execution.copied).map Execution.copied := by
    rw [backing, List.map_map]
    rfl
  refine ⟨(store.counting .list).made, ?_⟩
  have selected := Listing.newest_eq (fun execution member => (there execution member).1) filter limit
  rw [← stocks.values_eq backing] at selected
  rw [shown, Listing.top_map (fun execution _ => Filter.accepts_copied plain execution)
    fun _ _ => rfl, ← stocks.values_eq backing]
  refine Store.list_inMemory backing (listable.unplanned _).1 selected fun execution member => ?_
  have listed := (Listing.accepts_of_mem_top member).1
  rw [stocks.values_eq backing] at listed
  exact (there execution listed).2

/-- What is stocked in a folder is loaded as what is recalled of it. -/
theorem load_inFolder (stocks : store.Stocks kept ids) {path : Path}
    (backing : store.backing = .folder path) {id : String} {execution : Execution}
    (held : kept id = some execution) (recallable : execution.IsRecallable) :
    Folder.load store.files path (.str id) = .ok (some execution.recalled) := by
  have backed := stocks.backed
  rw [backing] at backed
  obtain ⟨place, keeps, -⟩ := backed
  obtain ⟨-, -, bytes, made, -⟩ := keeps.document held
  exact keeps.load_of_written held made (Folder.executionOf_recalled made recallable)

/-- A listing from a folder gives the newest of what is recalled of the documents. -/
theorem listsNewest_inFolder (stocks : store.Stocks kept ids) (listable : store.IsListable kept)
    {path : Path} (backing : store.backing = .folder path) :
    store.ListsNewest kept ids.reverse := by
  have recallable := listable.recallable (by rw [backing]; rfl)
  refine .of_top stocks ids.reverse_perm (fun id execution held => ?_) fun filter limit plain => ?_
  · rw [Store.load_inFolder backing (listable.unplanned _).2, backing]
    exact stocks.load_inFolder backing held (recallable id execution held)
  obtain ⟨held, found, whole⟩ := stocks.exists_held ids.reverse_perm
  have loads : ∀ id ∈ ids.reverse, Folder.load store.files path (.str id) =
      .ok (some (held id).recalled) := fun id member =>
    stocks.load_inFolder backing (found id member) (recallable id (held id) (found id member))
  obtain ⟨made, loaded, -⟩ := loadEach_of_loads (store.counting .list)
    (fun number => (listable.unplanned number).2) backing
    (fun id member => (stocks.own id (held id) (found id member)).1) loads
  have recent : ∀ execution ∈ (ids.reverse.map fun id => (held id).recalled),
      execution.startedAt.all Moment.isRecent = true := by
    intro execution member
    obtain ⟨id, listed, rfl⟩ := List.mem_map.mp member
    have before := listable.recent id (held id) (found id listed)
    rw [Execution.recalled_startedAt]
    cases started : (held id).startedAt with
    | none => rfl
    | some m =>
      rw [started] at before
      exact Moment.isRecent_restated before
  have shown : (ids.reverse.filterMap kept).map store.backing.shown =
      ids.reverse.map fun id => (held id).recalled := by
    rw [whole, List.map_map, backing]
    rfl
  refine ⟨made, ?_⟩
  rw [← stocks.documents_eq backing] at loaded
  rw [shown, Store.list_inFolder backing (listable.unplanned _).1 loaded,
    Listing.newest_eq recent]
  rfl

/-- However a store keeps what it stocks, a listing gives the newest of it. In memory it goes by the
order of the ids. -/
theorem exists_listsNewest (stocks : store.Stocks kept ids) (listable : store.IsListable kept) :
    ∃ names, store.ListsNewest kept names ∧ (store.backing.isFolder = false → names = ids) := by
  cases backing : store.backing with
  | memory table => exact ⟨ids, stocks.listsNewest_inMemory listable backing, fun _ => rfl⟩
  | folder path => exact ⟨ids.reverse, stocks.listsNewest_inFolder listable backing, nofun⟩

end Stocks

/-- A store was empty, and what is saved there after that can be listed. -/
structure MayList (fresh : Store) (changes : List StoreChange) : Prop where
  empty : fresh.Stocks (fun _ => none) []
  proper : ∀ change ∈ changes, change.IsProper
  recent : ∀ execution, .save execution ∈ changes →
    execution.startedAt.all Moment.isRecent = true
  recallable : fresh.backing.isFolder = true → ∀ execution, .save execution ∈ changes →
    execution.IsRecallable
  /-- Saves and deletions may be planned to fail, but listings and loads are not. -/
  unplanned : ∀ number, fresh.plan .list number = none ∧ fresh.plan .load number = none

variable {fresh : Store} {changes : List StoreChange}

theorem MayList.isListable (ready : fresh.MayList changes) :
    (fresh.after changes).IsListable (fresh.keptAfter (fun _ => none) changes) := by
  have akin := isAkin_after fresh changes
  exact ⟨akin.plan ▸ ready.unplanned,
    fun _ execution held => ready.recent execution (saved_of_keptAfter held),
    fun folder _ execution held =>
      ready.recallable (akin.kind ▸ folder) execution (saved_of_keptAfter held)⟩

/-- Whatever was saved in a store and deleted again, a listing gives the newest of the executions
that are kept and that its filter accepts, as many as there are or as its limit lets through. In
memory it goes by the order in which they were first saved. -/
theorem lists_newest (ready : fresh.MayList changes) :
    ∃ ids, (fresh.after changes).ListsNewest (fresh.keptAfter (fun _ => none) changes) ids ∧
      (fresh.backing.isFolder = false → ids = fresh.orderAfter [] changes) := by
  cases kind : fresh.backing.isFolder with
  | true =>
    obtain ⟨ids, stocks⟩ := ready.empty.after ready.proper
    obtain ⟨names, newest, -⟩ := stocks.exists_listsNewest ready.isListable
    exact ⟨names, newest, nofun⟩
  | false =>
    have stocks := ready.empty.after_inMemory kind ready.proper
    obtain ⟨names, newest, same⟩ := stocks.exists_listsNewest ready.isListable
    exact ⟨names, newest, fun _ => same ((isAkin_after fresh changes).kind.trans kind)⟩

namespace Sample

/-- A run that is not said to have started. -/
def unstarted : Execution := { record "b-1" 2024 with startedAt := none }

/-- Three runs are saved, and the first of them once more. -/
def arrivals : List StoreChange :=
  [.save (record "a-1" 2024), .save unstarted, .save (record "c-1" 2025), .save (record "a-1" 2025)]

theorem mem_arrivals {execution : Execution} (member : .save execution ∈ arrivals) :
    execution = record "a-1" 2024 ∨ execution = unstarted ∨ execution = record "c-1" 2025 ∨
      execution = record "a-1" 2025 := by
  simpa [arrivals] using member

theorem isProper_arrivals : ∀ change ∈ arrivals, change.IsProper := by
  have first : Folder.IsId "a-1" := Folder.isId_of_letters (by decide) rfl (by decide +kernel)
  have second : Folder.IsId "b-1" := Folder.isId_of_letters (by decide) rfl (by decide +kernel)
  have third : Folder.IsId "c-1" := Folder.isId_of_letters (by decide) rfl (by decide +kernel)
  simp [arrivals, StoreChange.IsProper, record, unstarted, first, second, third]

/-- An empty store may list the runs, in memory and in a folder. -/
theorem mayList_arrivals {fresh : Store} (empty : fresh.Stocks (fun _ => none) [])
    (unplanned : fresh.plan = fun _ _ => none) : fresh.MayList arrivals where
  empty := empty
  proper := isProper_arrivals
  recent _ member := by obtain rfl | rfl | rfl | rfl := mem_arrivals member <;> decide +kernel
  recallable _ _ member := by
    obtain rfl | rfl | rfl | rfl := mem_arrivals member <;>
      exact ⟨by decide +kernel, by decide +kernel, by decide +kernel⟩
  unplanned _ := by simp [unplanned]

end Sample

/-- In memory the run that was saved twice stays the first one. -/
theorem lists_newest_arrivals :
    (∃ ids, ((create (.folder Sample.path) Sample.files).after Sample.arrivals).ListsNewest
      ((create (.folder Sample.path) Sample.files).keptAfter (fun _ => none) Sample.arrivals) ids) ∧
    ((create (.memory []) Files.empty).after Sample.arrivals).ListsNewest
      ((create (.memory []) Files.empty).keptAfter (fun _ => none) Sample.arrivals)
      ["a-1", "b-1", "c-1"] := by
  have inFolder : (create (.folder Sample.path) Sample.files).MayList Sample.arrivals :=
    Sample.mayList_arrivals (.nothing_inFolder rfl Sample.hasDirectory rfl) rfl
  have inMemory : (create (.memory []) Files.empty).MayList Sample.arrivals :=
    Sample.mayList_arrivals (.nothing_inMemory rfl) rfl
  obtain ⟨ids, newest, -⟩ := lists_newest inFolder
  obtain ⟨ids', newest', order⟩ := lists_newest inMemory
  have first : ids' = ["a-1", "b-1", "c-1"] := (order rfl).trans (by decide +kernel)
  exact ⟨⟨ids, newest⟩, first ▸ newest'⟩

end Store

end Stepwise
