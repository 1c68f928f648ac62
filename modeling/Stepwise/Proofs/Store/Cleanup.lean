import Mathlib.Data.List.Perm.Basic
import Stepwise.Proofs.Store.Stock

/-!
# Cleanups

A listing without a filter, of as many executions as a store stocks, shows all of them. So a
cleanup finds each execution that finished before its cutoff, and deletes them one after the other.
It ends at the first deletion that fails; what is left is stocked as before.
-/

namespace Stepwise

/-- The execution is terminal, and it finished before an instant. -/
def Execution.isOver (instant : Int) (execution : Execution) : Bool :=
  execution.isTerminal && execution.finishedAt.any fun finished => finished.instant < instant

theorem Execution.Resembles.isOver {execution other : Execution}
    (resembles : execution.Resembles other) (instant : Int) :
    execution.isOver instant = other.isOver instant := by
  unfold Execution.isOver isTerminal
  rw [resembles.status, resembles.finishedAt]

/-- An instant can be told for a start time with an offset. -/
theorem Execution.isTimeless_of_isZoned {execution : Execution}
    (zoned : execution.startedAt.all Moment.isZoned = true) : execution.isTimeless = false := by
  unfold isTimeless
  cases started : execution.startedAt with
  | none => rfl
  | some m =>
    rw [started, Option.all_some, Moment.isZoned] at zoned
    rw [Option.any_some, ← Option.not_isSome, zoned]
    rfl

namespace Store

open Folder

variable {store left : Store} {kept : String → Option Execution} {ids : List String} {id : String}
  {execution : Execution}

/-! ## Listings -/

/-- What is kept can be listed: no listing is planned to fail and no load, the times have offsets,
and a folder gives back what it keeps. -/
structure IsLegible (store : Store) (kept : String → Option Execution) : Prop where
  unplanned : ∀ number, store.plan .list number = none ∧ store.plan .load number = none
  started : ∀ id execution, kept id = some execution →
    execution.startedAt.all Moment.isZoned = true
  finished : ∀ id execution, kept id = some execution →
    execution.finishedAt.all Moment.isZoned = true
  givesBack : store.backing.isFolder = true → ∀ id execution, kept id = some execution →
    Folder.GivesBack execution

/-- What is left can be listed when all of it could be. -/
theorem IsLegible.omitting (legible : store.IsLegible kept) (akin : left.IsAkin store)
    (gone : List String) : left.IsLegible (omitting gone kept) := by
  have before : ∀ id execution, Stepwise.omitting gone kept id = some execution →
      kept id = some execution := by
    intro id execution held
    rw [Stepwise.omitting] at held
    split at held
    · cases held
    · exact held
  exact ⟨akin.plan ▸ legible.unplanned,
    fun id execution held => legible.started id execution (before id execution held),
    fun id execution held => legible.finished id execution (before id execution held),
    fun folder id execution held =>
      legible.givesBack (akin.kind ▸ folder) id execution (before id execution held)⟩

theorem filter_all (executions : List Execution) :
    executions.filter Filter.all.accepts = executions :=
  List.filter_eq_self.mpr fun _ _ => rfl

/-- The executions stand under ids and resemble what is kept there. -/
def Shows (kept : String → Option Execution) (entries : List (String × Execution)) : Prop :=
  ∀ entry ∈ entries, ∃ execution, kept entry.1 = some execution ∧ entry.2.Resembles execution

/-- A listing of so many executions shows what is kept under each of the ids, and it changes nothing
but how many listings and loads were counted. -/
def ShowsAll (store : Store) (kept : String → Option Execution) (ids : List String) : Prop :=
  ∃ (entries : List (String × Execution)) (made : StoreCall → Nat),
    (list .all (.int ids.length)).runOn store = (.ok (entries.map Prod.snd), { store with made }) ∧
      made .delete = store.made .delete ∧ (entries.map Prod.fst).Perm ids ∧ Shows kept entries

/-- Executions that can be copied are copied one by one. -/
theorem mapM_copied (store : Store) {executions : List Execution}
    (free : ∀ execution ∈ executions, execution.obstacle? = none) :
    (executions.mapM fun execution => lift execution.snapshot : Effect Store _).runOn store =
      (.ok (executions.map Execution.copied), store) := by
  induction executions with
  | nil => rfl
  | cons execution rest inductionHypothesis =>
    obtain ⟨first, others⟩ := List.forall_mem_cons.mp free
    have snapshot : execution.snapshot = .ok execution.copied := by
      rw [Execution.snapshot, first]
      rfl
    rw [List.mapM_cons, Effect.runOn_lift_bind, snapshot]
    dsimp only
    rw [Effect.runOn_bind, inductionHypothesis others]
    rfl

/-- A listing from memory gives copies of what it selects. -/
theorem list_inMemory {table : Table Execution} (backing : store.backing = .memory table)
    (unplanned : store.plan .list (store.made .list + 1) = none) {filter : Filter} {limit : Value}
    {found : List Execution}
    (selected : Listing.newest ((table.map Prod.snd).filter filter.accepts) limit = .ok found)
    (free : ∀ execution ∈ found, execution.obstacle? = none) :
    (list filter limit).runOn store =
      (.ok (found.map Execution.copied), store.counting .list) := by
  rw [list, Effect.runOn_bind, enter_of_unplanned unplanned]
  dsimp only
  rw [Effect.runOn_get_bind, counting_backing, backing]
  dsimp only
  rw [Effect.runOn_lift_bind, selected]
  exact mapM_copied _ free

/-- A listing from a folder selects from what is loaded. -/
theorem list_inFolder {path : Path} (backing : store.backing = .folder path)
    (unplanned : store.plan .list (store.made .list + 1) = none) {found : List Execution}
    (loaded : (loadEach (Folder.documents store.files path)).runOn (store.counting .list) =
      (.ok found, left)) (filter : Filter) (limit : Value) :
    (list filter limit).runOn store =
      (Listing.newest (found.filter filter.accepts) limit, left) := by
  rw [list, Effect.runOn_bind, enter_of_unplanned unplanned]
  dsimp only
  rw [Effect.runOn_get_bind, counting_backing, backing]
  dsimp only
  rw [counting_files, Effect.runOn_bind, loaded]
  exact Effect.runOn_lift _ _

/-- A listing of executions under ids has them in some order, when it may have all of them and an
instant can be told for each. -/
theorem newest_entries {entries : List (String × Execution)} {limit : Nat}
    (timely : ∀ entry ∈ entries, entry.2.isTimeless = false) (enough : entries.length = limit) :
    ∃ ordered : List (String × Execution), ordered.Perm entries ∧
      Listing.newest (entries.map Prod.snd) (.int limit) = .ok (ordered.map Prod.snd) := by
  have all : (entries.map Prod.snd).any Execution.isTimeless = false := by
    rw [List.any_eq_false]
    intro execution member
    obtain ⟨entry, listed, rfl⟩ := List.mem_map.mp member
    rw [timely entry listed]
    exact Bool.false_ne_true
  obtain ⟨ordered, same, listed⟩ := (Listing.newest_cases (entries.map Prod.snd) limit).1 all
  have long : ordered.length ≤ (limit : Int).toNat := by
    rw [same.length_eq, List.length_map, enough, Int.toNat_natCast]
  rw [List.take_of_length_le long] at listed
  have arranged : (fun l l' => Relation.Comp (· = List.map Prod.snd ·) (·.Perm ·) l l') ordered
      entries := by
    rw [List.eq_map_comp_perm]
    exact same
  obtain ⟨ordered', rfl, perm⟩ := arranged
  exact ⟨ordered', perm, listed⟩

/-- The documents in a folder are those of what is stocked, the last one first. -/
theorem Stocks.documents_eq (stocks : store.Stocks kept ids) {path : Path}
    (backing : store.backing = .folder path) : Folder.documents store.files path =
      ids.reverse.map fun id => path.below (Folder.documentName id) := by
  have backed := stocks.backed
  rw [backing] at backed
  obtain ⟨place, keeps, names⟩ := backed
  rw [Folder.documents_listed keeps.directory, List.filter_reverse]
  change (Folder.documentNames (store.files.inside place)).reverse.map path.below = _
  rw [names, ← List.map_reverse, List.map_map]
  rfl

theorem Stocks.size_eq (stocks : store.Stocks kept ids) : store.size = ids.length := by
  unfold size
  cases backing : store.backing with
  | memory table =>
    have backed := stocks.backed
    rw [backing] at backed
    have length := congrArg List.length backed.1
    rwa [Table.keys, List.length_map, List.length_map] at length
  | folder path =>
    dsimp only
    rw [stocks.documents_eq backing, List.length_map, List.length_reverse]

/-- Documents that can be loaded are loaded one by one, and nothing else is counted. -/
theorem loadEach_of_loads (store : Store) {path : Path}
    (unplanned : ∀ number, store.plan .load number = none)
    (backing : store.backing = .folder path) {names : List String} {read : String → Execution}
    (proper : ∀ id ∈ names, Folder.IsId id)
    (loads : ∀ id ∈ names, Folder.load store.files path (.str id) = .ok (some (read id))) :
    ∃ made, (loadEach (names.map fun id => path.below (Folder.documentName id))).runOn store =
        (.ok (names.map read), { store with made }) ∧ made .delete = store.made .delete := by
  induction names generalizing store with
  | nil => exact ⟨store.made, rfl, rfl⟩
  | cons id rest inductionHypothesis =>
    obtain ⟨named, proper'⟩ := List.forall_mem_cons.mp proper
    obtain ⟨loaded, others⟩ := List.forall_mem_cons.mp loads
    obtain ⟨made, later, same⟩ :=
      inductionHypothesis (store.counting .load) unplanned backing proper' others
    refine ⟨made, ?_, same⟩
    rw [List.map_cons, loadEach, Folder.stem_below named, Effect.runOn_bind,
      Effect.runOn_tryCatch, load_inFolder backing (unplanned _), loaded]
    dsimp only
    rw [Effect.runOn_bind, later]
    rfl

/-- A listing from memory shows copies of what is stocked. -/
theorem Stocks.list_inMemory (stocks : store.Stocks kept ids) (legible : store.IsLegible kept)
    {table : Table Execution} (backing : store.backing = .memory table) :
    store.ShowsAll kept ids := by
  have backed := stocks.backed
  rw [backing] at backed
  obtain ⟨keys, found, copyable⟩ := backed
  obtain ⟨entries, rfl, rfl⟩ := Table.exists_underText keys
  have held : ∀ entry ∈ entries, ∃ execution, kept entry.1 = some execution ∧
      entry.2 = execution.copied := by
    intro entry member
    have known := found entry.1
    rw [Table.find?_underText, (Table.lookup_eq_some stocks.apart).mpr member] at known
    obtain ⟨execution, held, same⟩ := Option.map_eq_some_iff.mp known.symm
    exact ⟨execution, held, same.symm⟩
  have timely : ∀ entry ∈ entries, entry.2.isTimeless = false := by
    intro entry member
    obtain ⟨execution, kept, copied⟩ := held entry member
    exact copied ▸ Execution.isTimeless_of_isZoned (legible.started entry.1 execution kept)
  obtain ⟨ordered, arranged, listed⟩ := newest_entries timely (List.length_map Prod.fst).symm
  have free : ∀ execution ∈ ordered.map Prod.snd, execution.obstacle? = none := by
    intro execution member
    obtain ⟨entry, there, rfl⟩ := List.mem_map.mp member
    obtain ⟨execution, kept, copied⟩ := held entry (arranged.mem_iff.mp there)
    exact copied ▸ Execution.obstacle?_copied (copyable entry.1 execution kept)
  refine ⟨ordered.map fun entry => (entry.1, entry.2.copied), (store.counting .list).made, ?_, rfl,
    ?_, ?_⟩
  · have whole : (entries.map Table.underText).map Prod.snd = entries.map Prod.snd := List.map_map
    rw [← whole, ← filter_all (List.map _ _)] at listed
    rw [list_inMemory backing (legible.unplanned _).1 listed free, List.map_map, List.map_map]
    rfl
  · rw [List.map_map]
    exact arranged.map Prod.fst
  · intro entry member
    obtain ⟨entry, there, rfl⟩ := List.mem_map.mp member
    obtain ⟨execution, kept, copied⟩ := held entry (arranged.mem_iff.mp there)
    have own := (stocks.own entry.1 execution kept).2
    have resembles := Execution.resembles_copied own
    rw [← copied] at resembles
    exact ⟨execution, kept, (Execution.resembles_copied (resembles.id.trans own)).trans resembles⟩

/-- A listing from a folder shows what is read of the documents. -/
theorem Stocks.list_inFolder (stocks : store.Stocks kept ids) (legible : store.IsLegible kept)
    {path : Path} (backing : store.backing = .folder path) : store.ShowsAll kept ids := by
  have backed := stocks.backed
  rw [backing] at backed
  obtain ⟨place, keeps, -⟩ := backed
  have each : ∀ id ∈ ids.reverse, ∃ read, Folder.load store.files path (.str id) = .ok (some read) ∧
      Folder.IsId id ∧ ∃ execution, kept id = some execution ∧ read.Resembles execution := by
    intro id member
    have known := (stocks.listed id).mp (List.mem_reverse.mp member)
    obtain ⟨execution, held⟩ := Option.isSome_iff_exists.mp known
    obtain ⟨named, -, bytes, made, -⟩ := keeps.document held
    obtain ⟨read, given, resembles⟩ :=
      legible.givesBack (by rw [backing]; rfl) id execution held bytes made
    exact ⟨read, keeps.load_of_written held made given, named, execution, held, resembles⟩
  choose! read loads named shows using each
  obtain ⟨made, loaded, same⟩ := loadEach_of_loads (store.counting .list)
    (fun number => (legible.unplanned number).2) backing named loads
  have shown : Shows kept (ids.reverse.map fun id => (id, read id)) := by
    intro entry member
    obtain ⟨id, known, rfl⟩ := List.mem_map.mp member
    exact shows id known
  have timely : ∀ entry ∈ ids.reverse.map fun id => (id, read id),
      entry.2.isTimeless = false := by
    intro entry member
    obtain ⟨execution, held, resembles⟩ := shown entry member
    have zoned := legible.started entry.1 execution held
    exact Execution.isTimeless_of_isZoned (resembles.startedAt ▸ zoned)
  have length : (ids.reverse.map fun id => (id, read id)).length = ids.length := by
    rw [List.length_map, List.length_reverse]
  obtain ⟨ordered, arranged, newest⟩ := newest_entries timely length
  rw [List.map_map] at newest
  change Listing.newest (ids.reverse.map read) _ = _ at newest
  have names : (ids.reverse.map fun id => (id, read id)).map Prod.fst = ids.reverse := by
    rw [List.map_map]
    exact List.map_id' _
  refine ⟨ordered, made, ?_, same,
    (arranged.map Prod.fst).trans ((List.Perm.of_eq names).trans ids.reverse_perm),
    fun entry member => shown entry (arranged.mem_iff.mp member)⟩
  rw [← stocks.documents_eq backing] at loaded
  rw [Store.list_inFolder backing (legible.unplanned _).1 loaded, filter_all, newest]
  rfl

theorem Stocks.showsAll (stocks : store.Stocks kept ids) (legible : store.IsLegible kept) :
    store.ShowsAll kept ids := by
  cases backing : store.backing with
  | memory table => exact stocks.list_inMemory legible backing
  | folder path => exact stocks.list_inFolder legible backing

/-! ## Executions that are over -/

theorem expiredOf_eq {cutoff : Moment} {executions : List Execution}
    (zoned : cutoff.isZoned = true)
    (finished : ∀ execution ∈ executions, execution.finishedAt.all Moment.isZoned = true) :
    expiredOf cutoff executions =
      .ok (executions.filter (Execution.isOver cutoff.instant)) := by
  induction executions with
  | nil => rfl
  | cons execution rest inductionHypothesis =>
    obtain ⟨first, others⟩ := List.forall_mem_cons.mp finished
    have told : expired cutoff execution = .ok (execution.isOver cutoff.instant) := by
      unfold expired Execution.isOver
      cases execution.isTerminal with
      | false => rfl
      | true =>
        cases ended : execution.finishedAt with
        | none => rfl
        | some m =>
          rw [ended, Option.all_some] at first
          have comparable : m.comparable cutoff = true := by
            rw [Moment.comparable, first, zoned]
            rfl
          dsimp only
          rw [if_pos comparable]
          rfl
    rw [expiredOf, told, inductionHypothesis others, List.filter_cons]
    rfl

/-! ## Deletions -/

/-- What comes of deleting ids one after the other and which of them are deleted, when calls are
planned to fail by their number and some were made before. -/
def deletions (plan : Nat → Option Fault) : Nat → List String → Except Fault Unit × List String
  | _, [] => (.ok (), [])
  | number, id :: rest =>
    match plan (number + 1) with
    | some f => (.error f, [])
    | none => ((deletions plan (number + 1) rest).1, id :: (deletions plan (number + 1) rest).2)

variable {plan : Nat → Option Fault} {number : Nat} {due : List String}

theorem deletions_subset (plan : Nat → Option Fault) (number : Nat) (due : List String) :
    (deletions plan number due).2 ⊆ due := by
  induction due generalizing number with
  | nil => exact List.Subset.refl []
  | cons id rest inductionHypothesis =>
    rw [deletions]
    cases plan (number + 1) with
    | some f => exact List.nil_subset _
    | none => exact List.cons_subset_cons id (inductionHypothesis (number + 1))

/-- All are deleted when no call among so many is planned to fail. -/
theorem deletions_of_unplanned
    (unplanned : ∀ count < due.length, plan (number + count + 1) = none) :
    deletions plan number due = (.ok (), due) := by
  induction due generalizing number with
  | nil => rfl
  | cons id rest inductionHypothesis =>
    have first : plan (number + 1) = none := unplanned 0 (Nat.succ_pos _)
    have others : deletions plan (number + 1) rest = (.ok (), rest) := by
      refine inductionHypothesis fun count short => ?_
      have next := unplanned (count + 1) (Nat.succ_lt_succ short)
      rwa [Nat.add_right_comm number 1 count]
    rw [deletions, first, others]

/-- The first call that is planned to fail ends it with its fault. -/
theorem deletions_of_planned {count : Nat} (short : count < due.length)
    (planned : (plan (number + count + 1)).isSome = true) :
    ∃ f failing, (deletions plan number due).1 = .error f ∧ plan failing = some f := by
  induction due generalizing number count with
  | nil => cases short
  | cons id rest inductionHypothesis =>
    rw [deletions]
    cases first : plan (number + 1) with
    | some f => exact ⟨f, number + 1, rfl, first⟩
    | none =>
      cases count with
      | zero =>
        rw [Nat.add_zero, first] at planned
        cases planned
      | succ count =>
        refine inductionHypothesis (Nat.lt_of_succ_lt_succ short) ?_
        rwa [Nat.add_right_comm number 1 count]

theorem Stocks.omitting_nil (stocks : store.Stocks kept ids) :
    store.Stocks (omitting [] kept) (ids.filter fun id => id ∉ []) := by
  have all : (ids.filter fun id => id ∉ ([] : List String)) = ids :=
    List.filter_eq_self.mpr fun _ _ => rfl
  rw [all]
  exact stocks

/-- First an id is taken away, then others are. -/
theorem omitting_cons (id : String) (gone : List String) (kept : String → Option Execution) :
    omitting (id :: gone) kept = omitting gone (omitting [id] kept) := by
  funext other
  by_cases same : other = id
  · simp [omitting, same]
  · simp [omitting, same]

theorem filter_cons_not_mem (ids : List String) (id : String) (gone : List String) :
    (ids.filter fun other => other ∉ id :: gone) =
      (ids.filter fun other => other ≠ id).filter fun other => other ∉ gone := by
  rw [List.filter_filter]
  refine List.filter_congr fun other _ => ?_
  simp [Bool.and_comm]

/-- Deleting executions one after the other leaves all those that are not deleted. -/
theorem Stocks.forM_delete (stocks : store.Stocks kept ids) {gone : List (String × Execution)}
    (named : ∀ entry ∈ gone, IsId entry.1 ∧ entry.2.id = .str entry.1)
    {result : Except Fault Unit} {removed : List String}
    (outcome : deletions (store.plan .delete) (store.made .delete) (gone.map Prod.fst) =
      (result, removed)) :
    ∃ left, ((gone.map Prod.snd).forM fun execution => Store.delete execution.id).runOn store =
        (result, left) ∧
      left.IsAkin store ∧
      left.Stocks (omitting removed kept) (ids.filter fun id => id ∉ removed) := by
  induction gone generalizing store kept ids removed with
  | nil =>
    obtain ⟨rfl, rfl⟩ := Prod.mk.inj outcome
    exact ⟨store, rfl, ⟨rfl, rfl⟩, stocks.omitting_nil⟩
  | cons entry rest inductionHypothesis =>
    obtain ⟨⟨proper, own⟩, others⟩ := List.forall_mem_cons.mp named
    rw [List.map_cons, deletions] at outcome
    rw [List.map_cons, List.forM, Effect.runOn_bind, own]
    obtain ⟨akin, counted⟩ := delete_left store (.str entry.1)
    cases planned : store.plan .delete (store.made .delete + 1) with
    | some f =>
      rw [planned] at outcome
      obtain ⟨rfl, rfl⟩ := Prod.mk.inj outcome
      obtain ⟨left, refused, same⟩ := stocks.delete_of_planned planned (.str entry.1)
      rw [refused] at akin ⊢
      exact ⟨left, rfl, akin, same.omitting_nil⟩
    | none =>
      rw [planned] at outcome
      obtain ⟨rfl, rfl⟩ := Prod.mk.inj outcome
      obtain ⟨next, done, stocks'⟩ := stocks.delete planned proper
      rw [done] at akin counted ⊢
      have later : next.made .delete = store.made .delete + 1 := congrFun counted .delete
      obtain ⟨left, ended, akin', left'⟩ :=
        inductionHypothesis stocks' others (by rw [akin.plan, later])
      rw [omitting_cons, filter_cons_not_mem]
      exact ⟨left, ended, akin'.trans akin, left'⟩

/-! ## Cleanups -/

/-- A cleanup finds the ids of all executions that are over by its cutoff, each of them once, and
deletes them one after the other. It counts them when none of the deletions fails. -/
theorem Stocks.cleanup (stocks : store.Stocks kept ids) (legible : store.IsLegible kept)
    {cutoff : Moment} (zoned : cutoff.isZoned = true) :
    ∃ due : List String, (∀ id, id ∈ due ↔ ∃ execution, kept id = some execution ∧
        execution.isOver cutoff.instant = true) ∧ due.Nodup ∧
      ∀ result removed, deletions (store.plan .delete) (store.made .delete) due =
          (result, removed) →
        ∃ left, (Store.cleanup cutoff).runOn store = (result.map fun _ => due.length, left) ∧
          left.IsAkin store ∧
          left.Stocks (omitting removed kept) (ids.filter fun id => id ∉ removed) := by
  obtain ⟨entries, made, listed, same, arranged, shows⟩ := stocks.showsAll legible
  have zonedAll : ∀ execution ∈ entries.map Prod.snd,
      execution.finishedAt.all Moment.isZoned = true := by
    intro execution member
    obtain ⟨entry, there, rfl⟩ := List.mem_map.mp member
    obtain ⟨execution, held, resembles⟩ := shows entry there
    rw [resembles.finishedAt]
    exact legible.finished entry.1 execution held
  have named : ∀ entry ∈ entries, IsId entry.1 ∧ entry.2.id = .str entry.1 := by
    intro entry member
    obtain ⟨execution, held, resembles⟩ := shows entry member
    obtain ⟨proper, own⟩ := stocks.own entry.1 execution held
    exact ⟨proper, resembles.id.trans own⟩
  have expired : expiredOf cutoff (entries.map Prod.snd) =
      .ok ((entries.filter fun entry => entry.2.isOver cutoff.instant).map Prod.snd) := by
    rw [expiredOf_eq zoned zonedAll, List.filter_map]
    rfl
  refine ⟨(entries.filter fun entry => entry.2.isOver cutoff.instant).map Prod.fst,
    fun id => ?_, ?_, fun result removed outcome => ?_⟩
  · constructor
    · intro member
      obtain ⟨entry, there, rfl⟩ := List.mem_map.mp member
      obtain ⟨listed, past⟩ := List.mem_filter.mp there
      obtain ⟨execution, held, resembles⟩ := shows entry listed
      exact ⟨execution, held, (resembles.isOver _).symm.trans past⟩
    · rintro ⟨execution, held, past⟩
      have known : id ∈ ids := (stocks.listed id).mpr (Option.isSome_iff_exists.mpr ⟨_, held⟩)
      obtain ⟨entry, listed, rfl⟩ := List.mem_map.mp (arranged.mem_iff.mpr known)
      obtain ⟨execution', held', resembles⟩ := shows entry listed
      obtain rfl := Option.some.inj (held.symm.trans held')
      exact List.mem_map_of_mem (List.mem_filter.mpr ⟨listed, (resembles.isOver _).trans past⟩)
  · exact (arranged.nodup_iff.mpr stocks.apart).sublist (List.filter_sublist.map Prod.fst)
  · rw [← same] at outcome
    obtain ⟨left, ended, akin, left'⟩ := (stocks.called made).forM_delete
      (fun entry member => named entry (List.mem_of_mem_filter member)) outcome
    refine ⟨left, ?_, ⟨akin.plan, akin.kind⟩, left'⟩
    rw [Store.cleanup, Effect.runOn_get_bind, Effect.runOn_bind, stocks.size_eq, listed]
    dsimp only
    rw [Effect.runOn_lift_bind, expired]
    dsimp only
    rw [Effect.runOn_bind, ended, List.length_map, List.length_map]
    cases result <;> rfl

end Store

end Stepwise
