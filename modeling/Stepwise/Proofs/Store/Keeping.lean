import Stepwise.Proofs.Store.Folder
import Stepwise.Proofs.Store.Holding
import Stepwise.Proofs.Store.Order

/-!
# What a store represents

A store in memory keeps a table of executions, and a store in a folder keeps their documents. Either
way the store represents a list of executions under different ids. What is represented is all that
there is to a store: it decides the answer to every call and what is represented afterwards.
-/

namespace Stepwise

/-- A store can keep an execution: its document can be read back, and its start time can be told
apart from others by its sort key. -/
structure Execution.IsStorable (execution : Execution) : Prop where
  fit : Folder.CanKeep execution
  contemporary : execution.startedAt.all Moment.isContemporary = true

/-- Executions under their ids, which are all different. -/
structure Orderly (held : List (String × Execution)) : Prop where
  named : ∀ entry ∈ held, Folder.IsId entry.1 ∧ entry.2.id = .str entry.1
  storable : ∀ entry ∈ held, entry.2.IsStorable
  apart : (held.map Prod.fst).Nodup

/-- The document of an execution under its name. -/
def Folder.asDocument (entry : String × Execution) : String × Entry :=
  (documentName entry.1, .file (content entry.2))

/-- What is in memory or in a folder are these executions, in this order. -/
def Backing.Holds (files : Files) (held : List (String × Execution)) : Backing → Prop
  | .memory kept => kept = held.map Table.underText
  | .folder path => ∃ place, files.HasDirectory path place ∧
      files.inside place = held.map Folder.asDocument

namespace Orderly

variable {held others : List (String × Execution)} {id : String} {execution : Execution}

theorem of_perm (orderly : Orderly held) (same : others.Perm held) : Orderly others where
  named entry member := orderly.named entry (same.mem_iff.mp member)
  storable entry member := orderly.storable entry (same.mem_iff.mp member)
  apart := (same.map Prod.fst).nodup_iff.mpr orderly.apart

theorem filter (orderly : Orderly held) (keep : String × Execution → Bool) :
    Orderly (held.filter keep) where
  named entry member := orderly.named entry (List.mem_of_mem_filter member)
  storable entry member := orderly.storable entry (List.mem_of_mem_filter member)
  apart := orderly.apart.sublist (List.filter_sublist.map Prod.fst)

theorem nil : Orderly [] where
  named := by simp
  storable := by simp
  apart := List.nodup_nil

/-- The executions with one more, in place of one with its id. -/
theorem replaced (orderly : Orderly held) (named : Folder.IsId id)
    (known : execution.id = .str id) (storable : execution.IsStorable) :
    Orderly ((held.filter fun entry => entry.1 ≠ id) ++ [(id, execution)]) where
  named entry member := by
    rcases List.mem_append.mp member with old | new
    · exact orderly.named entry (List.mem_of_mem_filter old)
    · obtain rfl := List.mem_singleton.mp new
      exact ⟨named, known⟩
  storable entry member := by
    rcases List.mem_append.mp member with old | new
    · exact orderly.storable entry (List.mem_of_mem_filter old)
    · obtain rfl := List.mem_singleton.mp new
      exact storable
  apart := by
    rw [List.map_append, List.map_singleton]
    refine List.nodup_append'.mpr ⟨(orderly.filter _).apart, List.nodup_singleton id, ?_⟩
    intro name old new
    obtain ⟨entry, member, rfl⟩ := List.mem_map.mp old
    have other := (List.mem_filter.mp member).2
    simp [List.mem_singleton.mp new] at other

/-- What is found under an id can be kept. -/
theorem storable_of_lookup (orderly : Orderly held) (found : held.lookup id = some execution) :
    execution.IsStorable :=
  orderly.storable (id, execution) ((Table.lookup_eq_some orderly.apart).mp found)

end Orderly

/-! ## Documents of executions -/

namespace Folder

variable {files : Files} {path : Path} {place : Place} {held : List (String × Execution)}
  {id : String}

theorem lookup_asDocument (held : List (String × Execution)) (id : String) :
    (held.map asDocument).lookup (documentName id) =
      (held.lookup id).map fun execution => .file (content execution) := by
  induction held with
  | nil => rfl
  | cons entry rest inductionHypothesis =>
    obtain ⟨other, execution⟩ := entry
    rw [List.map_cons, asDocument, List.lookup_cons, List.lookup_cons, inductionHypothesis]
    by_cases same : id = other
    · subst same
      simp
    · have apart : documentName id ≠ documentName other := fun equal => same (documentName_inj equal)
      simp [beq_eq_false_iff_ne.mpr same, beq_eq_false_iff_ne.mpr apart]

theorem filter_asDocument (held : List (String × Execution)) (id : String) :
    (held.map asDocument).filter (fun known => known.1 ≠ documentName id) =
      (held.filter fun entry => entry.1 ≠ id).map asDocument := by
  rw [List.filter_map]
  congr 1
  refine List.filter_congr fun entry _ => ?_
  have same : documentName entry.1 = documentName id ↔ entry.1 = id :=
    ⟨documentName_inj, congrArg documentName⟩
  simp [asDocument, same]

/-- No draft is among documents. -/
theorem filter_draft (held : List (String × Execution)) (id : String) :
    (held.map asDocument).filter (fun known => known.1 ≠ draftName id) = held.map asDocument := by
  refine List.filter_eq_self.mpr fun known member => decide_eq_true ?_
  obtain ⟨entry, -, rfl⟩ := List.mem_map.mp member
  exact documentName_ne_draftName entry.1 id

/-- No directory is among documents. -/
theorem not_directory (inside : files.inside place = held.map asDocument) (name : String) :
    files.isDirectoryAt (place ++ [name]) = false := by
  rw [Files.isDirectoryAt, Files.find?_below, inside]
  cases found : (held.map asDocument).lookup name with
  | none => rfl
  | some entry =>
    obtain ⟨front, back, listed, -⟩ := List.lookup_eq_some_iff.mp found
    have member : (name, entry) ∈ held.map asDocument := by
      rw [listed]
      simp
    obtain ⟨known, -, told⟩ := List.mem_map.mp member
    obtain ⟨-, rfl⟩ := Prod.mk.inj told
    rfl

/-- The documents in a folder are listed from the latest to the earliest. -/
theorem documents_eq (directory : files.HasDirectory path place)
    (inside : files.inside place = held.map asDocument) :
    documents files path =
      held.reverse.map fun entry => path.below (documentName entry.1) := by
  have all : (files.names path).filter (fun name => ending.toList.isSuffixOf name.toList) =
      held.reverse.map fun entry => documentName entry.1 := by
    rw [Files.names_eq directory.located, inside, List.map_map, ← List.map_reverse]
    refine List.filter_eq_self.mpr fun name member => ?_
    obtain ⟨entry, -, rfl⟩ := List.mem_map.mp member
    simp [asDocument, documentName, List.isSuffixOf_iff_suffix]
  rw [documents, Files.withEnding, all, List.map_map]
  rfl

end Folder

namespace Store

/-- The executions in a store. -/
def executions (store : Store) : List Execution :=
  match store.backing with
  | .memory kept => kept.map Prod.snd
  | .folder path =>
    ((loadEach (Folder.documents store.files path)).runOn store).1.toOption.getD []

/-- What expires is among what there is. -/
theorem mem_of_expiredOf {cutoff : Moment} {executions gone : List Execution}
    (expired : expiredOf cutoff executions = .ok gone) {execution : Execution}
    (member : execution ∈ gone) : execution ∈ executions := by
  induction executions generalizing gone with
  | nil =>
    obtain rfl := Except.ok.inj expired
    cases member
  | cons first rest inductionHypothesis =>
    obtain ⟨gone, -, expired⟩ := Result.bind_ok expired
    obtain ⟨others, later, expired⟩ := Result.bind_ok expired
    obtain rfl := Except.ok.inj expired
    split at member
    · rcases List.mem_cons.mp member with rfl | member
      · exact List.mem_cons_self
      · exact List.mem_cons_of_mem _ (inductionHypothesis later member)
    · exact List.mem_cons_of_mem _ (inductionHypothesis later member)

/-- The executions that a cleanup finds to be over. -/
def overBy (cutoff : Moment) (held : List (String × Execution)) : Except Fault (List Execution) := do
  let found ← Listing.newest ((held.map Prod.snd).filter Filter.all.accepts) (.int held.length)
  expiredOf cutoff found

/-- A store that no call is planned to fail of keeps these executions and no others. -/
structure Represents (store : Store) (held : List (String × Execution)) : Prop where
  unplanned : ∀ call number, store.plan call number = none
  orderly : Orderly held
  holds : store.backing.Holds store.files held

variable {store : Store} {held : List (String × Execution)} {id : String} {execution : Execution}

theorem counting_backing (store : Store) (call : StoreCall) :
    (store.counting call).backing = store.backing := rfl

theorem counting_files (store : Store) (call : StoreCall) :
    (store.counting call).files = store.files := rfl

namespace Represents

/-- What a store represents does not depend on how often it was called. -/
theorem called (represents : store.Represents held) (call : StoreCall) :
    (store.counting call).Represents held where
  unplanned := represents.unplanned
  orderly := represents.orderly
  holds := represents.holds

theorem enter_eq (represents : store.Represents held) (call : StoreCall) :
    (enter call).runOn store = (.ok (), store.counting call) := by
  rw [Store.enter_eq, represents.unplanned]

/-- What is loaded is what is represented under the id. -/
theorem load_eq (represents : store.Represents held) (named : Folder.IsId id) :
    (load (.str id)).runOn store = (.ok (held.lookup id), store.counting .load) := by
  have holds := represents.holds
  rw [load, Effect.runOn_bind, represents.enter_eq]
  dsimp only
  rw [Effect.runOn_get_bind, counting_backing]
  cases backing : store.backing with
  | memory kept =>
    rw [backing] at holds
    obtain rfl := holds
    dsimp only
    rw [Effect.runOn_lift_bind, Table.find?_underText]
    cases found : held.lookup id with
    | none => rfl
    | some execution =>
      have fit := (represents.orderly.storable_of_lookup found).fit
      simp only [Execution.snapshot_of_hasForm fit.form, Effect.runOn_lift_bind]
      rfl
  | folder path =>
    rw [backing] at holds
    obtain ⟨place, directory, inside⟩ := holds
    have listed := Folder.lookup_asDocument held id
    rw [← inside] at listed
    dsimp only
    rw [Effect.runOn_lift, counting_files]
    cases found : held.lookup id with
    | none =>
      rw [found] at listed
      rw [Folder.load_of_absent directory named listed]
    | some execution =>
      rw [found] at listed
      rw [Folder.load_of_present directory named (represents.orderly.storable_of_lookup found).fit
        listed]

theorem contains_eq (represents : store.Represents held) (named : Folder.IsId id) :
    (contains (.str id)).runOn store = (.ok (held.lookup id).isSome, store) := by
  have holds := represents.holds
  rw [contains, Effect.runOn_get_bind]
  cases backing : store.backing with
  | memory kept =>
    rw [backing] at holds
    obtain rfl := holds
    dsimp only
    rw [Effect.runOn_lift_bind, Table.contains, Table.find?_underText]
    rfl
  | folder path =>
    rw [backing] at holds
    obtain ⟨place, directory, inside⟩ := holds
    have listed := Folder.lookup_asDocument held id
    rw [← inside] at listed
    dsimp only
    rw [Effect.runOn_lift, Folder.contains_str directory named, listed, Option.isSome_map]

theorem size_eq (represents : store.Represents held) : store.size = held.length := by
  have holds := represents.holds
  unfold size
  cases backing : store.backing with
  | memory kept =>
    rw [backing] at holds
    obtain rfl := holds
    exact List.length_map _
  | folder path =>
    rw [backing] at holds
    obtain ⟨place, directory, inside⟩ := holds
    dsimp only
    rw [Folder.documents_eq directory inside, List.length_map, List.length_reverse]

/-- Deleting takes away what is represented under the id. -/
theorem delete_eq (represents : store.Represents held) (named : Folder.IsId id) :
    ∃ left, (delete (.str id)).runOn store = (.ok (), left) ∧
      left.Represents (held.filter fun entry => entry.1 ≠ id) := by
  have holds := represents.holds
  have orderly := represents.orderly.filter fun entry => entry.1 ≠ id
  rw [delete, Effect.runOn_bind, represents.enter_eq]
  dsimp only
  rw [Effect.runOn_get_bind, counting_backing]
  cases backing : store.backing with
  | memory kept =>
    rw [backing] at holds
    obtain rfl := holds
    cases held with
    | nil =>
      refine ⟨store.counting .delete, rfl, represents.unplanned, orderly, ?_⟩
      rw [counting_backing, backing]
      rfl
    | cons entry rest =>
      refine ⟨{ store.counting .delete with
        backing := .memory (Table.erase (.str id) ((entry :: rest).map Table.underText)) }, rfl,
        represents.unplanned, orderly, ?_⟩
      exact Table.erase_underText represents.orderly.apart
  | folder path =>
    rw [backing] at holds
    obtain ⟨place, directory, inside⟩ := holds
    obtain ⟨changed, erased, directory', inside'⟩ := Folder.erase_str directory named
      (Folder.not_directory inside (Folder.documentName id))
    rw [inside, Folder.filter_asDocument] at inside'
    refine ⟨{ store.counting .delete with backing := .folder path, files := changed }, ?_,
      represents.unplanned, orderly, place, directory', inside'⟩
    dsimp only
    rw [Effect.runOn_lift_bind, counting_files, erased]
    rfl

/-- Saving leaves the execution as the latest one, in place of one with its id. -/
theorem save_eq (represents : store.Represents held) (named : Folder.IsId id)
    (known : execution.id = .str id) (storable : execution.IsStorable) :
    ∃ left changed, (save execution).runOn store = (.ok (), left) ∧ left.Represents changed ∧
      changed.Perm ((held.filter fun entry => entry.1 ≠ id) ++ [(id, execution)]) := by
  have holds := represents.holds
  have orderly := represents.orderly.replaced named known storable
  rw [save, Effect.runOn_bind, represents.enter_eq]
  dsimp only
  rw [Effect.runOn_get_bind, counting_backing]
  cases backing : store.backing with
  | memory kept =>
    rw [backing] at holds
    obtain rfl := holds
    obtain ⟨changed, inserted, arranged⟩ :=
      Table.insert_underText represents.orderly.apart id execution
    refine ⟨{ store.counting .save with backing := .memory (changed.map Table.underText) }, changed,
      ?_, ⟨represents.unplanned, orderly.of_perm arranged, rfl⟩, arranged⟩
    rw [← inserted, ← known]
    dsimp only
    rw [Effect.runOn_lift_bind, Execution.snapshot_of_hasForm storable.fit.form]
    dsimp only
    rw [Effect.runOn_lift_bind, known]
    rfl
  | folder path =>
    rw [backing] at holds
    obtain ⟨place, directory, inside⟩ := holds
    have free := Folder.not_directory inside
    obtain ⟨changed, saved, directory', inside'⟩ := Folder.save_of_fit directory storable.fit named
      known (free (Folder.documentName id)) (free (Folder.draftName id))
    rw [inside, Folder.filter_draft, Folder.filter_asDocument] at inside'
    have listed : changed.inside place = ((held.filter fun entry => entry.1 ≠ id) ++
        [(id, execution)]).map Folder.asDocument := by
      rw [inside', List.map_append]
      rfl
    refine ⟨{ store.counting .save with backing := .folder path, files := changed }, _, ?_,
      ⟨represents.unplanned, orderly, place, directory', listed⟩, .refl _⟩
    dsimp only
    rw [counting_files, saved, Effect.runOn_set_bind, Effect.runOn_lift]

/-- The executions that are represented can be copied one by one. -/
theorem mapM_snapshot (store : Store) {executions : List Execution}
    (storable : ∀ execution ∈ executions, execution.IsStorable) :
    (executions.mapM fun execution => lift execution.snapshot : Effect Store _).runOn store =
      (.ok executions, store) := by
  induction executions with
  | nil => rfl
  | cons execution rest inductionHypothesis =>
    have fit := (storable execution List.mem_cons_self).fit
    rw [List.mapM_cons, Effect.runOn_lift_bind, Execution.snapshot_of_hasForm fit.form]
    dsimp only
    rw [Effect.runOn_bind, inductionHypothesis fun other member =>
      storable other (List.mem_cons_of_mem _ member)]
    rfl

/-- Each document gives the execution that it is named for. -/
theorem loadEach_eq (represents : store.Represents held) (path : Path)
    (entries : List (String × Execution)) (listed : ∀ entry ∈ entries, entry ∈ held) :
    ∃ left, (loadEach (entries.map fun entry =>
        path.below (Folder.documentName entry.1))).runOn store =
          (.ok (entries.map Prod.snd), left) ∧ left.Represents held := by
  induction entries generalizing store with
  | nil => exact ⟨store, rfl, represents⟩
  | cons entry rest inductionHypothesis =>
    have member := listed entry List.mem_cons_self
    obtain ⟨named, -⟩ := represents.orderly.named entry member
    have found := (Table.lookup_eq_some represents.orderly.apart).mpr member
    obtain ⟨left, loaded, represents'⟩ := inductionHypothesis (represents.called .load)
      fun other member => listed other (List.mem_cons_of_mem _ member)
    refine ⟨left, ?_, represents'⟩
    have first := represents.load_eq named
    rw [found] at first
    rw [List.map_cons, loadEach, Folder.stem_below named, Effect.runOn_bind,
      Effect.runOn_tryCatch, first]
    dsimp only
    rw [Effect.runOn_bind, loaded]
    rfl

/-- The executions in a store are those that it represents. -/
theorem executions_perm (represents : store.Represents held) :
    store.executions.Perm (held.map Prod.snd) := by
  have holds := represents.holds
  unfold executions
  cases backing : store.backing with
  | memory kept =>
    rw [backing] at holds
    obtain rfl := holds
    exact .of_eq List.map_map
  | folder path =>
    rw [backing] at holds
    obtain ⟨place, directory, inside⟩ := holds
    obtain ⟨left, loaded, -⟩ := represents.loadEach_eq path held.reverse fun entry =>
      List.mem_reverse.mp
    dsimp only
    rw [Folder.documents_eq directory inside, loaded]
    exact held.reverse_perm.map Prod.snd

/-- All that a listing goes by can be kept. -/
theorem storable (represents : store.Represents held) (filter : Filter) :
    ∀ execution ∈ (held.map Prod.snd).filter filter.accepts, execution.IsStorable := by
  intro execution member
  obtain ⟨entry, listed, rfl⟩ := List.mem_map.mp (List.mem_of_mem_filter member)
  exact represents.orderly.storable entry listed

/-- A listing gives what is represented, whichever way the store goes through it. -/
theorem list_eq (represents : store.Represents held)
    (apart : Listing.StartApart (held.map Prod.snd)) (filter : Filter) (limit : Value) :
    ∃ left, (list filter limit).runOn store =
        (Listing.newest ((held.map Prod.snd).filter filter.accepts) limit, left) ∧
      left.Represents held := by
  have holds := represents.holds
  have storable := represents.storable filter
  have contemporary execution member := (storable execution member).contemporary
  rw [list, Effect.runOn_bind, represents.enter_eq]
  dsimp only
  rw [Effect.runOn_get_bind, counting_backing]
  cases backing : store.backing with
  | memory kept =>
    rw [backing] at holds
    obtain rfl := holds
    refine ⟨store.counting .list, ?_, represents.called .list⟩
    have whole : (held.map Table.underText).map Prod.snd = held.map Prod.snd := List.map_map
    dsimp only
    rw [Effect.runOn_lift_bind, whole]
    cases listed : Listing.newest ((held.map Prod.snd).filter filter.accepts) limit with
    | error f => rfl
    | ok found =>
      exact mapM_snapshot _ fun execution member =>
        storable execution (Listing.mem_of_newest contemporary listed member)
  | folder path =>
    rw [backing] at holds
    obtain ⟨place, directory, inside⟩ := holds
    obtain ⟨left, loaded, represents'⟩ := (represents.called .list).loadEach_eq path
      held.reverse fun entry => List.mem_reverse.mp
    refine ⟨left, ?_, represents'⟩
    dsimp only
    rw [counting_files, Folder.documents_eq directory inside, Effect.runOn_bind, loaded]
    dsimp only
    rw [Effect.runOn_lift, List.map_reverse]
    have same := ((held.map Prod.snd).reverse_perm.filter filter.accepts).symm
    rw [Listing.newest_of_perm same contemporary (apart.filter _)]

/-- Deleting one execution after the other takes all of them away. -/
theorem forM_delete (represents : store.Represents held) {gone : List Execution}
    (named : ∀ execution ∈ gone, ∃ id, execution.id = .str id ∧ Folder.IsId id) :
    ∃ left, (gone.forM fun execution => delete execution.id).runOn store = (.ok (), left) ∧
      left.Represents (held.filter fun entry =>
        gone.all fun execution => !execution.id.same (.str entry.1)) := by
  induction gone generalizing store held with
  | nil => exact ⟨store, rfl, by simpa using represents⟩
  | cons execution rest inductionHypothesis =>
    obtain ⟨id, known, proper⟩ := named execution List.mem_cons_self
    obtain ⟨next, deleted, represents'⟩ := represents.delete_eq proper
    obtain ⟨left, others, represents''⟩ := inductionHypothesis represents'
      fun other member => named other (List.mem_cons_of_mem _ member)
    refine ⟨left, ?_, ?_⟩
    · change ((delete execution.id >>= fun _ => rest.forM fun execution =>
        delete execution.id).runOn store) = _
      rw [Effect.runOn_bind, known, deleted]
      exact others
    · rw [List.filter_filter] at represents''
      have every : (fun entry : String × Execution =>
          (execution :: rest).all fun execution => !execution.id.same (.str entry.1)) =
          fun entry => (rest.all fun execution => !execution.id.same (.str entry.1)) &&
            decide (entry.1 ≠ id) := by
        funext entry
        rw [List.all_cons, known, Value.same_str, Bool.and_comm, ← decide_not]
        simp only [ne_eq, eq_comm]
      rw [every]
      exact represents''

/-- A cleanup takes away what it finds to be over, and nothing when it fails. -/
theorem cleanup_eq (represents : store.Represents held)
    (apart : Listing.StartApart (held.map Prod.snd)) (cutoff : Moment) :
    ∃ left, (cleanup cutoff).runOn store = ((overBy cutoff held).map List.length, left) ∧
      left.Represents (held.filter fun entry => ((overBy cutoff held).toOption.getD []).all
        fun execution => !execution.id.same (.str entry.1)) := by
  obtain ⟨listing, listed, represents'⟩ := represents.list_eq apart .all (.int held.length)
  have unchanged : listing.Represents (held.filter fun entry =>
      ([] : List Execution).all fun execution => !execution.id.same (.str entry.1)) := by
    simpa using represents'
  rw [cleanup, Effect.runOn_get_bind, represents.size_eq, Effect.runOn_bind, listed]
  cases found : Listing.newest ((held.map Prod.snd).filter Filter.all.accepts)
      (.int held.length) with
  | error f =>
    have failed : overBy cutoff held = .error f := by
      rw [overBy, found]
      rfl
    rw [failed]
    exact ⟨listing, rfl, unchanged⟩
  | ok executions =>
    have whole : overBy cutoff held = expiredOf cutoff executions := by
      rw [overBy, found]
      rfl
    dsimp only
    rw [whole, Effect.runOn_lift_bind]
    cases expired : expiredOf cutoff executions with
    | error f => exact ⟨listing, rfl, unchanged⟩
    | ok gone =>
      have named : ∀ execution ∈ gone, ∃ id, execution.id = .str id ∧ Folder.IsId id := by
        intro execution member
        have there := Listing.mem_of_newest
          (fun other member => (represents.storable .all other member).contemporary) found
          (mem_of_expiredOf expired member)
        obtain ⟨entry, known, rfl⟩ := List.mem_map.mp (List.mem_of_mem_filter there)
        obtain ⟨proper, told⟩ := represents.orderly.named entry known
        exact ⟨entry.1, told, proper⟩
      obtain ⟨left, deleted, represents''⟩ := represents'.forM_delete named
      refine ⟨left, ?_, represents''⟩
      dsimp only
      rw [Effect.runOn_bind, deleted]
      rfl

end Represents

end Store

end Stepwise
