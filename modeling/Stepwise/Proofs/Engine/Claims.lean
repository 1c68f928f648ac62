import Stepwise.Proofs.Effect
import Stepwise.Proofs.Engine.Ownership
import Stepwise.Proofs.Value.Key

/-!
# The register of claims

An ownership is a register of claims when exactly the ids of a list are claimed, no two of them are
the same, and nothing else is said that is not about one of them: every request to stop and every
lock belongs to a claimed id, and no id has two locks. Claiming adds to the list and releasing takes
away from it; all other operations keep the list as it is. Which locks are held does not matter.
-/

namespace Stepwise

namespace Ownership

/-- Exactly these ids are claimed, and all that is said is about them. -/
structure Registers (ownership : Ownership) (claims : List Value) : Prop where
  active : claims.Perm ownership.active
  keys : ∀ id ∈ claims, id.IsKey
  apart : claims.Pairwise fun id other => id.same other = false
  requested : ∀ id ∈ ownership.cancelRequested, id.IsKey ∧ id.isAmong claims = true
  locked : ∀ entry ∈ ownership.locks, entry.1.IsKey ∧ entry.1.isAmong claims = true
  single : ownership.locks.Pairwise fun entry other => entry.1.same other.1 = false

theorem registers_none : none.Registers [] where
  active := .refl _
  keys := nofun
  apart := .nil
  requested := nofun
  locked := nofun
  single := .nil

/-! ## What the operations do -/

variable {ownership left : Ownership} {id : Value}

theorem claim_of_free (key : id.IsKey) (free : ownership.isActive id = false) :
    (claim id).runOn ownership = (.ok (), ownership.claiming id) := by
  rw [claim, Effect.runOn_lift_bind, key]
  simp only [Effect.runOn_get_bind, free, Bool.false_eq_true, if_false, Effect.runOn_modify]
  rfl

/-- A claim is made on a key that nobody owns, or it is refused and changes nothing. -/
theorem claim_cases (ownership : Ownership) (id : Value) :
    (∃ f, (claim id).runOn ownership = (.error f, ownership)) ∨
      id.IsKey ∧ ownership.isActive id = false ∧
        (claim id).runOn ownership = (.ok (), ownership.claiming id) := by
  cases key : id.hashable with
  | error f => exact .inl ⟨f, by rw [claim, Effect.runOn_lift_bind, key]⟩
  | ok _ =>
    cases owned : ownership.isActive id with
    | false => exact .inr ⟨key, rfl, claim_of_free key owned⟩
    | true =>
      rw [claim, Effect.runOn_lift_bind, key]
      simp only [Effect.runOn_get_bind, owned, if_true, Effect.runOn_lift_bind]
      cases id.text with
      | error f => exact .inl ⟨f, rfl⟩
      | ok text => exact .inl ⟨_, rfl⟩

/-- A key has a lock or gets a new one, and what is no key gets none. -/
theorem lockOf_cases (ownership : Ownership) (id : Value) :
    (∃ f, id.hashable = .error f ∧ (lockOf id).runOn ownership = (.error f, ownership)) ∨
      id.IsKey ∧
        ((∃ lock, (lockOf id).runOn ownership = (.ok lock, ownership)) ∨
          ownership.locks.filter (·.1.same id) = [] ∧
            (lockOf id).runOn ownership = (.ok ownership.made,
              { ownership with
                locks := ownership.locks ++ [(id, ownership.made)]
                made := ownership.made + 1 })) := by
  cases key : id.hashable with
  | error f => exact .inl ⟨f, rfl, by rw [lockOf, Effect.runOn_lift_bind, key]⟩
  | ok _ =>
    rw [lockOf, Effect.runOn_lift_bind, key]
    cases found : ownership.locks.find? id with
    | some lock =>
      refine .inr ⟨key, .inl ⟨lock, ?_⟩⟩
      simp only [Effect.runOn_get_bind, found, Effect.runOn_pure]
    | none =>
      have absent := Table.find?_eq_none_iff.mp found
      refine .inr ⟨key, .inr ⟨absent, ?_⟩⟩
      simp only [Effect.runOn_get_bind, found, Effect.runOn_set_bind, Effect.runOn_pure,
        Table.insert_of_absent absent]

/-- Locks have nothing to do with requests to stop. -/
theorem lockOf_requested {lock : Nat}
    (locked : (lockOf id).runOn ownership = (.ok lock, left)) :
    left.cancelRequested = ownership.cancelRequested := by
  obtain ⟨f, -, refused⟩ | ⟨-, ⟨known, found⟩ | ⟨-, made⟩⟩ := lockOf_cases ownership id
  · rw [refused] at locked
    cases locked
  · rw [found] at locked
    obtain ⟨-, rfl⟩ := Prod.mk.inj locked
    rfl
  · rw [made] at locked
    obtain ⟨-, rfl⟩ := Prod.mk.inj locked
    rfl

/-- A run is asked to stop only when its id is claimed. -/
theorem requestCancel_left (ownership : Ownership) (id : Value) :
    ((requestCancel id).runOn ownership).2 = ownership ∨
      id.IsKey ∧ ownership.isActive id = true ∧
        ((requestCancel id).runOn ownership).2 =
          { ownership with cancelRequested := ownership.cancelRequested ++ [id] } := by
  rw [requestCancel, Effect.runOn_lift_bind]
  cases key : id.hashable with
  | error f => exact .inl rfl
  | ok _ =>
    cases owned : ownership.isActive id with
    | false =>
      refine .inl ?_
      simp only [Effect.runOn_get_bind, owned, Bool.false_eq_true, if_false, Effect.runOn_pure]
    | true =>
      simp only [Effect.runOn_get_bind, owned, if_true, Effect.runOn_modify_bind,
        Effect.runOn_lift_bind]
      cases asked : ownership.isCancelRequested id with
      | true =>
        refine .inl ?_
        cases id.text <;> rfl
      | false =>
        refine .inr ⟨key, trivial, ?_⟩
        cases id.text <;> rfl

/-! ## What they keep -/

namespace Registers

variable {claims before later : List Value}

/-- What is claimed is among the claims. -/
theorem isActive_eq (registers : ownership.Registers claims) (id : Value) :
    ownership.isActive id = id.isAmong claims := by
  rw [isActive, Value.isAmong, Value.isAmong]
  exact (registers.active.any_eq).symm

/-- Only claims, requests and locks count. -/
theorem of_eq (registers : ownership.Registers claims) (active : left.active = ownership.active)
    (requested : left.cancelRequested = ownership.cancelRequested)
    (locked : left.locks = ownership.locks) : left.Registers claims where
  active := active ▸ registers.active
  keys := registers.keys
  apart := registers.apart
  requested := requested ▸ registers.requested
  locked := locked ▸ registers.locked
  single := locked ▸ registers.single

theorem hold (registers : ownership.Registers claims) (lock : Nat) :
    (ownership.hold lock).Registers claims :=
  registers.of_eq rfl rfl rfl

theorem letGo (registers : ownership.Registers claims) (lock : Nat) :
    (ownership.letGo lock).Registers claims :=
  registers.of_eq rfl rfl rfl

theorem claiming (registers : ownership.Registers claims) (key : id.IsKey)
    (free : ownership.isActive id = false) :
    (ownership.claiming id).Registers (claims ++ [id]) where
  active := registers.active.append_right [id]
  keys := by
    intro other member
    obtain earlier | last := List.mem_append.mp member
    · exact registers.keys other earlier
    · exact List.mem_singleton.mp last ▸ key
  apart := by
    rw [registers.isActive_eq, Value.isAmong_eq_false_iff] at free
    refine List.pairwise_append.mpr ⟨registers.apart, List.pairwise_singleton _ _, ?_⟩
    intro other member last same
    exact List.mem_singleton.mp same ▸ free other member
  requested := by
    intro other member
    obtain ⟨key, among⟩ := registers.requested other member
    exact ⟨key, by rw [Value.isAmong, List.any_append, Bool.or_eq_true]; exact .inl among⟩
  locked := by
    intro entry member
    obtain ⟨key, among⟩ := registers.locked entry member
    exact ⟨key, by rw [Value.isAmong, List.any_append, Bool.or_eq_true]; exact .inl among⟩
  single := registers.single

/-- Among the claims that are left is whatever was among them and is not the released one. -/
theorem isAmong_left (registers : ownership.Registers (before ++ id :: later)) {other : Value}
    (key : other.IsKey) (among : other.isAmong (before ++ id :: later) = true)
    (apart : other.same id = false) : other.isAmong (before ++ later) = true := by
  obtain ⟨item, member, same⟩ := Value.isAmong_iff.mp among
  refine Value.isAmong_iff.mpr ⟨item, ?_, same⟩
  obtain earlier | last := List.mem_append.mp member
  · exact List.mem_append_left _ earlier
  · obtain rfl | later := List.mem_cons.mp last
    · rw [(registers.keys item member).same_comm key, apart] at same
      cases same
    · exact List.mem_append_right _ later

/-- A released id is the only one that is not claimed any more. -/
theorem release (registers : ownership.Registers (before ++ id :: later)) :
    (ownership.release id).Registers (before ++ later) where
  active := by
    have kept := registers.active.filter fun other => !other.same id
    have own : id.IsKey := registers.keys id (by simp)
    obtain ⟨-, behind, ahead⟩ := List.pairwise_append.mp registers.apart
    have first : before.filter (fun other => !other.same id) = before :=
      List.filter_eq_self.mpr fun other member => by
        simp [ahead other member id List.mem_cons_self]
    have last : later.filter (fun other => !other.same id) = later :=
      List.filter_eq_self.mpr fun other member => by
        have apart := (List.pairwise_cons.mp behind).1 other member
        rw [own.same_comm (registers.keys other (by simp [member]))] at apart
        simp [apart]
    rw [List.filter_append, first, List.filter_cons_of_neg (by simp [Value.same_self]), last]
      at kept
    exact kept
  keys other member := by
    refine registers.keys other ?_
    obtain earlier | later := List.mem_append.mp member
    · exact List.mem_append_left _ earlier
    · exact List.mem_append_right _ (List.mem_cons_of_mem _ later)
  apart := registers.apart.sublist ((List.sublist_cons_self _ _).append_left _)
  requested := by
    intro other member
    obtain ⟨member, apart⟩ := List.mem_filter.mp member
    obtain ⟨key, among⟩ := registers.requested other member
    exact ⟨key, registers.isAmong_left key among (by simpa using apart)⟩
  locked := by
    intro entry member
    have keys := fun entry member => (registers.locked entry member).1
    have apart := Table.apart_of_mem_erase keys registers.single member
    obtain ⟨key, among⟩ := registers.locked entry
      ((Table.erase_sublist ownership.locks id).subset member)
    exact ⟨key, registers.isAmong_left key among apart⟩
  single := registers.single.sublist (Table.erase_sublist ownership.locks id)

/-- A lock for a claimed id is the only one of it. -/
theorem lockOf (registers : ownership.Registers claims) (among : id.isAmong claims = true)
    {lock : Nat} (locked : (Ownership.lockOf id).runOn ownership = (.ok lock, left)) :
    left.Registers claims := by
  obtain ⟨f, -, refused⟩ | ⟨key, ⟨known, found⟩ | ⟨absent, made⟩⟩ := lockOf_cases ownership id
  · rw [refused] at locked
    cases locked
  · rw [found] at locked
    obtain ⟨-, rfl⟩ := Prod.mk.inj locked
    exact registers
  · rw [made] at locked
    obtain ⟨-, rfl⟩ := Prod.mk.inj locked
    refine { registers with locked := ?_, single := ?_ }
    · intro entry member
      obtain earlier | last := List.mem_append.mp member
      · exact registers.locked entry earlier
      · obtain rfl := List.mem_singleton.mp last
        exact ⟨key, among⟩
    · refine List.pairwise_append.mpr ⟨registers.single, List.pairwise_singleton _ _, ?_⟩
      intro entry member last same
      obtain rfl := List.mem_singleton.mp same
      simpa using List.filter_eq_nil_iff.mp absent entry member

theorem requestCancel (registers : ownership.Registers claims) (id : Value) :
    ((Ownership.requestCancel id).runOn ownership).2.Registers claims := by
  obtain same | ⟨key, owned, asked⟩ := requestCancel_left ownership id
  · rw [same]
    exact registers
  · rw [asked]
    refine { registers with requested := ?_ }
    intro other member
    obtain earlier | last := List.mem_append.mp member
    · exact registers.requested other earlier
    · obtain rfl := List.mem_singleton.mp last
      exact ⟨key, registers.isActive_eq other ▸ owned⟩

/-- Nobody is asked to stop a run under an id that is not claimed. -/
theorem unrequested (registers : ownership.Registers claims)
    (free : ownership.isActive id = false) : ownership.isCancelRequested id = false := by
  rw [registers.isActive_eq, Value.isAmong_eq_false_iff] at free
  refine Value.isAmong_eq_false_iff.mpr fun other member => ?_
  obtain ⟨own, among⟩ := registers.requested other member
  obtain ⟨item, claimed, same⟩ := Value.isAmong_iff.mp among
  rw [← (registers.keys item claimed).same_left own same id]
  exact free item claimed

/-- There is no lock for an id that is not claimed. -/
theorem unlocked (registers : ownership.Registers claims)
    (free : ownership.isActive id = false) : ownership.locks.filter (·.1.same id) = [] := by
  have unclaimed := Value.isAmong_eq_false_iff.mp (registers.isActive_eq id ▸ free)
  refine List.filter_eq_nil_iff.mpr fun entry member => ?_
  obtain ⟨key, among⟩ := registers.locked entry member
  obtain ⟨item, claimed, same⟩ := Value.isAmong_iff.mp among
  rw [← (registers.keys item claimed).same_left key same id, unclaimed item claimed]
  nofun

/-- Nothing at all is said about an id that is not claimed. -/
theorem isFree (registers : ownership.Registers claims) (orderly : ownership.IsOrderly)
    (free : ownership.isActive id = false) : ownership.IsFree id := by
  have active : ownership.active.filter (·.same id) = [] :=
    List.filter_eq_nil_iff.mpr fun item member => by
      simp [Value.isAmong_eq_false_iff.mp free item member]
  exact ⟨by rw [about, active, registers.unlocked free], orderly⟩

/-- Giving up an id that was free before it was claimed leaves what was there before. -/
theorem release_claiming (registers : ownership.Registers claims)
    (free : ownership.isActive id = false) : (ownership.claiming id).release id = ownership := by
  have unclaimed := Value.isAmong_eq_false_iff.mp free
  have unrequested := Value.isAmong_eq_false_iff.mp (registers.unrequested free)
  have active : (ownership.active ++ [id]).filter (fun other => !other.same id) =
      ownership.active := by
    rw [List.filter_append, List.filter_eq_self.mpr fun other member => by
      rw [unclaimed other member]; rfl]
    simp [Value.same_self]
  have requested : ownership.cancelRequested.filter (fun other => !other.same id) =
      ownership.cancelRequested :=
    List.filter_eq_self.mpr fun other member => by rw [unrequested other member]; rfl
  have locks : ownership.locks.erase id = ownership.locks :=
    Table.erase_of_absent (registers.unlocked free)
  rw [Ownership.release, Ownership.claiming]
  simp only [active, requested, locks]

end Registers

end Ownership

end Stepwise
