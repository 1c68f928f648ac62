import Stepwise.Engine.Ownership
import Stepwise.Proofs.Value.Table

/-!
# Ownership of one id

What an ownership says about one id is said by the claims and the locks under it, and what other ids
are about does not matter. An id is free when nothing is said about it. A run that begins under a
free id claims it and takes a lock for it that nobody else has, and the id is free again once the
run has left. Requests to stop are kept apart, for they say nothing about who owns an id.
-/

namespace Stepwise

namespace Ownership

/-- What an ownership says about an id: the claims and the locks under it. -/
def about (ownership : Ownership) (id : Value) : List Value × Table Nat :=
  (ownership.active.filter (·.same id), ownership.locks.filter (·.1.same id))

/-- Every lock that is held has been made. -/
def IsOrderly (ownership : Ownership) : Prop := ∀ lock ∈ ownership.held, lock < ownership.made

/-- Nothing is claimed or locked under the id. -/
structure IsFree (ownership : Ownership) (id : Value) : Prop where
  clear : ownership.about id = ([], [])
  orderly : ownership.IsOrderly

/-- One run has claimed the id and has not locked its record yet. -/
structure IsClaimed (ownership : Ownership) (id : Value) : Prop where
  own : ownership.about id = ([id], [])
  orderly : ownership.IsOrderly

/-- One run has claimed the id and has the only lock under it. -/
structure IsTaken (ownership : Ownership) (id : Value) : Prop where
  own : ∃ lock, ownership.about id = ([id], [(id, lock)])
  orderly : ownership.IsOrderly

/-- The ownership with one more claim. -/
def claiming (ownership : Ownership) (id : Value) : Ownership :=
  { ownership with active := ownership.active ++ [id] }

/-- The ownership with a new lock for a record, which is held. -/
def locking (ownership : Ownership) (id : Value) : Ownership :=
  { ownership with
    locks := ownership.locks.insert id ownership.made
    held := ownership.made :: ownership.held
    made := ownership.made + 1 }

variable {ownership : Ownership} {id : Value}

/-- The lock that is made next is not held. -/
theorem IsOrderly.unheld (orderly : ownership.IsOrderly) :
    ownership.isHeld ownership.made = false := by
  rw [isHeld, List.contains_eq_mem, decide_eq_false_iff_not]
  exact fun member => Nat.lt_irrefl _ (orderly _ member)

theorem IsOrderly.letGo (orderly : ownership.IsOrderly) (lock : Nat) :
    (ownership.letGo lock).IsOrderly :=
  fun other member => orderly other (List.mem_filter.mp member).1

theorem IsOrderly.locking (orderly : ownership.IsOrderly) (id : Value) :
    (ownership.locking id).IsOrderly := by
  intro lock member
  obtain rfl | earlier := List.mem_cons.mp member
  · exact Nat.lt_succ_self _
  · exact Nat.lt_succ_of_lt (orderly lock earlier)

theorem IsFree.unclaimed (free : ownership.IsFree id) : ownership.isActive id = false := by
  have absent : ownership.active.filter (·.same id) = [] := congrArg Prod.fst free.clear
  rw [isActive, Value.isAmong, List.any_eq_false]
  exact fun item member => List.filter_eq_nil_iff.mp absent item member

theorem IsFree.isClaimed (free : ownership.IsFree id) (own : id.same id = true) :
    (ownership.claiming id).IsClaimed id := by
  obtain ⟨clear, orderly⟩ := free
  simp only [about, Prod.mk.injEq] at clear
  exact ⟨by simp [about, claiming, clear, own], orderly⟩

theorem IsClaimed.unlocked (claimed : ownership.IsClaimed id) :
    ownership.locks.find? id = .none :=
  Table.find?_of_absent (congrArg Prod.snd claimed.own)

/-- An id with one lock at most is free once it is released. -/
theorem isFree_release (orderly : ownership.IsOrderly)
    (single : (ownership.locks.filter (·.1.same id)).length ≤ 1) :
    (ownership.release id).IsFree id := by
  have unclaimed : (ownership.active.filter fun other => !other.same id).filter (·.same id) =
      [] := by
    simp [List.filter_filter]
  have unlocked : (ownership.locks.erase id).filter (·.1.same id) = [] := by
    rw [Table.filter_erase, List.drop_eq_nil_iff]
    exact single
  exact ⟨by simp [about, release, unclaimed, unlocked], orderly⟩

theorem IsClaimed.isFree_left (claimed : ownership.IsClaimed id) :
    (ownership.release id).IsFree id := by
  have locks : ownership.locks.filter (·.1.same id) = [] := congrArg Prod.snd claimed.own
  exact isFree_release claimed.orderly (by simp [locks])

/-- A run that leaves gives its id free. -/
theorem IsTaken.isFree_left (taken : ownership.IsTaken id) (lock : Nat) :
    ((ownership.letGo lock).release id).IsFree id := by
  obtain ⟨own, said⟩ := taken.own
  refine isFree_release (taken.orderly.letGo lock) ?_
  have locks : ownership.locks.filter (·.1.same id) = [(id, own)] := congrArg Prod.snd said
  simp [letGo, locks]

end Ownership

end Stepwise
