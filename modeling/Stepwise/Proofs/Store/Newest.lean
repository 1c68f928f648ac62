import Stepwise.Proofs.Store.Order
import Stepwise.Store.Basic

/-!
# The newest executions

A listing sorts the executions that its filter accepts and takes as many as its limit lets through.
So it selects those that started last, and no more or fewer of them than asked for, as far as there
are any. Of executions that started at one instant it selects the first ones, in their order.
-/

namespace Stepwise

namespace Listing

/-- The executions that a filter accepts, those that started last first, up to a limit. -/
def top (filter : Filter) (limit : Int) (stored : List Execution) : List Execution :=
  ((stored.filter filter.accepts).mergeSort Execution.isAfter).take limit.toNat

/-- The chosen executions are the newest of the stored ones that a filter accepts, and as many as
there are or as a limit lets through. -/
structure IsNewest (filter : Filter) (limit : Int) (stored chosen : List Execution) : Prop where
  known : ∀ execution ∈ chosen, execution ∈ stored
  distinct : (chosen.map Execution.id).Nodup
  accepted : ∀ execution ∈ chosen, filter.accepts execution = true
  length : (chosen.length : Int) = min (max limit 0) (stored.countP filter.accepts)
  ordered : chosen.Pairwise fun execution next => execution.isAfter next = true
  others : ∀ execution ∈ stored, filter.accepts execution = true → execution ∉ chosen →
    ∀ selected ∈ chosen, selected.isAfter execution = true
  /-- Of executions that started at one instant the first ones are chosen, in their order. -/
  ties : ∀ start : Option Int, (chosen.filter fun execution => execution.start = start) <+:
    (stored.filter filter.accepts).filter fun execution => execution.start = start

variable {filter : Filter} {limit more : Int} {stored : List Execution}

theorem newest_eq (recent : ∀ execution ∈ stored,
    execution.startedAt.all Moment.isRecent = true) (filter : Filter) (limit : Int) :
    newest (stored.filter filter.accepts) (.int limit) = .ok (top filter limit stored) := by
  rw [newest, sorted_eq fun execution member => recent execution (List.mem_of_mem_filter member)]
  rfl

/-- What is taken of the sorted executions did not start before what is left. -/
theorem isAfter_of_taken {executions taken left : List Execution}
    (split : executions.mergeSort Execution.isAfter = taken ++ left) {execution selected : Execution}
    (missed : execution ∈ left) (member : selected ∈ taken) :
    selected.isAfter execution = true := by
  have sorted := List.pairwise_mergeSort Execution.isAfter_trans Execution.isAfter_total executions
  rw [split, List.pairwise_append] at sorted
  obtain ⟨-, -, between⟩ := sorted
  exact between selected member execution missed

/-- Sorting leaves executions that started at one instant in their order. -/
theorem filter_mergeSort (executions : List Execution) (start : Option Int) :
    ((executions.mergeSort Execution.isAfter).filter fun execution => execution.start = start) =
      executions.filter fun execution => execution.start = start := by
  have tied : (executions.filter fun execution => execution.start = start).Pairwise
      fun a b => a.isAfter b = true := by
    refine List.pairwise_of_forall_mem_list fun a member b member' => ?_
    have same := of_decide_eq_true (List.mem_filter.mp member).2
    have same' := of_decide_eq_true (List.mem_filter.mp member').2
    exact Execution.isAfter_of_start (same.trans same'.symm)
  have kept := (List.sublist_mergeSort Execution.isAfter_trans Execution.isAfter_total tied
    List.filter_sublist).filter fun execution => execution.start = start
  rw [List.filter_filter] at kept
  simp only [Bool.and_self] at kept
  refine (kept.eq_of_length ?_).symm
  exact ((List.mergeSort_perm executions Execution.isAfter).filter _).length_eq.symm

theorem accepts_of_mem_top {execution : Execution} (member : execution ∈ top filter limit stored) :
    execution ∈ stored ∧ filter.accepts execution = true :=
  List.mem_filter.mp (List.mem_mergeSort.mp (List.mem_of_mem_take member))

theorem isNewest_top (apart : (stored.map Execution.id).Nodup) (filter : Filter) (limit : Int) :
    IsNewest filter limit stored (top filter limit stored) where
  known execution member := (accepts_of_mem_top member).1
  distinct := by
    have arranged := List.mergeSort_perm (stored.filter filter.accepts) Execution.isAfter
    have different : ((stored.filter filter.accepts).map Execution.id).Nodup :=
      apart.sublist (List.filter_sublist.map _)
    exact ((arranged.map Execution.id).nodup_iff.mpr different).sublist
      ((List.take_sublist _ _).map _)
  accepted execution member := (accepts_of_mem_top member).2
  length := by
    rw [top, List.length_take, List.length_mergeSort, ← List.countP_eq_length_filter]
    omega
  ordered := by
    have sorted := List.pairwise_mergeSort Execution.isAfter_trans Execution.isAfter_total
      (stored.filter filter.accepts)
    exact sorted.sublist (List.take_sublist _ _)
  others execution member fit missed selected chosen := by
    refine isAfter_of_taken (List.take_append_drop limit.toNat _).symm ?_ chosen
    have present : execution ∈ (stored.filter filter.accepts).mergeSort Execution.isAfter :=
      List.mem_mergeSort.mpr (List.mem_filter.mpr ⟨member, fit⟩)
    rw [← List.take_append_drop limit.toNat ((stored.filter filter.accepts).mergeSort
      Execution.isAfter), List.mem_append] at present
    exact present.resolve_left missed
  ties start := by
    rw [← filter_mergeSort (stored.filter filter.accepts)]
    exact (List.take_prefix limit.toNat _).filter _

/-- A smaller limit lets the first ones through of what a larger one does. -/
theorem top_prefix (less : limit ≤ more) (filter : Filter) (stored : List Execution) :
    top filter limit stored <+: top filter more stored :=
  List.take_prefix_take_left (Int.toNat_le_toNat less)

/-- What looks alike to the filter and started at the same instants is selected alike. -/
theorem top_map {change : Execution → Execution}
    (accepts : ∀ execution ∈ stored, filter.accepts (change execution) = filter.accepts execution)
    (start : ∀ execution ∈ stored, (change execution).start = execution.start) (limit : Int) :
    top filter limit (stored.map change) = (top filter limit stored).map change := by
  have fit : (stored.map change).filter filter.accepts =
      (stored.filter filter.accepts).map change := by
    rw [List.filter_map]
    exact congrArg (List.map change) (List.filter_congr accepts)
  have sorted : ((stored.filter filter.accepts).mergeSort Execution.isAfter).map change =
      ((stored.filter filter.accepts).map change).mergeSort Execution.isAfter := by
    refine List.map_mergeSort fun a member b member' => ?_
    rw [Execution.isAfter, Execution.isAfter, start a (List.mem_of_mem_filter member),
      start b (List.mem_of_mem_filter member')]
  rw [top, fit, ← sorted, top, List.map_take]

end Listing

end Stepwise
