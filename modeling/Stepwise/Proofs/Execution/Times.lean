import Stepwise.Proofs.Execution.Recall

/-!
# Times of a record

A record notes when its execution was started, when each of its steps was begun and ended, and when
the execution came to its end. In the order in which they are noted the times are a timeline if all
of them are set and none is before an earlier one. A timeline goes on with every later time. It is
not changed by copying the record, nor by writing and reading it, for universal times are read back
to the microsecond.
-/

namespace Stepwise

/-- The times that are noted of a step. -/
def StepResult.times (result : StepResult) : List (Option Moment) :=
  [result.startedAt, result.finishedAt]

/-- The times that are noted of an execution until it comes to its end, in their order. -/
def Execution.timesSoFar (execution : Execution) : List (Option Moment) :=
  execution.startedAt :: execution.results.flatMap StepResult.times

/-- All times that are noted of an execution, in their order. -/
def Execution.times (execution : Execution) : List (Option Moment) :=
  execution.timesSoFar ++ [execution.finishedAt]

/-- The times are all set, in universal time, and none is before an earlier one. -/
structure IsTimeline (times : List (Option Moment)) : Prop where
  taken : ∀ time ∈ times, ∃ moment : Moment, time = some moment ∧ moment.isUniversal = true
  ordered : times.Pairwise fun earlier later =>
    ∀ moment ∈ earlier, ∀ next ∈ later, moment.instant ≤ next.instant

namespace IsTimeline

variable {times part : List (Option Moment)} {now later : Moment}

theorem single (universal : now.isUniversal = true) : IsTimeline [some now] where
  taken := by
    rintro time member
    exact ⟨now, List.mem_singleton.mp member, universal⟩
  ordered := List.pairwise_singleton _ _

theorem sublist (timeline : IsTimeline times) (within : part.Sublist times) :
    IsTimeline part where
  taken time member := timeline.taken time (within.subset member)
  ordered := timeline.ordered.sublist within

/-- A timeline that ends with a time goes on with every universal time that is not before it. -/
theorem goes_on (timeline : IsTimeline (times ++ [some now])) (universal : later.isUniversal = true)
    (forward : now.instant ≤ later.instant) :
    IsTimeline (times ++ [some now] ++ [some later]) where
  taken := List.forall_mem_append.mpr ⟨timeline.taken, (single universal).taken⟩
  ordered := by
    refine List.pairwise_append.mpr ⟨timeline.ordered, List.pairwise_singleton _ _, ?_⟩
    rintro time member _ last moment rfl next rfl
    obtain rfl := Option.some.inj (List.mem_singleton.mp last)
    refine Int.le_trans ?_ forward
    obtain before | here := List.mem_append.mp member
    · have ahead := (List.pairwise_append.mp timeline.ordered).2.2 _ before _
        (List.mem_singleton_self (some now))
      exact ahead moment rfl now rfl
    · obtain rfl := Option.some.inj (List.mem_singleton.mp here)
      exact Int.le_refl _

/-- Its last time may be put off. -/
theorem put_off (timeline : IsTimeline (times ++ [some now])) (universal : later.isUniversal = true)
    (forward : now.instant ≤ later.instant) : IsTimeline (times ++ [some later]) := by
  refine (timeline.goes_on universal forward).sublist ?_
  exact (List.sublist_append_left _ _).append_right _

/-- Its last time may be noted any number of times. -/
theorem noted {added : List (Option Moment)} (timeline : IsTimeline (times ++ [some now]))
    (present : ∀ time ∈ added, time = some now) : IsTimeline (times ++ added ++ [some now]) := by
  induction added generalizing times with
  | nil => rwa [List.append_nil]
  | cons time rest inductionHypothesis =>
    obtain ⟨rfl, others⟩ := List.forall_mem_cons.mp present
    obtain ⟨moment, same, universal⟩ := timeline.taken (some now) (by simp)
    obtain rfl := Option.some.inj same
    have again := inductionHypothesis (timeline.goes_on universal (Int.le_refl _)) others
    rwa [List.append_assoc times] at again

end IsTimeline

namespace Execution

variable {execution : Execution}

/-- Copying a record leaves its times. -/
theorem timesSoFar_copied (execution : Execution) :
    execution.copied.timesSoFar = execution.timesSoFar := by
  rw [timesSoFar, copied, List.flatMap_map]
  rfl

theorem timesSoFar_recalled (execution : Execution) :
    execution.recalled.timesSoFar = execution.timesSoFar.map (Option.map Moment.restated) := by
  simp only [timesSoFar, recalled, restated, reread, spoken, List.map_map, List.flatMap_map,
    List.map_cons, List.map_flatMap]
  rfl

/-- What is recalled of a record has its times. -/
theorem timesSoFar_recalled_of_isTimeline (timeline : IsTimeline execution.timesSoFar) :
    execution.recalled.timesSoFar = execution.timesSoFar := by
  rw [timesSoFar_recalled]
  refine (List.map_congr_left fun time member => ?_).trans (List.map_id _)
  obtain ⟨moment, rfl, universal⟩ := timeline.taken time member
  exact congrArg some (Moment.restated_of_isTold (Moment.isTold_of_isUniversal universal))

end Execution

end Stepwise
