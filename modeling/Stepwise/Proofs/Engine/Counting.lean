import Stepwise.Proofs.Engine.History

/-!
# Counting what an execution has kept

An execution saves its record before its first step and after every step, and it dispatches at most
one step between two saves. So as long as no save fails, the number of records that were kept tells
how many results there are and which steps may have been dispatched, wherever the run stands.
-/

namespace Stepwise

variable {η : Type}

/-- How many records a run has kept that was started: one before its first step, and one after every
step but the one under way. -/
def Run.Counts (count : Nat) : Run η → Prop
  | .loading _ => False
  | .waiting work => count = 0 ∧ work.execution.results = []
  | .opening work => count = 0 ∧ work.execution.results = []
  | .dispatching work _ _ => count = work.execution.results.length + 1
  | .calling work _ _ _ => count = work.execution.results.length + 1
  | .recording work _ _ => count = work.execution.results.length
  | .closing work => count = work.execution.results.length + 1
  | .finished _ => True

/-- The work is that of a workflow under the id that was claimed for it. -/
structure Work.IsOf (id : String) (workflow : Workflow) (work : Work) : Prop where
  claimed : work.claimed = .str id
  steps : work.workflow = workflow
  about : work.execution.workflow = workflow.id

theorem Work.IsOf.continues {id : String} {workflow : Workflow} {work next : Work}
    (isOf : work.IsOf id workflow) (continues : work.Continues next) : next.IsOf id workflow where
  claimed := continues.claimed.trans isOf.claimed
  steps := continues.workflow.trans isOf.steps
  about := continues.about.trans isOf.about

namespace Engine

variable {engine : Engine η} {work : Work} {next : Run η} {count : Nat}

theorem Goes.counts (goes : engine.Goes work next)
    (counted : count = work.execution.results.length + 1) : next.Counts count := by
  cases goes with
  | ended ends => exact counted
  | stopped left unhalted asked told => exact counted
  | @begins step later outset left unhalted unasked comes =>
    cases outset with
    | sent input => exact counted
    | settled status error => exact counted.trans (by simp [Work.recorded])

end Engine

namespace Advances

variable {found left : Engine η} {heard : Outcome} {run next : Run η} {count : Nat} {work : Work}

end Advances

/-- A run that advances from a save has made it. -/
theorem Advances.saves {found left : Engine η} {heard : Outcome} {run next : Run η} {work : Work}
    (advances : Advances found heard run next left) (saving : run.saving? = some work) :
    ∃ reached, found.Saves work.execution reached := by
  cases advances with
  | opens saved goes =>
    cases saving
    exact ⟨_, saved⟩
  | records saved meant goes =>
    cases saving
    exact ⟨_, saved⟩
  | closes saved =>
    cases saving
    exact ⟨_, saved⟩
  | _ => cases saving

/-- Of a run that is about to save, the record kept last is still running, and all records but the
first stand for a result of it. -/
theorem Run.Counts.last {run : Run η} {kept : List Execution} {work : Work} {record : Execution}
    (counts : run.Counts kept.length) (stands : run.Chronicled kept)
    (saving : run.saving? = some work) (ends : kept.getLast? = some record) :
    record.status = .running ∧ record.results.length + 1 = kept.length := by
  have of_last {other : Execution} {results : List StepResult}
      (there : kept.getLast? = some other) (leads : other.LeadsTo results)
      (counted : results.length + 1 = kept.length) :
      record.status = .running ∧ record.results.length + 1 = kept.length := by
    obtain rfl := Option.some.inj (there.symm.trans ends)
    have same := congrArg List.length leads.recorded
    rw [List.length_map, List.length_map] at same
    exact ⟨leads.running, same ▸ counted⟩
  cases run with
  | opening work =>
    rw [List.eq_nil_of_length_eq_zero counts.1] at ends
    cases ends
  | recording work step result =>
    obtain ⟨-, other, earlier, there, leads, more⟩ := stands
    have counted : kept.length = work.execution.results.length := counts
    rw [more, List.length_append] at counted
    exact of_last there leads counted.symm
  | closing work =>
    obtain ⟨other, there, leads⟩ := stands
    exact of_last there leads (Eq.symm counts)
  | _ => cases saving

/-- The works whose records turns were about to save. -/
def Turn.attempts (turns : List (Turn η)) : List Work :=
  turns.filterMap fun turn => turn.run.saving?

/-- What the turns of an execution have come to as long as no save has failed: every attempt to save
a record has kept a copy of it, and the steps that were dispatched are among the first of the
workflow, one for every record. -/
structure Turn.Counts (id : String) (workflow : Workflow) (past : List (Turn η)) (run : Run η) :
    Prop where
  counts : run.Counts (kept past).length
  isOf : ∀ work, run.work? = some work ∨ work ∈ attempts past → work.IsOf id workflow
  made : run.result? = none → kept past = (attempts past).map fun work => work.execution.copied
  dispatched : ∀ turn ∈ past, ∀ work attempt input, turn.run = .dispatching work attempt input →
    ∃ place, place < (kept past).length ∧ workflow.steps[place]? = some attempt.step
  called : ∀ turn ∈ past, ∀ event ∈ turn.events, event.isSave = false →
    ∃ work attempt input, turn.run = .dispatching work attempt input

namespace Turn

variable {id : String} {workflow : Workflow} {past : List (Turn η)} {turn : Turn η}
  {left : Engine η}

namespace Counts

/-- While a run is not over, the record of the last attempt is the one that was kept last. If the
run is about to save again, that record is running and has a result for every attempt but the first.
-/
theorem last {work last : Work} (counts : Counts id workflow past turn.run)
    (stands : turn.run.Chronicled (kept past)) (saving : turn.run.saving? = some work)
    (ends : (attempts past).getLast? = some last) :
    (kept past).getLast? = some last.execution.copied ∧ last.execution.status = .running ∧
      last.execution.results.length + 1 = (attempts past).length := by
  have made := counts.made (Run.result?_of_saving saving)
  have there : (kept past).getLast? = some last.execution.copied := by
    rw [made, List.getLast?_map, ends, Option.map_some]
  obtain ⟨running, counted⟩ := counts.counts.last stands saving there
  rw [made, List.length_map] at counted
  refine ⟨there, running, ?_⟩
  simpa [Execution.copied] using counted

/-- Without an attempt to save the record, nothing is called. -/
theorem uncalled {run : Run η} (counts : Counts id workflow past run)
    (made : kept past = []) : ∀ turn ∈ past, ∀ event ∈ turn.events, event.isSave = true := by
  intro turn member event noted
  cases call : event.isSave with
  | true => rfl
  | false =>
    obtain ⟨work, attempt, input, dispatching⟩ := counts.called turn member event noted call
    obtain ⟨place, within, -⟩ := counts.dispatched turn member work attempt input dispatching
    rw [made] at within
    exact absurd within (Nat.not_lt_zero place)

end Counts

end Turn

end Stepwise
