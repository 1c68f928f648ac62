import Stepwise.Proofs.Engine.Recovery
import Stepwise.Proofs.Engine.Solitary

/-!
# Resumed executions

A whole run that comes back with a record which nobody asked to stop tells what its scenario comes
to, and also that saves are made in time. An execution of the scenario that is interrupted, once or
again, and is taken up at last by a run whose records are kept, comes to a record of its own. Both
records have come to their ends with the same tale, so they say the same.
-/

namespace Stepwise

variable {η : Type}

/-! ## The whole run -/

/-- How the last run stands after some turns: it carries the execution, nobody has asked it to
stop, and no fault has escaped from it. -/
structure Run.Recovers (scenario : Scenario η) (id : String) (run : Run η)
    (past : List (Turn η)) : Prop where
  carries : run.Carries scenario id
  clean : run.IsClean
  uncanceled : ∀ execution, run.execution? = some execution → execution.status ≠ .canceled
  safe : ∀ turn ∈ past, ¬ turn.Escapes

/-- What the last run is given besides: its records are kept, and nobody asks it to stop. -/
structure Turn.IsFavored (turn : Turn η) (id : String) : Prop where
  kept : turn.IsKept
  unasked : turn.found.ownership.isCancelRequested (.str id) = false

/-- The last run gets over every turn. -/
theorem Turn.recovers {scenario : Scenario η} {id : String} {turn : Turn η} {past : List (Turn η)}
    {whole : Execution} (completes : scenario.Completes whole) (copyable : whole.obstacle? = none)
    (regular : scenario.IsRegular) (recovers : turn.run.Recovers scenario id past)
    (fits : scenario.Fits turn) (favored : turn.IsFavored id) :
    turn.after.1.Recovers scenario id (past ++ [turn]) := by
  obtain ⟨carries, clean, uncanceled, safe⟩ := recovers
  obtain ⟨next, left, advances⟩ := turn.advances_of_completes completes copyable regular fits
    carries clean favored.kept favored.unasked
  rw [turn.after_of_advances carries.sound advances]
  refine ⟨advances.carries regular fits carries, advances.clean carries.sound clean,
    fun _ => advances.uncanceled carries.sound carries.on favored.unasked uncanceled, ?_⟩
  intro other member
  obtain earlier | last := List.mem_append.mp member
  · exact safe other earlier
  · obtain rfl := List.mem_singleton.mp last
    exact fun escapes => escapes.not_advances carries.sound clean advances

/-- From a record that can be taken up the last run comes to a record with the whole tale. -/
theorem Course.recovers {scenario : Scenario η} {id : String} {record whole : Execution}
    {lock : Nat} {engine : Engine η} {turns : List (Turn η)} {final : Run η × Engine η}
    (completes : scenario.Completes whole) (copyable : whole.obstacle? = none)
    (regular : scenario.IsRegular) (resumable : scenario.CanResume id record)
    (course : Course (fun _ turn => scenario.Fits turn ∧ turn.IsFavored id)
      (.opening (Engine.workOn (.str id) lock scenario.workflow record), engine) turns final)
    (favored : ∀ turn ∈ turns, turn.IsFavored id)
    (enough : 3 * scenario.workflow.steps.length + 2 ≤ turns.length) :
    ∃ execution, final.1 = .finished (.ok execution) ∧ scenario.Completes execution := by
  have carries := resumable.carries regular lock
  have clean := resumable.isClean regular (.str id) lock
  have recovers : final.1.Recovers scenario id turns := by
    refine course.preserves (fun past run _ => run.Recovers scenario id past) ?_ []
      ⟨carries, clean, ?_, by simp⟩
    · rintro past left turn recovers ⟨fits, favored⟩
      exact turn.recovers completes copyable regular recovers fits favored
    · rintro _ ⟨⟩ canceled
      rw [Engine.workOn, resumable.running] at canceled
      cases canceled
  obtain ⟨execution, came, -⟩ := course.returns carries.sound clean rfl
    (fun turn member => (favored turn member).kept) recovers.safe (by
      simp only [Run.movesLeft, Engine.workOn, List.length_drop]
      omega)
  obtain ⟨-, ⟨concluded, -, tells⟩, -⟩ := recovers.carries
  have uncanceled := recovers.uncanceled
  rw [came] at concluded tells uncanceled
  exact ⟨execution, came, concluded, tells _ rfl, uncanceled _ rfl⟩

/-! ## Saying the same -/

/-- Two records that have come to their ends with the tale say the same. -/
theorem Scenario.Completes.same {scenario : Scenario η} {record other : Execution}
    (completes : scenario.Completes record) (also : scenario.Completes other) :
    other.status = record.status ∧ other.input.original = record.input.original ∧
      other.outputs.original = record.outputs.original ∧
      other.results.map StepResult.essence = record.results.map StepResult.essence := by
  have counted : other.results.length = record.results.length :=
    Nat.le_antisymm (completes.length_le also) (also.length_le completes)
  obtain ⟨begins, told, tale, outputs, results⟩ := completes.tells
  obtain ⟨begins', told', tale', outputs', results'⟩ := also.tells
  rw [counted, tale] at tale'
  cases tale'
  have alike : other.results.map StepResult.essence = record.results.map StepResult.essence :=
    results'.trans results.symm
  refine ⟨?_, begins'.trans begins.symm, outputs'.trans outputs.symm, alike⟩
  have failures : other.hasFailures = record.hasFailures := by
    have statuses := congrArg (fun results => results.map StepResult.status) alike
    simp only [List.map_map] at statuses
    have failing := congrArg (fun statuses => statuses.any (· = .failed)) statuses
    simp only [List.any_map] at failing
    exact failing
  have transfer {one another : Execution} (completes : scenario.Completes one)
      (also : scenario.Completes another)
      (counted : another.results.length = one.results.length)
      (stopped : StoppedAtLast scenario.workflow.steps one.results) :
      StoppedAtLast scenario.workflow.steps another.results := by
    obtain ⟨place, step, result, last, there, present, stops⟩ := stopped
    have listed := List.getElem?_eq_getElem (l := another.results) (i := place) (by omega)
    exact ⟨place, step, _, by omega, there, listed,
      completes.stops also.tells also.concluded.fits present listed stops⟩
  obtain ⟨stopped, status⟩ | ⟨-, -, canceled⟩ | ⟨unstopped, -, status⟩ :=
    completes.concluded.verdict
  · obtain ⟨-, status'⟩ | ⟨-, -, canceled⟩ | ⟨unstopped, -⟩ := also.concluded.verdict
    · rw [status, status']
    · exact absurd canceled also.uncanceled
    · exact absurd (transfer completes also counted stopped) unstopped
  · exact absurd canceled completes.uncanceled
  · obtain ⟨stopped, -⟩ | ⟨-, -, canceled⟩ | ⟨-, -, status'⟩ := also.concluded.verdict
    · exact absurd (transfer also completes counted.symm stopped) unstopped
    · exact absurd canceled also.uncanceled
    · rw [status, status', failures]

/-! ## Interrupted and whole -/

namespace Engine

end Engine

namespace Letters

/-- What the letters are about: the handlers answer by themselves, whatever their input is. -/
def scenario : Scenario Bool where
  engine
  answer handler _ := if handler then .returned (.int 1) else .raised (.valueError "gone")
  workflow
  input := .null

theorem describes : scenario.Describes behave := fun _ _ _ => rfl

/-- A store that fails when it is to keep the result of noting, and fails so once more. -/
def unreliable : Engine Bool :=
  { engine with
    store := { engine.store with
      plan := fun call number =>
        if call = .save ∧ (number = 3 ∨ number = 5) then some (.valueError "full") else none } }

def begun : Run Bool × Engine Bool :=
  unreliable.start (Engine.startExecution (.str "letters") .null)

/-- The letters at their first interruption, in the third save. -/
def interrupted : Run Bool × Engine Bool := Engine.moves behave 7 begun.1 begun.2

def resumed : Run Bool × Engine Bool :=
  interrupted.2.start (Engine.startResumption (.str "exec-1"))

/-- The letters at their second interruption, in the fifth save. -/
def interruptedAgain : Run Bool × Engine Bool := Engine.moves behave 5 resumed.1 resumed.2

def resumedAgain : Run Bool × Engine Bool :=
  interruptedAgain.2.start (Engine.startResumption (.str "exec-1"))

/-- The store answers a turn that loads a record. -/
def answers (turn : Turn Bool) : Bool :=
  match turn.run with
  | .loading claimed =>
    ((Engine.callStore "load" (Engine.onStore (Store.load claimed))).runOn turn.found).1.isOk
  | _ => true

end Letters

end Stepwise
