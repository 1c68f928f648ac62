import Mathlib.Logic.Relation
import Stepwise.Proofs.Engine.System

/-!
# Requests to stop

A request to stop a run is kept beside the claim of its id. It is made only while the id is claimed,
and it is withdrawn only by who releases the id, which is the run itself when it is over. Whatever
else happens on the engine, all other calls and their ends included, leaves it standing: so a run
that was asked to stop finds the request at every one of its later turns.
-/

namespace Stepwise

namespace Ownership

variable {ownership left : Ownership} {id : String} {other : Value}

/-- A request that is withdrawn with another id stays, as long as its own id is claimed. -/
theorem isCancelRequested_release
    (asked : ownership.isCancelRequested (.str id) = true)
    (active : (ownership.release other).isActive (.str id) = true) :
    (ownership.release other).isCancelRequested (.str id) = true := by
  obtain ⟨item, claimed, same⟩ := Value.isAmong_iff.mp active
  obtain rfl := Value.eq_str_of_same same
  obtain ⟨request, made, same⟩ := Value.isAmong_iff.mp asked
  obtain rfl := Value.eq_str_of_same same
  have apart := (List.mem_filter.mp claimed).2
  exact Value.isAmong_iff.mpr ⟨_, List.mem_filter.mpr ⟨made, apart⟩, same⟩

/-- Another request takes none away. -/
theorem isCancelRequested_requestCancel
    (asked : ownership.isCancelRequested (.str id) = true) (other : Value) :
    ((requestCancel other).runOn ownership).2.isCancelRequested (.str id) = true := by
  obtain same | ⟨-, -, added⟩ := requestCancel_left ownership other
  · rw [same]
    exact asked
  · obtain ⟨item, member, same⟩ := Value.isAmong_iff.mp asked
    rw [added]
    exact Value.isAmong_iff.mpr ⟨item, List.mem_append_left _ member, same⟩

end Ownership

namespace Engine

variable {η : Type} {engine : Engine η}

/-- The engine once a run has been asked to stop. Asking again adds nothing. -/
def asked (engine : Engine η) (id : Value) : Engine η :=
  if engine.ownership.isCancelRequested id then engine
  else
    { engine with
      ownership := { engine.ownership with
        cancelRequested := engine.ownership.cancelRequested ++ [id] } }

/-- Asking a run to stop succeeds exactly when its id is claimed, and otherwise nothing happens. -/
theorem cancel_eq (engine : Engine η) (id : String) :
    (cancel (.str id)).runOn engine =
      if engine.ownership.isActive (.str id) = true then (.ok true, engine.asked (.str id))
      else (.ok false, engine) := by
  have key : (Value.str id).hashable = .ok () := rfl
  have told : (Value.str id).text = .ok id := by rw [Value.text]
  rw [cancel, onOwnership, Effect.runOn_onPart, Ownership.requestCancel, Effect.runOn_lift_bind,
    key]
  by_cases active : engine.ownership.isActive (.str id) = true
  · simp only [Effect.runOn_get_bind, active, if_true, Effect.runOn_modify_bind,
      Effect.runOn_lift_bind, told, Effect.runOn_pure, asked]
    split <;> rfl
  · simp only [Effect.runOn_get_bind, active, Bool.false_eq_true, if_false, Effect.runOn_pure]

theorem asked_requested (engine : Engine η) (id : String) :
    (engine.asked (.str id)).ownership.isCancelRequested (.str id) = true := by
  unfold asked
  by_cases made : engine.ownership.isCancelRequested (.str id) = true
  · rw [if_pos made]
    exact made
  · rw [if_neg made]
    exact Value.isAmong_iff.mpr ⟨.str id, by simp, Value.same_str_self id⟩

/-- A run that leaves withdraws at most the requests under its own claim. -/
theorem leave_requested {run : Run η} {id : String}
    (made : engine.ownership.isCancelRequested (.str id) = true)
    (active : (engine.leave run).ownership.isActive (.str id) = true) :
    (engine.leave run).ownership.isCancelRequested (.str id) = true := by
  cases run with
  | finished result => exact made
  | _ => exact Ownership.isCancelRequested_release made active

theorem entering_requestedId {work : Work} {id : Value} :
    (engine.entering work).2.ownership.isCancelRequested id =
      engine.ownership.isCancelRequested id := by
  unfold Ownership.isCancelRequested
  rw [entering_requested]

/-- A call that starts, or is refused, leaves the requests of other calls standing. -/
theorem startExecution_requested {workflowId input : Value} {id : String}
    (made : engine.ownership.isCancelRequested (.str id) = true)
    (active : (engine.start (startExecution workflowId input)).2.ownership.isActive (.str id) =
      true) :
    (engine.start (startExecution workflowId input)).2.ownership.isCancelRequested (.str id) =
      true := by
  obtain ⟨f, issued, refused⟩ | ⟨-, -, ⟨f, refused⟩ | begun⟩ :=
    startExecution_cases workflowId input engine
  · rw [refused]
    exact made
  · rw [refused] at active ⊢
    exact Ownership.isCancelRequested_release made active
  · obtain ⟨workflow, given, lock, ownership, -, -, locked, begun⟩ := begun
    rw [begun, entering_requestedId]
    unfold Ownership.isCancelRequested at made ⊢
    dsimp only
    rw [Ownership.lockOf_requested locked]
    exact made

theorem startResumption_requested {id : String} {other : Value}
    (made : engine.ownership.isCancelRequested (.str id) = true) :
    (engine.start (startResumption other)).2.ownership.isCancelRequested (.str id) = true := by
  obtain ⟨f, refused⟩ | ⟨-, -, begun⟩ := startResumption_cases other engine
  · rw [refused]
    exact made
  · rw [begun]
    exact made

end Engine

variable {η : Type}

/-- A turn that advances withdraws a request only by leaving. -/
theorem Advances.requested {found left : Engine η} {heard : Outcome} {run next : Run η}
    {id : String} (advances : Advances found heard run next left)
    (made : found.ownership.isCancelRequested (.str id) = true)
    (active : left.ownership.isActive (.str id) = true) :
    left.ownership.isCancelRequested (.str id) = true := by
  cases advances with
  | opens saved goes =>
    rw [saved.ownership]
    exact made
  | records saved meant goes =>
    rw [saved.ownership]
    exact made
  | closes saved =>
    refine Engine.leave_requested ?_ active
    rw [saved.ownership]
    exact made
  | _ => exact made

/-- A turn leaves every request standing whose id is claimed after it. -/
theorem Turn.requested {turn : Turn η} {id : String} (own : turn.run.IsOwn)
    (made : turn.found.ownership.isCancelRequested (.str id) = true)
    (active : turn.after.2.ownership.isActive (.str id) = true) :
    turn.after.2.ownership.isCancelRequested (.str id) = true := by
  obtain ⟨claimed, loading⟩ | sound := own.sound
  · have loads := turn.after_loads loading
    generalize turn.after = place at loads active ⊢
    cases loads with
    | refused alike => exact Ownership.isCancelRequested_release made active
    | taken alike loaded running registered locked =>
      rw [Engine.entering_requestedId]
      unfold Ownership.isCancelRequested at made ⊢
      dsimp only
      rw [Ownership.lockOf_requested locked]
      exact made
  · obtain ⟨f, left, breaks, broken⟩ | advances := turn.advances_or_breaksOff sound
    · rw [broken] at active ⊢
      refine Engine.leave_requested ?_ active
      rw [breaks.ownership]
      exact made
    · exact advances.requested made active

namespace System

variable {system next final : System η} {place : Nat} {run : Run η} {id : String}

/-- Every step leaves a request standing whose id is claimed after it. -/
theorem Step.requested (step : Step system next) (orderly : system.IsOrderly)
    (made : system.engine.ownership.isCancelRequested (.str id) = true)
    (active : next.engine.ownership.isActive (.str id) = true) :
    next.engine.ownership.isCancelRequested (.str id) = true := by
  cases step with
  | executed runs engine workflowId input => exact Engine.startExecution_requested made active
  | resumed runs engine other => exact Engine.startResumption_requested made
  | turned before later turn faithful =>
    exact Turn.requested (orderly.own turn.run (by simp)) made active
  | canceled runs engine other => exact Ownership.isCancelRequested_requestCancel made other
  | abandoned before later run engine f onward => exact Engine.leave_requested made active
  | elsewhere runs engine changed unowned =>
    dsimp only
    rw [unowned]
    exact made

/-! ## One run among others -/

/-- What a step of the system is for one of its runs: the run stays where it is, it is given up, or
it has its turn. -/
inductive MovesTo (system next : System η) (run : Run η) : Run η → Prop where
  | stays : MovesTo system next run run
  | ends (f : Fault) : MovesTo system next run (.finished (.error f))
  | turns (turn : Turn η) (stands : turn.run = run) (found : turn.found = system.engine)
    (faithful : turn.IsFaithful) (left : next.engine = turn.after.2) :
    MovesTo system next run turn.after.1

/-- What is beside a member of a list does not change with it. -/
theorem getElem?_beside {α : Type} (before later : List α) (one other : α) {place : Nat}
    (beside : place ≠ before.length) :
    (before ++ one :: later)[place]? = (before ++ other :: later)[place]? := by
  obtain earlier | here | behind := Nat.lt_trichotomy place before.length
  · rw [List.getElem?_append_left earlier, List.getElem?_append_left earlier]
  · exact absurd here beside
  · obtain ⟨distance, rfl⟩ := Nat.exists_eq_add_of_lt behind
    rw [List.getElem?_append_right (by omega), List.getElem?_append_right (by omega),
      Nat.add_assoc, Nat.add_sub_cancel_left, List.getElem?_cons_succ, List.getElem?_cons_succ]

/-- A run keeps its place among the runs of the system. -/
theorem Step.movesTo (step : Step system next) (stands : system.runs[place]? = some run) :
    ∃ later, next.runs[place]? = some later ∧ MovesTo system next run later := by
  have inside : place < system.runs.length := (List.getElem?_eq_some_iff.mp stands).1
  cases step with
  | executed runs engine workflowId input =>
    exact ⟨run, by rw [List.getElem?_append_left inside]; exact stands, .stays⟩
  | resumed runs engine other =>
    exact ⟨run, by rw [List.getElem?_append_left inside]; exact stands, .stays⟩
  | turned before later turn faithful =>
    by_cases here : place = before.length
    · subst here
      have same : turn.run = run := by simpa using stands
      exact ⟨_, by simp, .turns turn same rfl faithful rfl⟩
    · exact ⟨run, by rw [← getElem?_beside before later turn.run _ here]; exact stands, .stays⟩
  | canceled runs engine other => exact ⟨run, stands, .stays⟩
  | abandoned before later given engine f onward =>
    by_cases here : place = before.length
    · subst here
      exact ⟨_, by simp, .ends f⟩
    · exact ⟨run, by rw [← getElem?_beside before later given _ here]; exact stands, .stays⟩
  | elsewhere runs engine changed unowned => exact ⟨run, stands, .stays⟩

end System

end Stepwise
