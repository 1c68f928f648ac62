import Stepwise.Proofs.Definition.Accepted
import Stepwise.Proofs.Engine.Turn
import Stepwise.Proofs.Template.Fault

/-!
# Faults that escape

What goes wrong in a step belongs on its result. A fault escapes from a run all the same when it is
met where nothing is recorded: in a guard that is neither refused nor refers to something missing,
in the announcement of a step, in the message of an expired limit, in binding an output, and in the
copy of the record for a snapshot. Each of these depends on values that validation accepts or that
handlers return, so all of them can come about. They are listed here case by case, for the turn in
which they are met, and a turn whose store keeps what it is given meets a fault in these cases and
in no others.
-/

namespace Stepwise

namespace Step

/-- The guard of a step, if it has one, holds. -/
def IsLetThrough (step : Step) (outputs input : Value) : Prop :=
  step.condition.isNull = true ∨ Condition.evaluate step.condition outputs input = .ok true

/-- Something about a step has no text, and its outset cannot do without: a value that its guard
refers to, its id, or, when it is to be dispatched, its agent or its action. -/
inductive IsUntold (step : Step) (outputs input : Value) : Prop where
  | guard {f : Fault} (guarded : step.condition.isNull = false)
    (met : Condition.evaluate step.condition outputs input = .error f)
    (other : f.isCondition = false)
  | name {f : Fault} (met : step.id.text = .error f)
  | address {resolved : Value} {f : Fault} (lets : step.IsLetThrough outputs input)
    (resolves : Template.resolve outputs input step.input = .ok resolved)
    (met : step.agent.text = .error f ∨ step.action.text = .error f)

variable {step : Step} {outputs input : Value}

/-- Without a text for its id a step has no outset. -/
theorem outset_error_of_name (outputs input : Value) {f : Fault}
    (met : step.id.text = .error f) : ∃ g, step.outset outputs input = .error g := by
  have prepared : ∃ g, step.preparation outputs input = .error g := by
    unfold preparation
    cases Template.resolve outputs input step.input <;> exact ⟨f, by simp [met, bind, Except.bind]⟩
  have skipped (guard : Option Fault) : ∃ g, step.skipping guard = .error g := by
    cases guard <;> exact ⟨f, by simp [skipping, met, bind, Except.bind]⟩
  unfold outset
  split
  · exact prepared
  · split
    · exact prepared
    · exact skipped none
    · split
      · exact skipped _
      · exact ⟨_, rfl⟩

theorem outset_of_isLetThrough (lets : step.IsLetThrough outputs input) :
    step.outset outputs input = step.preparation outputs input := by
  unfold outset
  split
  · rfl
  · rename_i guarded
    rw [lets.resolve_left guarded]

/-- A fault in preparing a step is about its names, for a fault of its template has a text. -/
theorem isUntold_of_preparation {f : Fault} (lets : step.IsLetThrough outputs input)
    (met : step.preparation outputs input = .error f) : step.IsUntold outputs input := by
  unfold preparation at met
  cases resolves : Template.resolve outputs input step.input with
  | error g =>
    simp only [resolves] at met
    obtain untold | ⟨_, -, met⟩ := Result.bind_error met
    · exact .name untold
    obtain message | ⟨_, -, made⟩ := Result.bind_error met
    · obtain ⟨text, told⟩ := Template.resolve_hasText outputs input step.input g resolves
      simp [StepError.ofFault, told, bind, Except.bind, pure, Except.pure] at message
    · cases made
  | ok resolved =>
    simp only [resolves] at met
    obtain untold | ⟨_, -, met⟩ := Result.bind_error met
    · exact .name untold
    obtain untold | ⟨_, -, met⟩ := Result.bind_error met
    · exact .address lets resolves (.inl untold)
    obtain untold | ⟨_, -, made⟩ := Result.bind_error met
    · exact .address lets resolves (.inr untold)
    · cases made

/-- A guard that is a text can be shown, so a fault in skipping a step is about its id. -/
theorem isUntold_of_skipping {guard : Option Fault} {f : Fault}
    (shown : ∃ text, step.condition.shown = .ok text) (told : ∀ g, guard = some g → g.HasText)
    (met : step.skipping guard = .error f) : step.IsUntold outputs input := by
  cases guard with
  | none =>
    obtain untold | ⟨_, -, made⟩ := Result.bind_error met
    · exact .name untold
    · cases made
  | some g =>
    obtain untold | ⟨_, -, met⟩ := Result.bind_error met
    · exact .name untold
    obtain ⟨text, shown⟩ := shown
    obtain hidden | ⟨_, -, met⟩ := Result.bind_error met
    · rw [shown] at hidden
      cases hidden
    obtain message | ⟨_, -, made⟩ := Result.bind_error met
    · obtain ⟨said, told⟩ := told g rfl
      simp [StepError.ofFault, told, bind, Except.bind, pure, Except.pure] at message
    · cases made

/-- A step with a fit guard has no outset exactly when something about it cannot be told. -/
theorem outset_error_iff (fit : step.condition.isNull = true ∨ step.condition.isText = true) :
    (∃ f, step.outset outputs input = .error f) ↔ step.IsUntold outputs input := by
  constructor
  · rintro ⟨f, met⟩
    by_cases absent : step.condition.isNull = true
    · rw [outset_of_isLetThrough (.inl absent)] at met
      exact isUntold_of_preparation (.inl absent) met
    · have shown : ∃ text, step.condition.shown = .ok text := by
        have text : step.condition.isText = true := fit.resolve_left absent
        cases given : step.condition with
        | str source => exact ⟨_, rfl⟩
        | _ => simp [given, Value.isText] at text
      rw [outset, if_neg absent] at met
      cases evaluated : Condition.evaluate step.condition outputs input with
      | ok holds =>
        cases holds with
        | true =>
          simp only [evaluated] at met
          exact isUntold_of_preparation (.inr evaluated) met
        | false =>
          simp only [evaluated] at met
          exact isUntold_of_skipping shown (by simp) met
      | error g =>
        simp only [evaluated] at met
        by_cases condition : g.isCondition = true
        · rw [if_pos condition] at met
          refine isUntold_of_skipping shown ?_ met
          rintro _ ⟨⟩
          exact Condition.evaluate_hasText evaluated
        · exact .guard (by simpa using absent) evaluated (by simpa using condition)
  · rintro (@⟨f, guarded, met, other⟩ | ⟨met⟩ | ⟨lets, resolves, met⟩)
    · refine ⟨f, ?_⟩
      rw [outset, if_neg (by simp [guarded]), met]
      exact if_neg (by simp [other])
    · exact outset_error_of_name outputs input met
    · rw [outset_of_isLetThrough lets, preparation, resolves]
      simp only [bind, Except.bind]
      cases step.id.text with
      | error f => exact ⟨f, rfl⟩
      | ok id =>
        cases agent : step.agent.text with
        | error f => exact ⟨f, rfl⟩
        | ok _ =>
          rw [agent] at met
          obtain met | met := met
          · cases met
          · exact ⟨_, by simp only [met]; rfl⟩

end Step

/-! ## Turns that let a fault escape -/

variable {η : Type}

/-- The work begins a step when it goes on: nothing has halted it, and nobody has asked it to
stop. -/
def Work.Begins (work : Work) (engine : Engine η) (step : Step) : Prop :=
  (∃ later, work.remaining = step :: later) ∧ work.halted = false ∧
    engine.ownership.isCancelRequested work.execution.id = false

/-- The work cannot go on: it was asked to stop before a step without a name, or begins a step of
which something cannot be told. -/
def Work.IsBarred (work : Work) (engine : Engine η) : Prop :=
  ∃ step later, work.remaining = step :: later ∧ work.halted = false ∧
    (step.IsUntold work.execution.outputs work.execution.input ∧
        engine.ownership.isCancelRequested work.execution.id = false ∨
      (∃ f, step.id.text = .error f) ∧
        engine.ownership.isCancelRequested work.execution.id = true)

/-- Baulking is being barred, provided that the guards to come are fit. -/
theorem Engine.baulks_iff {engine : Engine η} {work : Work}
    (fit : ∀ step ∈ work.remaining, step.IsFit) :
    (∃ f, engine.Baulks work f) ↔ work.IsBarred engine := by
  constructor
  · rintro ⟨f, ⟨left, unhalted, asked, met⟩ | ⟨left, unhalted, unasked, met⟩⟩
    · exact ⟨_, _, left, unhalted, .inr ⟨⟨f, met⟩, asked⟩⟩
    · rename_i step later
      have guard := (fit step (left ▸ List.mem_cons_self)).guard
      exact ⟨_, _, left, unhalted, .inl ⟨(Step.outset_error_iff guard).mp ⟨f, met⟩, unasked⟩⟩
  · rintro ⟨step, later, left, unhalted, ⟨untold, unasked⟩ | ⟨⟨f, met⟩, asked⟩⟩
    · have guard := (fit step (left ▸ List.mem_cons_self)).guard
      obtain ⟨f, met⟩ := (Step.outset_error_iff guard).mpr untold
      exact ⟨f, .unbegun left unhalted unasked met⟩
    · exact ⟨f, .untold left unhalted asked met⟩

namespace Turn

/-- The work that a turn goes on with once the record is saved. -/
def ahead? (turn : Turn η) : Option Work :=
  match turn.run with
  | .opening work => some work.opened
  | .recording work step result => (Engine.settle work step result).toOption
  | _ => none

/-- The cases in which a turn lets a fault escape. A run cannot go on to its next step; an output
cannot be copied for the record; a step is past its limit, and the limit cannot be told; a step
binds its output to a name that is no key; or a handler raises the failure of an action that it
cannot tell. -/
inductive Escapes : Turn η → Prop where
  | barred {turn : Turn η} {work : Work} (ahead : turn.ahead? = some work)
    (bar : work.IsBarred turn.found) : Escapes turn
  | uncopied {work : Work} {step : Step} {result : StepResult} {found : Engine η}
    {heard : Outcome} (obstacle : result.output.obstacle? ≠ none) :
    Escapes ⟨.recording work step result, found, heard⟩
  | late {work : Work} {attempt : Attempt} {input : Value} {found : Engine η} {heard : Outcome}
    {f : Fault} (late : found.reach attempt = .late) (met : attempt.limit.text = .error f) :
    Escapes ⟨.dispatching work attempt input, found, heard⟩
  | expired {work : Work} {attempt : Attempt} {handler : η} {input : Value} {found : Engine η}
    {f : Fault} (met : attempt.limit.text = .error f) :
    Escapes ⟨.calling work attempt handler input, found, .expired⟩
  | unbound {work : Work} {attempt : Attempt} {handler : η} {input v : Value} {found : Engine η}
    {f : Fault} (bound : attempt.step.output.truthy = true)
    (met : attempt.step.output.hashable = .error f) :
    Escapes ⟨.calling work attempt handler input, found, .returned v⟩
  | untold {work : Work} {attempt : Attempt} {handler : η} {input agent action : Value}
    {reason : String} {wrapped cause : Option String} {found : Engine η} {f : Fault}
    (met : (Fault.actionFailed agent action reason wrapped cause).text = .error f) :
    Escapes ⟨.calling work attempt handler input, found,
      .raised (.actionFailed agent action reason wrapped cause)⟩

/-- What goes wrong with a step in a turn and can be recorded: its guard is refused or refers to
something missing, its input does not resolve, its dispatch misses, or its handler comes to no
value. -/
inductive Meets : Turn η → Step → Fault → Prop where
  | guard {turn : Turn η} {work : Work} {step : Step} {f : Fault}
    (ahead : turn.ahead? = some work) (begins : work.Begins turn.found step)
    (guarded : step.condition.isNull = false)
    (met : Condition.evaluate step.condition work.execution.outputs work.execution.input =
      .error f) (condition : f.isCondition = true) : Meets turn step f
  | template {turn : Turn η} {work : Work} {step : Step} {f : Fault}
    (ahead : turn.ahead? = some work) (begins : work.Begins turn.found step)
    (lets : step.IsLetThrough work.execution.outputs work.execution.input)
    (met : Template.resolve work.execution.outputs work.execution.input step.input = .error f) :
    Meets turn step f
  | dispatch {work : Work} {attempt : Attempt} {input : Value} {found : Engine η}
    {heard : Outcome} {f : Fault} (missed : attempt.Missed (found.reach attempt) (.ok f)) :
    Meets ⟨.dispatching work attempt input, found, heard⟩ attempt.step f
  | call {work : Work} {attempt : Attempt} {handler : η} {input : Value} {found : Engine η}
    {heard : Outcome} {f : Fault} (caused : attempt.FaultOf heard (.ok f)) :
    Meets ⟨.calling work attempt handler input, found, heard⟩ attempt.step f

/-- The store keeps the record that the turn saves, whenever it is given one. -/
def IsKept (turn : Turn η) : Prop :=
  ∀ work snapshot,
    turn.run = .opening work ∨ (∃ step result, turn.run = .recording work step result) ∨
      turn.run = .closing work →
    work.execution.snapshot = .ok snapshot →
    ∃ left, (Engine.callStore "save" (Engine.save snapshot)).runOn turn.found = (.ok (), left)

end Turn

end Stepwise
