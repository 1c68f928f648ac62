import Mathlib.Data.List.Destutter
import Stepwise.Execution.Basic
import Stepwise.Proofs.Effect
import Stepwise.Proofs.Fault.Text
import Stepwise.Proofs.Value.Table

/-!
# The life of an execution

Three calls change an execution: moving on to a status, recording a result and binding an output.
They work on it in place, one assignment after the other, so it has to be shown that a refused call
assigned nothing: every call looks before it assigns, and then comes to what the function on
executions gives. From call to call the status moves on by one stage at most, and the execution has
a time at which it finished as long as its status is terminal. The end closes it to further results
and statuses, but not to further outputs.
-/

namespace Stepwise

namespace Status

/-- How far a status is from the start: every terminal one is two stages away. -/
def stage : Status → Nat
  | pending => 0
  | running => 1
  | succeeded | failed | partialSuccess | canceled => 2

variable {status next : Status}

theorem isTerminal_iff : status.isTerminal = true ↔ status.stage = 2 := by
  cases status <;> decide

/-- The statuses from one on, up to a last one that is terminal. -/
def onward : Status → Status → List Status
  | pending, last => [pending, running, last]
  | running, last => [running, last]
  | status, _ => [status]

theorem stage_le (status : Status) : status.stage ≤ 2 := by
  cases status <;> decide

/-- A status in front of what follows the next one. -/
theorem onward_of_next (allowed : next.stage = status.stage + 1) {last : Status}
    (terminal : last.isTerminal = true) :
    ∃ final, final.isTerminal = true ∧ status.onward final = status :: next.onward last := by
  cases status with
  | pending =>
    cases next with
    | running => exact ⟨last, terminal, rfl⟩
    | _ => cases allowed
  | running =>
    cases next with
    | pending | running => cases allowed
    | _ => exact ⟨_, rfl, rfl⟩
  | _ => exact absurd (stage_le next) (by rw [allowed]; decide)

/-- A status may be followed by those of the next stage. -/
theorem mayBecome_iff : status.mayBecome next = true ↔ next.stage = status.stage + 1 := by
  cases status <;> cases next <;> decide

end Status

/-- A call that changes an execution. -/
inductive Change where
  | transition (next : Status) (now : Moment)
  | addResult (result : StepResult)
  | bindOutput (name output : Value)

namespace Change

/-- The call on an execution in place. -/
def make : Change → Effect Execution Unit
  | transition next now => do
    let execution ← get
    if execution.status.mayBecome next then
      set { execution with status := next }
      if next.isTerminal then modify fun moved => { moved with finishedAt := some now }
    else
      let id ← lift execution.id.text
      throw (.stateOf
        s!"Execution {id}: illegal transition {execution.status.name} -> {next.name}")
  | addResult result => do
    let execution ← get
    if execution.isTerminal then
      let id ← lift execution.id.text
      let step ← lift result.stepId.text
      throw (.stateOf
        s!"Execution {id} is {execution.status.name}; cannot record step '{step}'")
    else set { execution with results := execution.results ++ [result] }
  | bindOutput name output => do
    let execution ← get
    let outputs ← lift (execution.outputs.assign name output)
    set { execution with outputs }

/-- What the function on executions gives for a call. -/
def outcome : Change → Execution → Except Fault Execution
  | transition next now, execution => execution.transition next now
  | addResult result, execution => execution.addResult result
  | bindOutput name output, execution => execution.bindOutput name output

/-- A call in place comes to the outcome, and to nothing when that is refused. -/
theorem runOn_make (change : Change) (execution : Execution) :
    change.make.runOn execution =
      match change.outcome execution with
      | .ok changed => (.ok (), changed)
      | .error f => (.error f, execution) := by
  cases change with
  | transition next now =>
    simp only [make, outcome, Execution.transition, Effect.runOn_get_bind]
    split
    · rw [Effect.runOn_set_bind]
      split
      · rfl
      · rfl
    · rw [Effect.runOn_lift_bind]
      cases execution.id.text <;> rfl
  | addResult result =>
    simp only [make, outcome, Execution.addResult, Effect.runOn_get_bind]
    split
    · rw [Effect.runOn_lift_bind]
      cases execution.id.text with
      | error f => rfl
      | ok id =>
        dsimp only
        rw [Effect.runOn_lift_bind]
        cases result.stepId.text <;> rfl
    · rfl
  | bindOutput name output =>
    simp only [make, outcome, Execution.bindOutput, Effect.runOn_get_bind, Effect.runOn_lift_bind]
    cases execution.outputs.assign name output <;> rfl

/-- The execution that a call leaves. -/
def left (change : Change) (execution : Execution) : Execution := (change.make.runOn execution).2

end Change

namespace Execution

variable {execution : Execution} {name : String}

/-- The execution after one call and the other, whether they return or not. -/
def after (execution : Execution) (changes : List Change) : Execution :=
  changes.foldl (fun reached change => change.left reached) execution

/-- The statuses that an execution has from call to call, the first one included. -/
def statuses (execution : Execution) : List Change → List Status
  | [] => [execution.status]
  | change :: rest => execution.status :: (change.left execution).statuses rest

@[simp] theorem after_cons (change : Change) (rest : List Change) :
    execution.after (change :: rest) = (change.left execution).after rest := rfl

theorem after_append (first later : List Change) :
    execution.after (first ++ later) = (execution.after first).after later :=
  List.foldl_append

/-! ## Single calls -/

/-- An execution with a name for its id moves on to a status of the next stage, and to no other. -/
theorem runOn_transition (named : execution.id = .str name) (next : Status) (now : Moment) :
    (Change.transition next now).make.runOn execution =
      if next.stage = execution.status.stage + 1 then
        (.ok (), { execution with
          status := next
          finishedAt := if next.isTerminal then some now else execution.finishedAt })
      else
        (.error (.stateOf
          s!"Execution {name}: illegal transition {execution.status.name} -> {next.name}"),
          execution) := by
  rw [Change.runOn_make, Change.outcome, transition]
  by_cases allowed : next.stage = execution.status.stage + 1
  · rw [if_pos (Status.mayBecome_iff.mpr allowed), if_pos allowed]
  · rw [if_neg (mt Status.mayBecome_iff.mp allowed), if_neg allowed, named]
    rfl

/-- A result is added unless the execution is over. If it is, the refusal names the step, so that it
takes the text of the step's id. -/
theorem runOn_addResult (named : execution.id = .str name) (result : StepResult) :
    (Change.addResult result).make.runOn execution =
      if execution.isTerminal then
        (.error (match result.stepId.text with
          | .ok step => .stateOf
            s!"Execution {name} is {execution.status.name}; cannot record step '{step}'"
          | .error f => f), execution)
      else (.ok (), { execution with results := execution.results ++ [result] }) := by
  rw [Change.runOn_make, Change.outcome, addResult]
  by_cases ended : execution.isTerminal = true
  · rw [if_pos ended, if_pos ended, named]
    cases result.stepId.text <;> rfl
  · rw [if_neg ended, if_neg ended]

/-- Outputs that are a map take every name that can be a key. -/
theorem runOn_bindOutput {entries : List (Value × Value)}
    (mapped : execution.outputs = .map entries) (key output : Value) :
    (Change.bindOutput key output).make.runOn execution =
      match key.hashable with
      | .ok _ =>
        (.ok (), { execution with outputs := .map (Table.insert key output entries) })
      | .error f => (.error f, execution) := by
  rw [Change.runOn_make, Change.outcome, bindOutput, mapped]
  cases possible : key.hashable with
  | error f => simp only [Value.assign, possible, bind, Except.bind]
  | ok _ => simp only [Value.assign, possible, bind, Except.bind, pure, Except.pure]

/-- A call that is refused has changed nothing. -/
theorem left_of_error {change : Change} {reached : Execution} {f : Fault}
    (refused : change.make.runOn execution = (.error f, reached)) : reached = execution := by
  rw [Change.runOn_make] at refused
  split at refused
  · cases refused
  · exact (Prod.mk.inj refused).2.symm

/-! ## What every call keeps -/

/-- The record of an execution in order: it goes by a name, its outputs are a map, and it has the
time at which it finished when it is over. -/
structure IsInOrder (execution : Execution) : Prop where
  named : ∃ name, execution.id = .str name
  mapped : ∃ entries, execution.outputs = .map entries
  finished : execution.finishedAt.isSome = execution.isTerminal

/-- A new execution is in order and has not begun. -/
theorem inOrder_of_create {workflow input : Value} {now : Moment}
    (made : create (.str name) workflow input now = .ok execution) :
    execution.IsInOrder ∧ execution.status = .pending := by
  unfold create at made
  split at made
  all_goals
    obtain ⟨given, -, made⟩ := Result.bind_ok made
    obtain rfl := Except.ok.inj made
    exact ⟨⟨⟨name, rfl⟩, ⟨[], rfl⟩, rfl⟩, rfl⟩

/-- What a call leaves is the same execution at the same or the next stage. -/
structure Leads (execution reached : Execution) : Prop where
  id : reached.id = execution.id
  inOrder : reached.IsInOrder
  moves : reached.status = execution.status ∨
    reached.status.stage = execution.status.stage + 1
  finishedAt : execution.isTerminal = true → reached.finishedAt = execution.finishedAt

theorem Leads.refl (inOrder : execution.IsInOrder) : execution.Leads execution :=
  ⟨rfl, inOrder, .inl rfl, fun _ => rfl⟩

/-- Every call leads from an execution in order to one in order. -/
theorem leads_left (inOrder : execution.IsInOrder) (change : Change) :
    execution.Leads (change.left execution) := by
  obtain ⟨⟨name, named⟩, ⟨entries, mapped⟩, finished⟩ := inOrder
  have unchanged := Leads.refl ⟨⟨name, named⟩, ⟨entries, mapped⟩, finished⟩
  unfold Change.left
  cases change with
  | transition next now =>
    rw [runOn_transition named]
    split
    · rename_i allowed
      have alive : execution.isTerminal = false := by
        have last := Status.stage_le next
        rw [Bool.eq_false_iff, isTerminal, ne_eq, Status.isTerminal_iff]
        omega
      refine ⟨rfl, ⟨⟨name, named⟩, ⟨entries, mapped⟩, ?_⟩, .inr allowed, fun ended => ?_⟩
      · change (if next.isTerminal then some now else execution.finishedAt).isSome = next.isTerminal
        cases next.isTerminal
        · rw [if_neg (by decide), finished, alive]
        · rfl
      · rw [alive] at ended
        cases ended
    · exact unchanged
  | addResult result =>
    rw [runOn_addResult named]
    split
    · exact unchanged
    · exact ⟨rfl, ⟨⟨name, named⟩, ⟨entries, mapped⟩, finished⟩, .inl rfl, fun _ => rfl⟩
  | bindOutput key output =>
    rw [runOn_bindOutput mapped]
    split
    · exact ⟨rfl, ⟨⟨name, named⟩, ⟨_, rfl⟩, finished⟩, .inl rfl, fun _ => rfl⟩
    · exact unchanged

/-- So an execution in order stays in order, whatever calls are made. -/
theorem IsInOrder.after (inOrder : execution.IsInOrder) (changes : List Change) :
    (execution.after changes).IsInOrder := by
  induction changes generalizing execution with
  | nil => exact inOrder
  | cons change rest inductionHypothesis =>
    exact inductionHypothesis (leads_left inOrder change).inOrder

/-! ## The whole life -/

theorem statuses_eq_cons (execution : Execution) (changes : List Change) :
    ∃ later, execution.statuses changes = execution.status :: later := by
  cases changes with
  | nil => exact ⟨[], rfl⟩
  | cons change rest => exact ⟨_, rfl⟩

/-- Without repetitions the statuses of an execution are the first of those from its status on. -/
theorem IsInOrder.destutter_statuses (inOrder : execution.IsInOrder) (changes : List Change) :
    ∃ last, last.isTerminal = true ∧
      (execution.statuses changes).destutter (· ≠ ·) <+: execution.status.onward last := by
  -- The induction is on the calls; the last status is the one that the rest of them comes to.
  induction changes generalizing execution with
  | nil =>
    refine ⟨.failed, rfl, ?_⟩
    rw [Execution.statuses, List.destutter_singleton]
    cases execution.status <;> exact ⟨_, rfl⟩
  | cons change rest inductionHypothesis =>
    have leads := leads_left inOrder change
    obtain ⟨last, terminal, whole⟩ := inductionHypothesis leads.inOrder
    obtain ⟨later, begins⟩ := statuses_eq_cons (change.left execution) rest
    rw [begins] at whole
    rw [Execution.statuses, begins]
    rcases leads.moves with same | next
    · rw [same, List.destutter_cons'] at whole
      rw [same, List.destutter_cons', List.destutter'_cons_neg _ (by simp)]
      exact ⟨last, terminal, whole⟩
    · have apart : execution.status ≠ (change.left execution).status := by
        intro same
        rw [same] at next
        omega
      obtain ⟨final, terminal', onward⟩ := Status.onward_of_next next terminal
      refine ⟨final, terminal', ?_⟩
      rw [List.destutter_cons', List.destutter'_cons_pos _ apart, onward, ← List.destutter_cons']
      exact List.prefix_cons_inj _ |>.mpr whole

/-- The rules that calls on an execution keep to. -/
structure ObeysRules (execution : Execution) : Prop where
  /-- It moves on to every status of the next stage, and has finished when that is terminal. -/
  moves : ∀ next now, next.stage = execution.status.stage + 1 →
    (Change.transition next now).make.runOn execution = (.ok (), { execution with
      status := next
      finishedAt := if next.isTerminal then some now else execution.finishedAt })
  /-- It is refused another status, and only then. -/
  stays : ∀ next now, (∃ message, ((Change.transition next now).make.runOn execution).1 =
    .error (.stateOf message)) ↔ next.stage ≠ execution.status.stage + 1
  /-- It is given any result while it is not over. -/
  records : ∀ result, execution.isTerminal = false →
    (Change.addResult result).make.runOn execution =
      (.ok (), { execution with results := execution.results ++ [result] })
  /-- It is refused a result when it is over, and only then. -/
  closed : ∀ result, (∃ f, ((Change.addResult result).make.runOn execution).1 = .error f) ↔
    execution.isTerminal = true
  /-- The refusal is one for its status, provided that it can tell the step. -/
  told : ∀ result, (∃ message, ((Change.addResult result).make.runOn execution).1 =
    .error (.stateOf message)) ↔
      execution.isTerminal = true ∧ ∃ step, result.stepId.text = .ok step
  /-- Whatever is refused leaves it as it was. -/
  refused : ∀ (change : Change) f reached,
    change.make.runOn execution = (.error f, reached) → reached = execution
  /-- Its results are only ever added to. -/
  extended : ∀ change : Change, (change.left execution).results = execution.results ∨
    ∃ result, change = .addResult result ∧
      (change.left execution).results = execution.results ++ [result]
  /-- It has finished when it is over. -/
  finished : execution.finishedAt.isSome = execution.isTerminal
  /-- The time at which it finished stays. -/
  lasting : ∀ time later, execution.finishedAt = some time →
    (execution.after later).finishedAt = some time

/-- The time at which an execution finished is not changed by any calls. -/
theorem IsInOrder.finishedAt_after (inOrder : execution.IsInOrder) {time : Moment}
    (finished : execution.finishedAt = some time) (later : List Change) :
    (execution.after later).finishedAt = some time := by
  induction later generalizing execution with
  | nil => exact finished
  | cons change rest inductionHypothesis =>
    have leads := leads_left inOrder change
    have ended : execution.isTerminal = true := by
      rw [← inOrder.finished, finished]
      rfl
    exact inductionHypothesis leads.inOrder ((leads.finishedAt ended).trans finished)

theorem IsInOrder.results_left (inOrder : execution.IsInOrder) (change : Change) :
    (change.left execution).results = execution.results ∨ ∃ result, change = .addResult result ∧
      (change.left execution).results = execution.results ++ [result] := by
  obtain ⟨⟨name, named⟩, ⟨entries, mapped⟩, -⟩ := inOrder
  unfold Change.left
  cases change with
  | transition next now =>
    rw [runOn_transition named]
    split <;> exact .inl rfl
  | addResult result =>
    rw [runOn_addResult named]
    split
    · exact .inl rfl
    · exact .inr ⟨result, rfl, rfl⟩
  | bindOutput key output =>
    rw [runOn_bindOutput mapped]
    split <;> exact .inl rfl

/-- An execution in order obeys the rules. -/
theorem IsInOrder.obeysRules (inOrder : execution.IsInOrder) : execution.ObeysRules := by
  obtain ⟨name, named⟩ := inOrder.named
  refine ⟨fun next now allowed => ?_, fun next now => ?_, fun result alive => ?_, fun result => ?_,
    fun result => ?_, fun change f reached => left_of_error, inOrder.results_left,
    inOrder.finished, fun time later finished => inOrder.finishedAt_after finished later⟩
  · rw [runOn_transition named, if_pos allowed]
  · rw [runOn_transition named]
    split
    · rename_i allowed
      simp [allowed]
    · rename_i other
      exact iff_of_true ⟨_, rfl⟩ other
  · rw [runOn_addResult named, alive]
    rfl
  · rw [runOn_addResult named]
    split
    · rename_i ended
      exact iff_of_true ⟨_, rfl⟩ ended
    · rename_i alive
      simp [alive]
  · rw [runOn_addResult named]
    split
    · rename_i ended
      cases step : result.stepId.text with
      | ok text => exact iff_of_true ⟨_, rfl⟩ ⟨ended, text, rfl⟩
      | error f =>
        -- What is met in forming a text is a fault of the machinery.
        obtain ⟨kind, message, rfl⟩ := Value.text_error step
        simp [Fault.machinery, Fault.stateOf]
    · rename_i alive
      simp [alive]

/-- An execution that was created goes through its statuses in order, without leaving one out or
coming back, and obeys the rules after any calls. -/
theorem created_lives_in_order {workflow input : Value} {now : Moment}
    (made : create (.str name) workflow input now = .ok execution) :
    (∀ changes, ∃ last, last.isTerminal = true ∧
      (execution.statuses changes).destutter (· ≠ ·) <+: [.pending, .running, last]) ∧
    ∀ changes, (execution.after changes).ObeysRules := by
  obtain ⟨inOrder, pending⟩ := inOrder_of_create made
  refine ⟨fun changes => ?_, fun changes => (inOrder.after changes).obeysRules⟩
  have whole := inOrder.destutter_statuses changes
  rw [pending] at whole
  exact whole

namespace Sample

def noon : Moment := ⟨⟨2024, 1, 1⟩, 12, 0, 0, 0, some 0⟩

/-- An execution that has not begun. -/
def fresh : Execution where
  id := .str "a-1"
  workflow := .str "letters"
  status := .pending
  input := .map []
  outputs := .map []
  results := []
  startedAt := some noon
  finishedAt := none
  error := .null

/-- The calls that bring it to its end. -/
def ending : List Change := [.transition .running noon, .transition .succeeded noon]

/-- A result of a step whose id cannot be shown. -/
def nameless : StepResult := .skip (.faulty ⟨.host 0, 0⟩ "no text") noon noon

end Sample

theorem fresh_lives_in_order :
    create (.str "a-1") (.str "letters") .null Sample.noon = .ok Sample.fresh ∧
      (∃ last, last.isTerminal = true ∧
        (Sample.fresh.statuses Sample.ending).destutter (· ≠ ·) <+: [.pending, .running, last]) ∧
      (Sample.fresh.after Sample.ending).ObeysRules := by
  have made : create (.str "a-1") (.str "letters") .null Sample.noon = .ok Sample.fresh := rfl
  obtain ⟨statuses, rules⟩ := created_lives_in_order made
  exact ⟨made, statuses Sample.ending, rules Sample.ending⟩

/-- A result is refused at the end, but not for the status, when the id of its step has no text. -/
theorem nameless_step_refused_otherwise :
    create (.str "a-1") (.str "letters") .null Sample.noon = .ok Sample.fresh ∧
      (Sample.fresh.after Sample.ending).isTerminal = true ∧
      ¬ ∃ message, ((Change.addResult Sample.nameless).make.runOn
        (Sample.fresh.after Sample.ending)).1 = .error (.stateOf message) := by
  refine ⟨rfl, rfl, ?_⟩
  rintro ⟨message, refused⟩
  cases refused

end Execution

/-! ## After the end -/

/-- What a call binds: an output under a name that can be a key. -/
def Change.binding? : Change → Option (Value × Value)
  | bindOutput name output => if name.hashable.isOk then some (name, output) else none
  | _ => none

namespace Execution

variable {execution : Execution} {name : String}

/-- A call on an execution that is over changes its outputs at most, and those by binding. -/
theorem left_of_terminal (inOrder : execution.IsInOrder) (ended : execution.isTerminal = true)
    {entries : List (Value × Value)} (mapped : execution.outputs = .map entries)
    (change : Change) :
    change.left execution = { execution with
      outputs := .map (Table.insertAll entries change.binding?.toList) } := by
  obtain ⟨name, named⟩ := inOrder.named
  have unchanged : execution = { execution with outputs := .map entries } := by rw [← mapped]
  unfold Change.left
  cases change with
  | transition next now =>
    have refused : ¬ next.stage = execution.status.stage + 1 := by
      have last := Status.stage_le next
      rw [Status.isTerminal_iff.mp ended]
      omega
    rw [runOn_transition named, if_neg refused]
    exact unchanged
  | addResult result =>
    rw [runOn_addResult named, if_pos ended]
    exact unchanged
  | bindOutput key output =>
    rw [runOn_bindOutput mapped, Change.binding?]
    cases key.hashable with
    | ok _ => rfl
    | error f => exact unchanged

/-- What is left of an execution that is over is told by what is bound afterwards. -/
theorem after_of_terminal (inOrder : execution.IsInOrder) (ended : execution.isTerminal = true)
    {entries : List (Value × Value)} (mapped : execution.outputs = .map entries)
    (later : List Change) :
    execution.after later = { execution with
      outputs := .map (Table.insertAll entries (later.filterMap Change.binding?)) } := by
  induction later generalizing execution entries with
  | nil =>
    change execution = { execution with outputs := .map entries }
    rw [← mapped]
  | cons change rest inductionHypothesis =>
    have one := left_of_terminal inOrder ended mapped change
    have inOrder' := (leads_left inOrder change).inOrder
    rw [after_cons]
    rw [one] at inOrder' ⊢
    rw [inductionHypothesis inOrder' ended rfl, List.filterMap_cons]
    cases change.binding? <;> rfl

/-- An execution that is over keeps everything but its outputs, whatever calls are made on it: each
call that binds an output under a key still takes effect, and no other does. So it stays as it is
when none binds. -/
theorem over_but_for_outputs {workflow input : Value} {now : Moment}
    (made : create (.str name) workflow input now = .ok execution) (changes : List Change)
    (ended : (execution.after changes).isTerminal = true) :
    ∃ entries, (execution.after changes).outputs = .map entries ∧ ∀ later,
      execution.after (changes ++ later) = { execution.after changes with
        outputs := .map (Table.insertAll entries (later.filterMap Change.binding?)) } ∧
      ((∀ change ∈ later, change.binding? = none) →
        execution.after (changes ++ later) = execution.after changes) := by
  have inOrder := (inOrder_of_create made).1.after changes
  obtain ⟨entries, mapped⟩ := inOrder.mapped
  refine ⟨entries, mapped, fun later => ?_⟩
  have whole := after_of_terminal inOrder ended mapped later
  rw [after_append]
  refine ⟨whole, fun unbound => ?_⟩
  rw [whole, List.filterMap_eq_nil_iff.mpr unbound]
  change { execution.after changes with outputs := .map entries } = _
  rw [← mapped]

theorem fresh_over_but_for_outputs :
    create (.str "a-1") (.str "letters") .null Sample.noon = .ok Sample.fresh ∧
      (Sample.fresh.after Sample.ending).isTerminal = true ∧
      Sample.fresh.after (Sample.ending ++ [.transition .failed Sample.noon]) =
        Sample.fresh.after Sample.ending ∧
      Sample.fresh.after (Sample.ending ++ [.transition .failed Sample.noon,
          .bindOutput (.str "late") (.int 1), .bindOutput (.list []) .null]) =
        { Sample.fresh.after Sample.ending with outputs := .map [(.str "late", .int 1)] } := by
  have made : create (.str "a-1") (.str "letters") .null Sample.noon = .ok Sample.fresh := rfl
  obtain ⟨entries, mapped, kept⟩ := over_but_for_outputs made Sample.ending rfl
  obtain rfl : [] = entries := Value.map.inj mapped
  exact ⟨made, rfl, (kept [_]).2 (by simp [Change.binding?]), (kept [_, _, _]).1⟩

/-- An output that is bound when the execution is over changes its outputs. -/
theorem output_bound_when_over :
    create (.str "a-1") (.str "letters") .null Sample.noon = .ok Sample.fresh ∧
      (Sample.fresh.after Sample.ending).isTerminal = true ∧
      (Sample.fresh.after Sample.ending).outputs = .map [] ∧
      (Sample.fresh.after (Sample.ending ++ [.bindOutput (.str "late") (.int 1)])).outputs =
        .map [(.str "late", .int 1)] :=
  ⟨rfl, rfl, rfl, rfl⟩

end Execution

end Stepwise
