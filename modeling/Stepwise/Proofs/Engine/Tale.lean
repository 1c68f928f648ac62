import Stepwise.Proofs.Definition.Accepted
import Stepwise.Proofs.Engine.Follow
import Stepwise.Proofs.Template.Identity

/-!
# The tale of a workflow

When handlers answer by their resolved input alone, what a workflow comes to is known from its
input. The tale says it step by step: the results of the first steps and the outputs that they have
bound, without a store, without a clock and without anybody who asks to stop. Since a store gives
copies away, a record can match the tale only but for how often its host objects were copied, and
nobody else's times are its own. The essence of a result leaves both out.

Neither matters for what comes next. A guard and a template come to the same on a copy of the
outputs, and an output is bound in the same place as long as no name is mistaken for another one
after copying. So a record that matches the tale so far and gets the result of its next step matches
it still, whatever course led there.
-/

namespace Stepwise

/-- What counts of a result when it is compared with one of another run: neither its times nor how
often its host objects were copied. -/
def StepResult.essence (result : StepResult) : StepResult where
  stepId := result.stepId.original
  status := result.status
  output := result.output.original
  error := result.error.map fun error => ⟨error.kind.original, error.message.original⟩
  startedAt := none
  finishedAt := none

theorem StepResult.essence_copied (result : StepResult) :
    result.copied.essence = result.essence := by
  cases error : result.error <;> simp [essence, copied, error]

theorem Value.map_of_original {v : Value} {entries : List (Value × Value)}
    (same : v.original = (map entries).original) : ∃ others, v = map others := by
  cases v with
  | map others => exact ⟨others, rfl⟩
  | _ => simp [original, relabel] at same

namespace Step

/-- The outset of a step does not depend on the identities of host objects. -/
theorem outset_relabel (change : Identity → Identity) (step : Step) (outputs input : Value) :
    step.outset (outputs.relabel change) (input.relabel change) = step.outset outputs input := by
  simp only [outset, preparation, Template.resolve_relabel, Condition.evaluate_relabel]

theorem outset_of_original {step : Step} {outputs others input given : Value}
    (same : outputs.original = others.original) (alike : input.original = given.original) :
    step.outset outputs input = step.outset others given := by
  have before := outset_relabel (fun identity => { identity with copies := 0 }) step outputs input
  have after := outset_relabel (fun identity => { identity with copies := 0 }) step others given
  rw [← before, ← after]
  unfold Value.original at same alike
  rw [same, alike]

/-- An output is bound in the same place on a copy of the outputs, provided that none of the names
there is mistaken for its own. -/
theorem bound_of_original {step : Step} {outputs : Value} {entries : List (Value × Value)}
    (same : outputs.original = (Value.map entries).original)
    (told : ∀ entry ∈ entries, entry.1.IsToldFrom step.output) (v : Value) :
    (step.bound outputs v).map Value.original =
      (step.bound (.map entries) v).map Value.original := by
  obtain ⟨others, rfl⟩ := Value.map_of_original same
  unfold bound
  split
  · rw [Value.assign, Value.assign]
    cases step.output.hashable with
    | error f => rfl
    | ok _ => exact congrArg Except.ok (Value.original_insert same rfl told)
  · exact congrArg Except.ok same

end Step

/-- A failure says the same whenever it is recorded. -/
theorem Attempt.failure_again {attempt other : Attempt} (same : attempt.step = other.step)
    {fault : Except Fault Fault} {now : Moment} {result : StepResult}
    (made : attempt.failure fault now = .ok result) (later : Moment) :
    ∃ own, other.failure fault later = .ok own ∧ result.essence = own.essence := by
  obtain ⟨f, error, rfl, stated, rfl⟩ := failure_ok made
  refine ⟨⟨other.step.id, .failed, .null, some error, some other.started, some later⟩, ?_, ?_⟩
  · simp only [failure, StepResult.failure, stated, bind, Except.bind, pure, Except.pure]
  · rw [same]
    rfl

/-- What an execution is about: a workflow and an input, the engine whose registries and limits
count, and what the handlers answer. -/
structure Scenario (η : Type) where
  engine : Engine η
  answer : η → Value → Outcome
  workflow : Workflow
  input : Value

namespace Scenario

variable {η : Type} (scenario : Scenario η)

/-- The input that a record begins with, but for copying. -/
def given : Value := if scenario.input.isNull then .map [] else scenario.input

/-- A step that comes to a fault has it for a result and binds nothing. -/
def failing (step : Step) (outputs : Value) (fault : Except Fault Fault) :
    Except Fault (Value × StepResult) :=
  ((scenario.engine.attemptAt step).failure fault scenario.engine.now).map
    fun result => (outputs, result)

/-- What a step that is sent to its handler comes to, on the outputs bound before it. -/
def reply (step : Step) (outputs resolved : Value) : Except Fault (Value × StepResult) :=
  match scenario.engine.reach (scenario.engine.attemptAt step) with
  | .refused f => scenario.failing step outputs (Engine.dispatchFault step f)
  | .late => scenario.failing step outputs (Engine.expiry (scenario.engine.attemptAt step))
  | .handler handler =>
    match scenario.answer handler resolved with
    | .expired => scenario.failing step outputs (Engine.expiry (scenario.engine.attemptAt step))
    | .raised f =>
      scenario.failing step outputs
        (Engine.dispatchFault step (Fault.ofHandler step.agent step.action f))
    | .returned v =>
      (step.bound outputs v).map fun bound =>
        (bound, .success step.id v scenario.engine.now scenario.engine.now)

/-- What a step comes to: the outputs bound after it, and its result. -/
def perform (step : Step) (outputs : Value) : Except Fault (Value × StepResult) := do
  match ← step.outset outputs scenario.given with
  | .settled status error =>
    return (outputs, scenario.engine.settledResult step status error)
  | .sent resolved => scenario.reply step outputs resolved

/-- The tale with one more step. -/
def extend (told : Value × List StepResult) (step : Step) :
    Except Fault (Value × List StepResult) :=
  (scenario.perform step told.1).map fun made => (made.1, told.2 ++ [made.2])

/-- The outputs bound by a number of first steps, and their results; or the fault that is nobody's
result. -/
def tale (count : Nat) : Except Fault (Value × List StepResult) :=
  (scenario.workflow.steps.take count).foldlM scenario.extend (.map [], [])

variable {scenario} {count : Nat} {told : Value × List StepResult}

/-- The tale goes on with what the next step comes to. -/
theorem tale_succ {step : Step} (next : scenario.workflow.steps[count]? = some step) :
    scenario.tale (count + 1) =
      scenario.tale count >>= fun told => scenario.extend told step := by
  rw [tale, List.take_add_one, next, Option.toList_some, List.foldlM_append]
  simp only [List.foldlM_cons, List.foldlM_nil, bind_pure]
  rfl

/-- What is told was told before it, but for its last step. -/
theorem tale_of_succ {step : Step} (next : scenario.workflow.steps[count]? = some step)
    (tells : scenario.tale (count + 1) = .ok told) :
    ∃ before made, scenario.tale count = .ok before ∧
      scenario.perform step before.1 = .ok made ∧ told = (made.1, before.2 ++ [made.2]) := by
  rw [tale_succ next] at tells
  obtain ⟨before, earlier, tells⟩ := Result.bind_ok tells
  obtain ⟨made, performed, rfl⟩ := Result.map_ok tells
  exact ⟨before, made, earlier, performed, rfl⟩

theorem tale_length (fits : count ≤ scenario.workflow.steps.length)
    (tells : scenario.tale count = .ok told) : told.2.length = count := by
  induction count generalizing told with
  | zero =>
    cases tells
    rfl
  | succ count inductionHypothesis =>
    have next := List.getElem?_eq_getElem (Nat.lt_of_succ_le fits)
    obtain ⟨before, made, earlier, -, rfl⟩ := tale_of_succ next tells
    have counted := inductionHypothesis (Nat.le_of_succ_le fits) earlier
    simp [counted]

/-- The tale of fewer steps is the first part of it. -/
theorem tale_take {less : Nat} (within : less ≤ count)
    (fits : count ≤ scenario.workflow.steps.length) (tells : scenario.tale count = .ok told) :
    ∃ before, scenario.tale less = .ok before ∧ before.2 = told.2.take less := by
  induction count generalizing told with
  | zero =>
    obtain rfl := Nat.le_zero.mp within
    cases tells
    exact ⟨_, rfl, rfl⟩
  | succ count inductionHypothesis =>
    obtain rfl | fewer := Nat.eq_or_lt_of_le within
    · exact ⟨told, tells, by rw [← tale_length fits tells, List.take_length]⟩
    · have next := List.getElem?_eq_getElem (Nat.lt_of_succ_le fits)
      obtain ⟨before, made, earlier, -, rfl⟩ := tale_of_succ next tells
      have inside := Nat.le_of_lt_succ fewer
      obtain ⟨first, begins, same⟩ :=
        inductionHypothesis inside (Nat.le_of_succ_le fits) earlier
      refine ⟨first, begins, ?_⟩
      have counted := tale_length (Nat.le_of_succ_le fits) earlier
      rw [same, List.take_append_of_le_length (by omega)]

/-- Every result of the tale is what its step comes to on the outputs told before it. -/
theorem tale_at {place : Nat} {step : Step} (inside : place < count)
    (fits : count ≤ scenario.workflow.steps.length) (tells : scenario.tale count = .ok told)
    (there : scenario.workflow.steps[place]? = some step) :
    ∃ before made, scenario.tale place = .ok before ∧ scenario.perform step before.1 = .ok made ∧
      told.2[place]? = some made.2 := by
  obtain ⟨upTo, tells', same⟩ := tale_take (Nat.succ_le_of_lt inside) fits tells
  obtain ⟨before, made, earlier, performed, rfl⟩ := tale_of_succ there tells'
  have counted := tale_length (Nat.le_trans (Nat.le_of_lt inside) fits) earlier
  have last : (told.2.take (place + 1))[place]? = some made.2 := by
    rw [← same]
    simp [← counted]
  rw [List.getElem?_take_of_lt (Nat.lt_succ_self place)] at last
  exact ⟨before, made, earlier, performed, last⟩

/-- A step leaves the outputs as they are or binds its own. -/
theorem perform_outputs {step : Step} {outputs : Value} {made : Value × StepResult}
    (performed : scenario.perform step outputs = .ok made) :
    made.1 = outputs ∨ ∃ v, step.bound outputs v = .ok made.1 := by
  obtain ⟨outset, -, performed⟩ := Result.bind_ok performed
  cases outset with
  | settled status error =>
    cases performed
    exact .inl rfl
  | sent resolved =>
    dsimp only at performed
    unfold reply failing at performed
    repeat' split at performed
    all_goals
      obtain ⟨_, bound, rfl⟩ := Result.map_ok performed
      first
        | exact .inl rfl
        | exact .inr ⟨_, bound⟩

theorem perform_stepId {step : Step} {outputs : Value} {made : Value × StepResult}
    (performed : scenario.perform step outputs = .ok made) : made.2.stepId = step.id := by
  obtain ⟨outset, -, performed⟩ := Result.bind_ok performed
  cases outset with
  | settled status error =>
    cases performed
    rfl
  | sent resolved =>
    have failing {fault : Except Fault Fault}
        (failed : scenario.failing step outputs fault = .ok made) : made.2.stepId = step.id := by
      obtain ⟨result, recorded, rfl⟩ := Result.map_ok failed
      obtain ⟨f, error, -, -, rfl⟩ := Attempt.failure_ok recorded
      rfl
    dsimp only [reply] at performed
    split at performed
    · exact failing performed
    · exact failing performed
    · split at performed
      · exact failing performed
      · exact failing performed
      · obtain ⟨_, -, rfl⟩ := Result.map_ok performed
        rfl

/-- Outputs are bound to the names that the first steps give them. -/
theorem tale_names (fits : count ≤ scenario.workflow.steps.length)
    (tells : scenario.tale count = .ok told) :
    ∃ entries, told.1 = .map entries ∧ ∀ entry ∈ entries, ∃ (place : Nat) (step : Step),
      place < count ∧ scenario.workflow.steps[place]? = some step ∧ entry.1 = step.output := by
  induction count generalizing told with
  | zero =>
    cases tells
    exact ⟨[], rfl, by simp⟩
  | succ count inductionHypothesis =>
    have next := List.getElem?_eq_getElem (Nat.lt_of_succ_le fits)
    obtain ⟨before, made, earlier, performed, rfl⟩ := tale_of_succ next tells
    obtain ⟨entries, mapped, named⟩ := inductionHypothesis (Nat.le_of_succ_le fits) earlier
    have kept : ∀ entry ∈ entries, ∃ (place : Nat) (step : Step),
        place < count + 1 ∧ scenario.workflow.steps[place]? = some step ∧
          entry.1 = step.output := by
      intro entry member
      obtain ⟨place, step, inside, there, same⟩ := named entry member
      exact ⟨place, step, Nat.lt_succ_of_lt inside, there, same⟩
    obtain same | ⟨v, bound⟩ := perform_outputs performed
    · exact ⟨entries, same.trans mapped, kept⟩
    · rw [mapped, Step.bound] at bound
      split at bound
      · rw [Value.assign] at bound
        obtain ⟨_, -, bound⟩ := Result.bind_ok bound
        refine ⟨_, (Except.ok.inj bound).symm, ?_⟩
        intro entry member
        obtain new | ⟨old, listed, same⟩ := Value.mem_insert member
        · exact ⟨count, _, Nat.lt_succ_self count, next, new⟩
        · obtain ⟨place, step, inside, there, output⟩ := kept old listed
          exact ⟨place, step, inside, there, same.trans output⟩
      · exact ⟨entries, (Except.ok.inj bound).symm, kept⟩

/-- What counts of what a step comes to. -/
def essential (made : Value × StepResult) : Value × StepResult :=
  (made.1.original, made.2.essence)

/-- A step comes to the same, as far as it counts, on a copy of the outputs before it. -/
theorem perform_of_original (scenario : Scenario η) {outputs : Value}
    {entries : List (Value × Value)} {step : Step}
    (same : outputs.original = (Value.map entries).original)
    (told : ∀ entry ∈ entries, entry.1.IsToldFrom step.output) :
    (scenario.perform step outputs).map essential =
      (scenario.perform step (.map entries)).map essential := by
  have failing (fault : Except Fault Fault) :
      (scenario.failing step outputs fault).map essential =
        (scenario.failing step (.map entries) fault).map essential := by
    unfold Scenario.failing
    cases (scenario.engine.attemptAt step).failure fault scenario.engine.now with
    | error f => rfl
    | ok result => simp [Except.map, essential, same]
  rw [perform, perform, Step.outset_of_original same rfl]
  cases step.outset (.map entries) scenario.given with
  | error f => rfl
  | ok outset =>
    cases outset with
    | settled status error =>
      simp [bind, Except.bind, pure, Except.pure, Except.map, essential, same]
    | sent resolved =>
      simp only [bind, Except.bind, reply]
      cases scenario.engine.reach (scenario.engine.attemptAt step) with
      | refused f => exact failing _
      | late => exact failing _
      | handler handler =>
        dsimp only
        cases scenario.answer handler resolved with
        | raised f => exact failing _
        | expired => exact failing _
        | returned v =>
          have bound := Step.bound_of_original same told v
          cases before : step.bound outputs v <;> cases after : step.bound (.map entries) v <;>
            simp_all [Except.map, essential]

end Scenario

/-! ## Records that match the tale -/

/-- What is asked of a scenario for its records to be taken up again. Its workflow was accepted, is
registered under its id however often that was copied, and has steps whose ids are texts; and no
output name is mistaken for a later one after copying. Names without host objects never are, and
neither are different objects: what is left out is one host object in two names. -/
structure Scenario.IsRegular {η : Type} (scenario : Scenario η) : Prop where
  accepted : scenario.workflow.IsAccepted
  registered : ∀ id : Value, id.original = scenario.workflow.id.original →
    scenario.engine.workflows.get id = .ok scenario.workflow
  named : ∀ step ∈ scenario.workflow.steps, step.id.isText = true
  apart : ∀ (place later : Nat) (step other : Step), place < later →
    scenario.workflow.steps[place]? = some step → scenario.workflow.steps[later]? = some other →
    step.output.IsToldFrom other.output

/-- None of the names that the tale has bound so far is mistaken for the one of the next step. -/
theorem Scenario.IsRegular.names_apart {η : Type} {scenario : Scenario η} {count : Nat}
    {step : Step} {told : Value × List StepResult} (regular : scenario.IsRegular)
    (next : scenario.workflow.steps[count]? = some step) (tells : scenario.tale count = .ok told) :
    ∃ entries, told.1 = .map entries ∧ ∀ entry ∈ entries, entry.1.IsToldFrom step.output := by
  have fits : count ≤ scenario.workflow.steps.length :=
    Nat.le_of_lt (List.getElem?_eq_some_iff.mp next).1
  obtain ⟨entries, mapped, named⟩ := tale_names fits tells
  refine ⟨entries, mapped, ?_⟩
  intro entry member
  obtain ⟨place, other, earlier, there, output⟩ := named entry member
  exact output ▸ regular.apart place count other step earlier there next

/-- The record matches the tale of as many steps as it has results. -/
structure Scenario.Matches {η : Type} (scenario : Scenario η) (execution : Execution) : Prop where
  begins : execution.input.original = scenario.given.original
  told : ∃ told, scenario.tale execution.results.length = .ok told ∧
    execution.outputs.original = told.1.original ∧
    execution.results.map StepResult.essence = told.2.map StepResult.essence

namespace Scenario.Matches

variable {η : Type} {scenario : Scenario η} {execution : Execution}

/-- A copy of a record matches what the record does. -/
theorem copied (tells : scenario.Matches execution) : scenario.Matches execution.copied := by
  obtain ⟨begins, told, tale, outputs, results⟩ := tells
  refine ⟨?_, told, ?_, ?_, ?_⟩
  · rw [Execution.copied, Value.original_copied, begins]
  · rw [Execution.copied, List.length_map, tale]
  · rw [Execution.copied, Value.original_copied, outputs]
  · rw [← results, Execution.copied, List.map_map]
    exact List.map_congr_left fun result _ => result.essence_copied

/-- The results in the record have the ids of their steps. -/
theorem stepId (tells : scenario.Matches execution) (regular : scenario.IsRegular)
    (fits : execution.results.length ≤ scenario.workflow.steps.length) {place : Nat} {step : Step}
    {result : StepResult} (there : scenario.workflow.steps[place]? = some step)
    (present : execution.results[place]? = some result) : result.stepId = step.id := by
  obtain ⟨-, told, tale, -, results⟩ := tells
  obtain ⟨inside, -⟩ := List.getElem?_eq_some_iff.mp present
  obtain ⟨before, made, -, performed, listed⟩ := Scenario.tale_at inside fits tale there
  have same : result.essence = made.2.essence := by
    have both := congrArg (fun results => results[place]?) results
    simpa [present, listed] using both
  have originals : result.stepId.original = step.id.original := by
    rw [← Scenario.perform_stepId performed]
    exact congrArg StepResult.stepId same
  have text := regular.named step (List.mem_of_getElem? there)
  cases id : step.id with
  | str name =>
    rw [id, Value.original_str] at originals
    cases given : result.stepId with
    | str other => rw [given, Value.original_str] at originals; exact originals
    | _ => simp [given, Value.original, Value.relabel] at originals
  | _ => simp [id, Value.isText] at text

/-- A record that matches the tale and gets what its next step comes to matches it still. -/
theorem add (tells : scenario.Matches execution) (regular : scenario.IsRegular) {step : Step}
    (next : scenario.workflow.steps[execution.results.length]? = some step)
    {made : Value × StepResult} (performed : scenario.perform step execution.outputs = .ok made)
    {outputs : Value} {result : StepResult}
    (same : Scenario.essential (outputs, result) = Scenario.essential made) :
    scenario.Matches { execution with outputs, results := execution.results ++ [result] } := by
  obtain ⟨begins, told, tale, bound, results⟩ := tells
  obtain ⟨entries, mapped, apart⟩ := regular.names_apart next tale
  have alike := scenario.perform_of_original (bound.trans (by rw [mapped])) apart
  rw [performed, ← mapped] at alike
  obtain ⟨own, performs, essential⟩ := Result.map_ok alike.symm
  refine ⟨begins, (own.1, told.2 ++ [own.2]), ?_, ?_, ?_⟩
  · rw [List.length_append, List.length_singleton, Scenario.tale_succ next, tale]
    change Except.map _ (scenario.perform step told.1) = _
    rw [performs]
    rfl
  · exact congrArg Prod.fst (same.trans essential.symm)
  · have last : result.essence = own.2.essence :=
      congrArg Prod.snd (same.trans essential.symm)
    simp [results, last]

end Scenario.Matches

end Stepwise
