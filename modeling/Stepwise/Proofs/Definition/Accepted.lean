import Stepwise.Proofs.Effect
import Stepwise.Proofs.Value.Table
import Stepwise.Proofs.Value.Text
import Stepwise.Registry.Workflows

/-!
# Accepted definitions

A registry takes a definition in when it has no problems, can be copied, and has an id that can be
told; what it keeps is the copy. Validation looks at some fields of a step and leaves others as
they come: the guard is a text if there is one, and ids are there and differ, but a step may bind
its output to anything, and an id need not be a text.
-/

namespace Stepwise

/-- A list that is gone through without a result was empty. -/
theorem Result.mapM_nil {α β : Type} {act : α → Except Fault β} {items : List α}
    (made : items.mapM act = .ok []) : items = [] := by
  cases items with
  | nil => rfl
  | cons item rest =>
    rw [List.mapM_cons] at made
    obtain ⟨_, -, made⟩ := Result.bind_ok made
    obtain ⟨_, -, made⟩ := Result.bind_ok made
    cases made

/-- What the registry sees to in a step: its guard is a text, and it can be copied. -/
structure Step.IsFit (step : Step) : Prop where
  guard : step.condition.isNull = true ∨ step.condition.isText = true
  identified : step.id.obstacle? = none
  bound : step.output.obstacle? = none

namespace Step

variable {step : Step} {seen : List Value} {index : Nat}

theorem demand_eq_nil {kept : Bool} {problem : Problem} :
    demand kept problem = [] ↔ kept = true := by
  cases kept <;> simp [demand]

/-- A step without problems has a guard that is a text, if it has one. -/
theorem guard_of_problems (sound : step.problems seen index = []) :
    step.condition.isNull = true ∨ step.condition.isText = true := by
  simp only [problems, List.append_eq_nil_iff, demand_eq_nil, Bool.or_eq_true] at sound
  exact sound.1.1.2

/-- A step without problems has an id that none of those before it has. -/
theorem id_of_problems (sound : step.problems seen index = []) :
    step.id.isAmong seen = false := by
  simp only [problems, List.append_eq_nil_iff] at sound
  have own : step.idProblems seen index = [] := sound.1.1.1.1.1
  unfold idProblems at own
  split at own
  · cases own
  · split at own
    · cases own
    · rename_i apart
      simpa using apart

theorem isFit_copied (guarded : step.condition.isNull = true ∨ step.condition.isText = true)
    (free : step.obstacle? = none) : step.copied.IsFit := by
  simp only [obstacle?, List.findSome?_eq_none_iff, List.mem_cons, List.not_mem_nil, or_false,
    forall_eq_or_imp, forall_eq] at free
  obtain ⟨identified, -, -, -, bound, -⟩ := free
  refine ⟨?_, Value.obstacle?_copied identified, Value.obstacle?_copied bound⟩
  have kept : step.condition.copied = step.condition := by
    cases given : step.condition with
    | null | str _ => simp [Value.copied]
    | _ => simp [given, Value.isNull, Value.isText] at guarded
  rw [copied, kept]
  exact guarded

end Step

namespace Workflow

/-- A workflow as the registry keeps it: the copy of a definition that it took in. -/
def IsAccepted (workflow : Workflow) : Prop :=
  ∃ definition workflows changed,
    (Workflows.register definition).runOn workflows = (.ok (), changed) ∧
      workflow = definition.copied

/-- Without messages there is no problem with any step, seen after the steps before it. -/
theorem problems_of_stepMessages {steps : List Step} {seen : List Value} {index : Nat}
    (silent : stepMessages seen index steps = .ok []) :
    ∀ (place : Nat) (step : Step), steps[place]? = some step →
      step.problems (seen ++ (steps.take place).map Step.id) (index + place) = [] := by
  induction steps generalizing seen index with
  | nil =>
    intro place step there
    cases there
  | cons first rest inductionHypothesis =>
    rw [stepMessages] at silent
    obtain ⟨own, said, silent⟩ := Result.bind_ok silent
    obtain ⟨others, told, silent⟩ := Result.bind_ok silent
    obtain ⟨rfl, rfl⟩ := List.append_eq_nil_iff.mp (Except.ok.inj silent)
    intro place step there
    cases place with
    | zero =>
      cases there
      obtain ⟨_, -, said⟩ := Result.bind_ok said
      simpa using Result.mapM_nil said
    | succ place =>
      have later := inductionHypothesis told place step there
      simpa [Nat.add_assoc, Nat.add_comm 1] using later

/-- A definition about which nothing is said has no problem of its own, nor with its steps or its
trigger. -/
theorem of_validate {definition : Workflow} (silent : definition.validate = .ok []) :
    definition.idProblems = [] ∧ stepMessages [] 0 definition.steps = .ok [] ∧
      definition.triggerProblems = [] := by
  obtain ⟨own, first, silent⟩ := Result.bind_ok silent
  obtain ⟨steps, said, silent⟩ := Result.bind_ok silent
  obtain ⟨trigger, last, silent⟩ := Result.bind_ok silent
  obtain ⟨both, rfl⟩ := List.append_eq_nil_iff.mp (Except.ok.inj silent)
  obtain ⟨rfl, rfl⟩ := List.append_eq_nil_iff.mp both
  exact ⟨Result.mapM_nil first, said, Result.mapM_nil last⟩

/-- What a definition has to come to before anything is kept of it. -/
def admitted (definition : Workflow) : Except Fault Unit := do
  let messages ← definition.validate
  if messages ≠ [] then refuse (.invalidDefinition definition.id messages)
  else
    let _ ← definition.copy
    definition.id.hashable

theorem admitted_of_fault {definition : Workflow} {f : Fault}
    (met : definition.validate = .error f) : definition.admitted = .error f := by
  rw [admitted, met]
  rfl

theorem admitted_of_validated {definition : Workflow} {messages : List String}
    (said : definition.validate = .ok messages) :
    definition.admitted =
      if messages ≠ [] then refuse (.invalidDefinition definition.id messages)
      else match definition.obstacle? with
        | some f => .error f
        | none => definition.id.hashable := by
  rw [admitted, said, copy]
  cases definition.obstacle? <;> rfl

/-- A definition is admitted exactly when it has no problems, can be copied, and has an id that can
be a key. -/
theorem admitted_iff {definition : Workflow} : definition.admitted = .ok () ↔
    definition.validate = .ok [] ∧ definition.obstacle? = none ∧
      definition.id.hashable = .ok () := by
  cases said : definition.validate with
  | error f => simp [admitted_of_fault said]
  | ok messages =>
    rw [admitted_of_validated said]
    by_cases silent : messages = []
    · rw [if_neg (not_not_intro silent)]
      cases definition.obstacle? <;> simp [silent]
    · rw [if_pos silent]
      simp [refuse, silent]

end Workflow

namespace Workflows

/-- The registry with the copy of a definition in it. -/
def keep (workflows : Workflows) (definition : Workflow) : Workflows :=
  { workflows with table := workflows.table.insert definition.copied.id definition.copied }

/-- A definition that is not admitted leaves the registry alone. One that is admitted is kept
before it is announced, so it stays there when its id cannot be told. -/
theorem runOn_register (definition : Workflow) (workflows : Workflows) :
    (register definition).runOn workflows =
      match definition.admitted with
      | .error f => (.error f, workflows)
      | .ok () => (definition.id.text.map fun _ => (), workflows.keep definition) := by
  rw [register, Effect.runOn_lift_bind]
  cases said : definition.validate with
  | error f =>
    rw [Workflow.admitted_of_fault said]
  | ok messages =>
    rw [Workflow.admitted_of_validated said]
    dsimp only
    by_cases silent : messages = []
    · rw [if_neg (not_not_intro silent), if_neg (not_not_intro silent), Effect.runOn_lift_bind,
        Workflow.copy]
      cases definition.obstacle? with
      | some f => rfl
      | none =>
        simp only [Fault.barring, Effect.runOn_lift_bind]
        cases definition.id.hashable with
        | error f => rfl
        | ok _ =>
          simp only [Effect.runOn_modify_bind, Effect.runOn_lift_bind]
          cases definition.id.text <;> rfl
    · rw [if_pos silent, if_pos silent, Effect.runOn_lift]
      rfl

end Workflows

namespace Workflow

/-- What is taken in had no problems, could be copied, and has an id that can be told. -/
theorem register_ok {definition : Workflow} {workflows changed : Workflows}
    (taken : (Workflows.register definition).runOn workflows = (.ok (), changed)) :
    definition.validate = .ok [] ∧ definition.obstacle? = none ∧
      ∃ told, definition.id.text = .ok told := by
  rw [Workflows.runOn_register] at taken
  cases fit : definition.admitted with
  | error f =>
    rw [fit] at taken
    cases taken
  | ok _ =>
    rw [fit] at taken
    obtain ⟨told, known, -⟩ := Result.map_ok (Prod.mk.inj taken).1
    obtain ⟨silent, free, -⟩ := admitted_iff.mp fit
    exact ⟨silent, free, told, known⟩

namespace IsAccepted

variable {workflow : Workflow}

/-- The definition behind an accepted workflow has no problem at any of its steps. -/
theorem definition (accepted : workflow.IsAccepted) :
    ∃ definition : Workflow, workflow = definition.copied ∧ definition.obstacle? = none ∧
      (∃ told, definition.id.text = .ok told) ∧
      ∀ (place : Nat) (step : Step), definition.steps[place]? = some step →
        step.problems ((definition.steps.take place).map Step.id) place = [] := by
  obtain ⟨definition, workflows, changed, taken, rfl⟩ := accepted
  obtain ⟨silent, free, told⟩ := register_ok taken
  refine ⟨definition, rfl, free, told, ?_⟩
  obtain ⟨-, said, -⟩ := of_validate silent
  simpa using problems_of_stepMessages said

/-- The id of an accepted workflow can be told, since its registration was announced by it. -/
theorem told (accepted : workflow.IsAccepted) : ∃ id, workflow.id.text = .ok id := by
  obtain ⟨definition, rfl, -, ⟨id, told⟩, -⟩ := accepted.definition
  exact ⟨id, (Value.text_copied definition.id).trans told⟩

theorem identified (accepted : workflow.IsAccepted) : workflow.id.obstacle? = none := by
  obtain ⟨definition, rfl, free, -⟩ := accepted.definition
  simp only [obstacle?, Option.orElse_eq_orElse, Option.orElse_eq_or, Option.or_eq_none_iff]
    at free
  exact Value.obstacle?_copied free.1

theorem fit (accepted : workflow.IsAccepted) : ∀ step ∈ workflow.steps, step.IsFit := by
  obtain ⟨definition, rfl, free, -, sound⟩ := accepted.definition
  simp only [obstacle?, Option.orElse_eq_orElse, Option.orElse_eq_or, Option.or_eq_none_iff,
    List.findSome?_eq_none_iff] at free
  intro step member
  obtain ⟨given, listed, rfl⟩ := List.mem_map.mp member
  obtain ⟨place, there⟩ := List.mem_iff_getElem?.mp listed
  exact Step.isFit_copied (Step.guard_of_problems (sound place given there))
    (free.2.2.1 given listed)

/-- Among steps whose ids are texts, a step is found again by its id. -/
theorem step?_of_getElem? (accepted : workflow.IsAccepted)
    (named : ∀ step ∈ workflow.steps, step.id.isText = true) {place : Nat} {step : Step}
    (there : workflow.steps[place]? = some step) : workflow.step? step.id = some step := by
  obtain ⟨definition, rfl, -, -, sound⟩ := accepted.definition
  have identified (other : Nat) (inside : other < definition.steps.length) :
      definition.steps[other].copied.id = definition.steps[other].id := by
    have member : definition.steps[other].copied ∈ definition.copied.steps :=
      List.mem_map.mpr ⟨_, List.getElem_mem inside, rfl⟩
    exact Value.copied_of_isText (named _ member)
  obtain ⟨given, listed, rfl⟩ : ∃ given, definition.steps[place]? = some given ∧
      given.copied = step := by
    simpa [copied] using there
  obtain ⟨inside, own⟩ := List.getElem?_eq_some_iff.mp listed
  have apart := Step.id_of_problems (sound place given listed)
  rw [Value.isAmong, List.any_eq_false] at apart
  rw [step?, List.find?_eq_some_iff_getElem]
  have text := named given.copied (List.mem_map.mpr ⟨given, List.mem_of_getElem? listed, rfl⟩)
  refine ⟨?_, place, by simpa [copied] using inside, by simp [copied, own], ?_⟩
  · cases id : given.copied.id with
    | str told => simp [Value.equal, Value.isNaN]
    | _ => simp [id, Value.isText] at text
  · intro earlier before
    have within : earlier < definition.steps.length := Nat.lt_trans before inside
    have unlike : ¬ definition.steps[earlier].id.same given.id = true := by
      refine apart _ (List.mem_map.mpr ⟨definition.steps[earlier], ?_, rfl⟩)
      exact List.mem_take_iff_getElem.mpr ⟨earlier, by omega, rfl⟩
    have same : given.copied.id = given.id := own ▸ identified place inside
    rw [← identified earlier within, ← same] at unlike
    simp only [copied, List.getElem_map, Value.equal, unlike, Bool.and_false, Bool.not_false]

end IsAccepted

end Workflow

end Stepwise
