import Stepwise.Proofs.Engine.Ownership
import Stepwise.Proofs.Engine.Turn

/-!
# How a run starts

An execution starts with a new record, on a copy of its input and under an id that nobody has
claimed. The run that is started has all steps of the workflow before it, and stands either before
its first save or, when somebody else writes the record, before the lock of the record. With a
fresh id nobody does, and then nothing but an input that cannot be copied or a workflow whose id
cannot be told keeps the run from starting.
-/

namespace Stepwise

namespace Engine

variable {η : Type}

/-- The id that the next execution gets. -/
def nextId (engine : Engine η) : Value := .str s!"exec-{engine.issued + 1}"

/-- The input that a record begins with: a copy of what is given, or an empty map. -/
def givenInput (input : Value) : Except Fault Value :=
  if input.isNull then .ok (.map []) else input.copy

/-- The record of an execution that begins now. -/
def freshRecord (engine : Engine η) (workflow : Workflow) (input : Value) : Execution where
  id := engine.nextId
  workflow := workflow.id
  status := .running
  input
  outputs := .map []
  results := []
  startedAt := some engine.now
  finishedAt := none
  error := .null

/-- The work of a record that is taken up where it has got to. -/
def workOn (claimed : Value) (lock : Nat) (workflow : Workflow) (execution : Execution) : Work where
  claimed
  lock
  workflow
  execution
  remaining := workflow.steps.drop execution.results.length
  halted := false

theorem issueId_eq (engine : Engine η) :
    issueId.runOn engine = (.ok engine.nextId, { engine with issued := engine.issued + 1 }) := rfl

/-- A run starts in this order: the workflow is looked up, an id is issued, the input is copied,
the id is claimed, and the record is locked. What fails undoes the claim. -/
theorem startExecution_eq (workflowId input : Value) (engine : Engine η) :
    (startExecution workflowId input).runOn engine =
      match engine.workflows.get workflowId, givenInput input with
      | .error f, _ => (.error f, engine)
      | .ok _, .error f => (.error f, { engine with issued := engine.issued + 1 })
      | .ok workflow, .ok given =>
        match (onOwnership (Ownership.claim engine.nextId)).runOn
            { engine with issued := engine.issued + 1 } with
        | (.error f, left) => (.error f, left)
        | (.ok _, claimed) =>
          match (begin engine.nextId workflow
              (engine.freshRecord workflow given)).runOn claimed with
          | (.error f, left) => (.error f, left.release engine.nextId)
          | (.ok run, left) => (.ok run, left) := by
  rw [startExecution, Effect.runOn_get_bind, Effect.runOn_lift_bind]
  cases engine.workflows.get workflowId with
  | error f => rfl
  | ok workflow =>
    dsimp only
    rw [Effect.runOn_bind, issueId_eq]
    dsimp only
    rw [Effect.runOn_get_bind, Effect.runOn_lift_bind]
    have claiming (given : Value) :
        (do
          onOwnership (Ownership.claim engine.nextId)
          tryCatch (begin engine.nextId workflow (engine.freshRecord workflow given)) fun f => do
            modify (release engine.nextId)
            throw f : Effect (Engine η) (Run η)).runOn
              { engine with issued := engine.issued + 1 } =
          match (onOwnership (Ownership.claim engine.nextId)).runOn
              { engine with issued := engine.issued + 1 } with
          | (.error f, left) => (.error f, left)
          | (.ok _, claimed) =>
            match (begin engine.nextId workflow
                (engine.freshRecord workflow given)).runOn claimed with
            | (.error f, left) => (.error f, left.release engine.nextId)
            | (.ok run, left) => (.ok run, left) := by
      rw [Effect.runOn_bind]
      generalize Effect.runOn _ (onOwnership (Ownership.claim engine.nextId)) = claim
      rcases claim with ⟨f | _, claimed⟩
      · rfl
      · dsimp only
        rw [Effect.runOn_tryCatch]
        generalize Effect.runOn claimed (begin _ _ _) = begun
        rcases begun with ⟨f | run, left⟩
        · simp only [Effect.runOn_modify_bind, Effect.runOn_throw]
        · rfl
    unfold Execution.create givenInput
    by_cases absent : input.isNull = true
    · rw [if_pos absent]
      simp only [absent, if_true]
      exact claiming (.map [])
    · rw [if_neg absent]
      simp only [absent]
      cases input.copy with
      | error f => rfl
      | ok given => exact claiming given

/-- A run that begins has the steps without a result before it. -/
theorem begin_ok {claimed : Value} {workflow : Workflow} {execution : Execution}
    {engine left : Engine η} {run : Run η}
    (begun : (begin claimed workflow execution).runOn engine = (.ok run, left)) :
    ∃ lock, run = .waiting (workOn claimed lock workflow execution) ∨
      run = .opening (workOn claimed lock workflow execution) := by
  rw [begin] at begun
  obtain ⟨_, _, _, begun⟩ := Effect.bind_ok begun
  obtain ⟨_, _, _, begun⟩ := Effect.bind_ok begun
  obtain ⟨lock, locked, _, begun⟩ := Effect.bind_ok begun
  rw [enter, Effect.runOn_get_bind] at begun
  refine ⟨lock, ?_⟩
  split at begun
  · exact .inl (Except.ok.inj (Prod.mk.inj begun).1).symm
  · exact .inr (Except.ok.inj (Prod.mk.inj begun).1).symm

/-- A run that starts works on a new record of a registered workflow. -/
theorem startExecution_ok {workflowId input : Value} {engine left : Engine η} {run : Run η}
    (started : engine.start (startExecution workflowId input) = (run, left))
    (onward : ∀ f, run ≠ .finished (.error f)) :
    ∃ workflow given lock, engine.workflows.get workflowId = .ok workflow ∧
      givenInput input = .ok given ∧
      (run = .waiting (workOn engine.nextId lock workflow (engine.freshRecord workflow given)) ∨
        run = .opening
          (workOn engine.nextId lock workflow (engine.freshRecord workflow given))) := by
  unfold start at started
  rw [startExecution_eq] at started
  cases found : engine.workflows.get workflowId with
  | error f =>
    simp only [found] at started
    exact absurd (congrArg Prod.fst started).symm (onward f)
  | ok workflow =>
    cases copied : givenInput input with
    | error f =>
      simp only [found, copied] at started
      exact absurd (congrArg Prod.fst started).symm (onward f)
    | ok given =>
      simp only [found, copied] at started
      rcases claim : (onOwnership (Ownership.claim engine.nextId)).runOn
        { engine with issued := engine.issued + 1 } with ⟨f | _, claimed⟩
      · simp only [claim] at started
        exact absurd (congrArg Prod.fst started).symm (onward f)
      · simp only [claim] at started
        rcases begun : (begin engine.nextId workflow
          (engine.freshRecord workflow given)).runOn claimed with ⟨f | next, reached⟩
        · simp only [begun] at started
          exact absurd (congrArg Prod.fst started).symm (onward f)
        · simp only [begun] at started
          obtain ⟨rfl, rfl⟩ := Prod.mk.inj started
          obtain ⟨lock, stands⟩ := begin_ok begun
          exact ⟨workflow, given, lock, rfl, rfl, stands⟩

/-- Without a lock under the id nobody else writes the record, so the run stands before its first
save. -/
theorem begin_opens (claimed : Value) (engine : Engine η) {workflow : Workflow}
    {execution : Execution} {id : String} (told : ∃ text, workflow.id.text = .ok text)
    (named : execution.id = .str id) (orderly : engine.ownership.IsOrderly)
    (unlocked : engine.ownership.locks.find? execution.id = none) :
    (begin claimed workflow execution).runOn engine =
      (.ok (.opening (workOn claimed engine.ownership.made workflow execution)),
        { engine with ownership := engine.ownership.locking execution.id }) := by
  obtain ⟨_, told⟩ := told
  have key : execution.id.hashable = .ok () := by
    rw [named]
    rfl
  have announced : execution.id.text = .ok id := by rw [named, Value.text]
  have unheld := orderly.unheld
  have locked : (onOwnership (Ownership.lockOf execution.id) : Effect (Engine η) Nat).runOn
      engine = (.ok engine.ownership.made,
        { engine with
          ownership := { engine.ownership with
            locks := engine.ownership.locks.insert execution.id engine.ownership.made
            made := engine.ownership.made + 1 } }) := by
    rw [onOwnership, Effect.runOn_onPart, Ownership.lockOf, Effect.runOn_lift_bind, key]
    simp only [Effect.runOn_get_bind, unlocked, Effect.runOn_set_bind, Effect.runOn_pure]
  rw [Ownership.isHeld] at unheld
  rw [begin, Effect.runOn_lift_bind, told]
  dsimp only
  rw [Effect.runOn_lift_bind, announced]
  dsimp only
  rw [Effect.runOn_bind, locked]
  simp only [enter, Effect.runOn_get_bind, Ownership.isHeld, workOn, unheld, Bool.false_eq_true,
    if_false, Effect.runOn_modify_bind, Effect.runOn_pure, Ownership.hold, Ownership.locking]

/-- Claiming a free id adds a claim and changes nothing else. -/
theorem claim_eq (engine : Engine η) {id : Value} (key : id.hashable = .ok ())
    (free : engine.ownership.IsFree id) :
    (onOwnership (Ownership.claim id)).runOn engine =
      (.ok (), { engine with ownership := engine.ownership.claiming id }) := by
  rw [onOwnership, Effect.runOn_onPart, Ownership.claim, Effect.runOn_lift_bind, key]
  simp only [Effect.runOn_get_bind, free.unclaimed, Bool.false_eq_true, if_false,
    Effect.runOn_modify]
  rfl

/-- With a fresh id, a run of a workflow whose id can be told starts whenever its input can be
copied, and it owns its record from then on. -/
theorem startExecution_opens {workflowId input given : Value} {engine : Engine η}
    {workflow : Workflow} (found : engine.workflows.get workflowId = .ok workflow)
    (told : ∃ text, workflow.id.text = .ok text)
    (fresh : engine.ownership.IsFree engine.nextId) (copied : givenInput input = .ok given) :
    engine.start (startExecution workflowId input) =
      (.opening (workOn engine.nextId engine.ownership.made workflow
          (engine.freshRecord workflow given)),
        { engine with
          issued := engine.issued + 1
          ownership := (engine.ownership.claiming engine.nextId).locking engine.nextId }) := by
  have claimed := claim_eq { engine with issued := engine.issued + 1 } rfl fresh
  have named : (engine.freshRecord workflow given).id = .str _ := rfl
  have own := fresh.isClaimed (Value.same_str_self s!"exec-{engine.issued + 1}")
  have opened := begin_opens engine.nextId
    { engine with
      issued := engine.issued + 1
      ownership := engine.ownership.claiming engine.nextId }
    told named own.orderly own.unlocked
  rw [start, startExecution_eq, found, copied]
  dsimp only
  rw [claimed]
  dsimp only
  rw [opened]
  rfl

end Engine

/-- The record that a run came to. -/
def Run.record? {η : Type} : Run η → Option Execution
  | .finished (.ok execution) => some execution
  | _ => none

theorem Run.eq_of_record? {η : Type} {run : Run η} {execution : Execution}
    (came : run.record? = some execution) : run = .finished (.ok execution) := by
  unfold record? at came
  split at came
  · cases came
    rfl
  · cases came

/-! ## An engine to look at

Two letters are handled by one agent. The first step may fail without stopping the run, and the
second binds its output. 
-/

namespace Letters

def fetch : Step where
  id := .str "fetch"
  agent := .str "desk"
  action := .str "fetch"
  input := .map []
  output := .null
  condition := .null
  continueOnError := .bool true
  timeout := .null

def note : Step := { fetch with id := .str "note", action := .str "note", output := .str "text" }

def workflow : Workflow where
  id := .str "letters"
  name := .str "letters"
  steps := [fetch, note]
  description := .str ""
  trigger := none

/-- The handlers are told apart by a truth value. No call has a limit, and nothing is stored. -/
def engine : Engine Bool where
  workflows := ⟨[(.str "letters", workflow)], 0⟩
  capabilities := [(.str "desk", [(.str "fetch", false), (.str "note", true)])]
  store := .create (.memory []) default
  options := ⟨.null, .null, .null, .null⟩
  worksApart := fun _ => false
  ownership := .none
  now := .midnight ⟨2024, 1, 1⟩
  issued := 0
  trace := []

/-- Fetching fails, and noting answers with a number. -/
def behave : Behavior Bool := fun handler _ engine =>
  (if handler then .returned (.int 1) else .raised (.valueError "gone"), engine)

/-- The start of an execution without an input. -/
def started : Run Bool × Engine Bool :=
  engine.start (Engine.startExecution (.str "letters") .null)

theorem registered : engine.workflows.get (.str "letters") = .ok workflow := by
  have found : (Value.str "letters").same (.str "letters") = true := by decide +kernel
  simp only [Workflows.get, engine, Value.hashable, Value.unhashable?, Table.find?, found, if_true]
  rfl

end Letters

end Stepwise
