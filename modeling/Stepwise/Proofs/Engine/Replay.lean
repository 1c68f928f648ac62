import Stepwise.Proofs.Engine.Ledger
import Stepwise.Proofs.Engine.Snapshot
import Stepwise.Proofs.Execution.Bindings

/-!
# Outputs are replayed results

The outputs in a record and its results are written in two places of a run: an output is bound when
its handler has answered, and the result is added afterwards. They never come apart. In every
snapshot the outputs are what its results bind, and every step is begun on what the results before
it bind and on the input of the execution.
-/

namespace Stepwise

variable {η : Type}

/-! ## The ledger and the replay -/

/-- A step with a text for its variable, or with none, binds what its result is replayed to. -/
theorem Step.binding_asMap {step : Step}
    (named : step.output.truthy = true → step.output.isText = true) (bindings : Bindings)
    (result : StepResult) :
    step.binding bindings.asMap result =
      (match step.binds? result with
        | some (name, v) => bindings.bind name v
        | none => bindings).asMap := by
  unfold Step.binding Step.binds? Step.variable?
  by_cases succeeded : result.status = .succeeded
  · simp only [succeeded, if_true, Step.bound]
    cases output : step.output with
    | str name =>
      by_cases empty : name = ""
      · simp [empty, Value.truthy, Except.toOption]
      · simp [empty, Value.truthy, Bindings.asMap_bind, Except.toOption]
    | _ =>
      simp only [output, Value.isText] at named
      have falsy : step.output.truthy = false := by simpa [output] using named
      rw [output] at falsy
      simp [falsy, Except.toOption]
  · simp [succeeded]

/-- The outputs that the ledger of a record tells are the replay of its results. -/
theorem outputsOf_eq_replay {steps : List Step} (named : NamesOutputs steps)
    (results : List StepResult) : outputsOf steps results = (replay steps results).asMap := by
  have listed : ∀ entry ∈ steps.zip results, entry.1 ∈ steps :=
    fun entry member => (List.of_mem_zip member).1
  unfold outputsOf replay
  generalize steps.zip results = entries at listed
  induction entries using List.reverseRecOn with
  | nil => rfl
  | append_singleton entries entry inductionHypothesis =>
    have last : entry.1 ∈ steps := listed entry (by simp)
    have before := inductionHypothesis fun other member => listed other (by simp [member])
    rw [List.foldl_append, List.foldl_cons, List.foldl_nil, before,
      Step.binding_asMap (named entry.1 last), List.filterMap_append]
    cases bound : entry.1.binds? entry.2 with
    | none => simp [bound]
    | some pair =>
      obtain ⟨name, v⟩ := pair
      simp [bound, Bindings.ofList_append]

/-! ## The input of a run -/

/-- The run works on the input that it was given. -/
def Run.WorksOn (input : Value) (run : Run η) : Prop :=
  ∀ execution, run.execution? = some execution → Engine.givenInput input = .ok execution.input

namespace Engine

variable {input : Value} {engine : Engine η} {work : Work} {next : Run η}

theorem Goes.worksOn (goes : engine.Goes work next)
    (same : givenInput input = .ok work.execution.input) : next.WorksOn input := by
  intro execution come
  cases goes with
  | ended ends =>
    cases come
    exact same
  | stopped left unhalted asked told =>
    cases come
    exact same
  | @begins step later outset left unhalted unasked comes =>
    cases outset <;> cases come <;> exact same

theorem failed_worksOn {attempt : Attempt} {fault : Except Fault Fault}
    (made : engine.failed work attempt fault = .ok next)
    (same : givenInput input = .ok work.execution.input) : next.WorksOn input := by
  obtain ⟨result, -, rfl⟩ := failed_ok made
  rintro _ ⟨⟩
  exact same

theorem answered_worksOn {attempt : Attempt} {v : Value}
    (made : engine.answered work attempt v = .ok next)
    (same : givenInput input = .ok work.execution.input) : next.WorksOn input := by
  obtain ⟨outputs, -, rfl⟩ := answered_ok made
  rintro _ ⟨⟩
  exact same

end Engine

/-- No turn changes the input of its run. -/
theorem Advances.worksOn {found left : Engine η} {heard : Outcome} {run next : Run η}
    {input : Value} (advances : Advances found heard run next left) (before : run.WorksOn input) :
    next.WorksOn input := by
  cases advances with
  | waits held => exact before
  | enters free => exact before
  | @opens work next left saved goes =>
    have same := before work.execution rfl
    exact goes.worksOn same
  | calls reached => exact before
  | misses missed made => exact Engine.failed_worksOn made (before _ rfl)
  | answers returned made => exact Engine.answered_worksOn made (before _ rfl)
  | fails caused made => exact Engine.failed_worksOn made (before _ rfl)
  | @records work settled step result next left saved meant goes =>
    have same := before work.execution rfl
    obtain ⟨halted, error, rfl⟩ := Engine.settle_ok meant
    exact goes.worksOn same
  | closes saved => exact before
  | rests result => exact before

/-! ## Beginning a step -/

/-- The turn saves its record and can go on with the work, on the engine that the save left. -/
inductive Turn.GoesOn (turn : Turn η) : Work → Engine η → Prop where
  | opened {work : Work} {left : Engine η} (stands : turn.run = .opening work)
    (saved : turn.found.Saves work.execution left) : GoesOn turn work.opened left
  | recorded {work settled : Work} {step : Step} {result : StepResult} {left : Engine η}
    (stands : turn.run = .recording work step result)
    (saved : turn.found.Saves work.execution left)
    (meant : Engine.settle work step result = .ok settled) : GoesOn turn settled left

/-- The turn goes on with a step: one is left, and the run is neither halted nor asked to stop. -/
structure Turn.Begins (turn : Turn η) (work : Work) (step : Step) (left : Engine η) : Prop where
  goesOn : turn.GoesOn work left
  next : ∃ later, work.remaining = step :: later
  unhalted : work.halted = false
  unasked : left.ownership.isCancelRequested work.execution.id = false

namespace Turn

variable {turn : Turn η} {work : Work} {step : Step} {left : Engine η} {steps : List Step}

/-- What a turn goes on with is the work of its run, at rest after a save. -/
theorem GoesOn.accounts (goesOn : turn.GoesOn work left) (accounts : turn.run.Accounts steps)
    (sound : turn.run.IsSound) :
    work.AtRest steps ∧ Ledger steps work.execution ∧ work.execution.status = .running ∧
      ∃ before, turn.run.execution? = some before ∧ before.input = work.execution.input := by
  obtain ⟨follows, ledger⟩ := accounts
  cases goesOn with
  | opened stands saved =>
    rw [stands] at follows ledger sound ⊢
    exact ⟨follows, ledger _ rfl, sound, _, rfl, rfl⟩
  | recorded stands saved meant =>
    rw [stands] at follows ledger sound ⊢
    have rest := Engine.settle_atRest follows meant
    have running := (Engine.settle_running meant).trans sound
    obtain ⟨halted, error, rfl⟩ := Engine.settle_ok meant
    obtain ⟨fits, bound, made⟩ := ledger _ rfl
    exact ⟨rest, ⟨fits, bound, made⟩, running, _, rfl, rfl⟩

/-- A turn that can go on comes to where its work goes on to. -/
theorem after_of_goesOn (goesOn : turn.GoesOn work left) (sound : turn.run.IsSound) {next : Run η}
    (goes : left.Goes work next) : turn.after.1 = next := by
  have advances : Advances turn.found turn.heard turn.run next left := by
    cases goesOn with
    | opened stands saved =>
      rw [stands]
      exact .opens saved goes
    | recorded stands saved meant =>
      rw [stands]
      exact .records saved meant goes
  exact congrArg Prod.fst (after_of_advances sound advances)

/-- A turn that begins a step comes to the outset of the step, and to its fault if it has none. -/
theorem after_of_begins (begins : turn.Begins work step left) (sound : turn.run.IsSound)
    (running : work.execution.status = .running) :
    turn.after.1 =
      match step.outset work.execution.outputs work.execution.input with
      | .ok outset => left.begun work step outset
      | .error f => .finished (.error f) := by
  obtain ⟨goesOn, ⟨later, next⟩, unhalted, unasked⟩ := begins
  cases comes : step.outset work.execution.outputs work.execution.input with
  | ok outset => exact after_of_goesOn goesOn sound (.begins next unhalted unasked comes)
  | error f =>
    have baulks : (Engine.next work).runOn left = (.error f, left) :=
      Engine.next_of_baulks running (.unbegun next unhalted unasked comes)
    have met : (Engine.stage turn.run).runOn turn.found = (.error f, left) := by
      cases goesOn with
      | opened stands saved =>
        rw [stands, Engine.stage, Engine.persist_bind saved]
        exact baulks
      | recorded stands saved meant =>
        rw [stands, Engine.stage, Engine.persist_bind saved, Effect.runOn_lift_bind, meant]
        exact baulks
    have saving : ∃ saved, turn.run.saving? = some saved := by
      cases goesOn with
      | opened stands saved => exact ⟨_, by rw [stands]; rfl⟩
      | recorded stands saved meant => exact ⟨_, by rw [stands]; rfl⟩
    obtain ⟨saved, saving⟩ := saving
    rw [after_of_saving saving, Engine.conclude_error met]

end Turn

/-! ## Along a course -/

/-- A run that starts works on what it was given. -/
theorem Engine.startExecution_worksOn {workflowId input : Value} {engine left : Engine η}
    {run : Run η} (started : engine.start (startExecution workflowId input) = (run, left)) :
    run.WorksOn input := by
  intro execution come
  have onward : ∀ f, run ≠ .finished (.error f) := by
    rintro f rfl
    cases come
  obtain ⟨workflow, given, lock, -, copied, stands⟩ := startExecution_ok started onward
  obtain rfl | rfl := stands
  · cases come
    exact copied
  · cases come
    exact copied

/-- Before every turn of an execution the run accounts for itself and works on the input that it
was given. -/
theorem Engine.execution_accounts {workflowId input : Value} {engine : Engine η}
    {workflow : Workflow} {around : Interim η} {turns : List (Turn η)} {final : Run η × Engine η}
    (registered : engine.workflows.get workflowId = .ok workflow)
    (course : Course around (engine.start (startExecution workflowId input)) turns final)
    {turn : Turn η} (member : turn ∈ turns) :
    turn.run.Accounts workflow.steps ∧ turn.run.IsSound ∧ turn.run.WorksOn input := by
  obtain ⟨before, later, rfl⟩ := List.append_of_mem member
  obtain ⟨left, reached, -, -⟩ := course.split
  rcases started : engine.start (startExecution workflowId input) with ⟨run, beginning⟩
  rw [started] at reached
  obtain ⟨accounts, sound⟩ := startExecution_accounts registered started
  obtain ⟨accounts', sound'⟩ := reached.accounts accounts sound
  refine ⟨accounts', sound', ?_⟩
  refine (Course.preserves (fun _ run _ => run.WorksOn input ∧ run.IsSound) ?_ reached []
    ⟨startExecution_worksOn started, sound⟩).1
  intro past left turn kept _
  obtain ⟨f, faults⟩ | advances := turn.advances_or_faults kept.2
  · rw [faults]
    exact ⟨nofun, trivial⟩
  · exact ⟨advances.worksOn kept.1, advances.sound kept.2⟩

/-- A snapshot that a turn notes is that of the record its run is about to save. -/
theorem Turn.saving_of_noted {turn : Turn η} (sound : turn.run.IsSound) {record : Execution}
    {kept : Bool} (noted : .saved record kept ∈ turn.events) :
    ∃ work, turn.run.saving? = some work ∧ record = work.execution.copied := by
  cases saving : turn.run.saving? with
  | some work =>
    refine ⟨work, rfl, ?_⟩
    obtain silent | ⟨kept', same⟩ := events_of_saving sound saving
    · rw [silent] at noted
      cases noted
    · rw [same, List.mem_singleton] at noted
      cases noted
      rfl
  | none =>
    rw [events_of_unsaving sound saving, called] at noted
    repeat' split at noted
    all_goals simp at noted

/-- A call that a turn notes is that of the handler of the step it is about to dispatch. -/
theorem Turn.dispatching_of_noted {turn : Turn η} (sound : turn.run.IsSound) {id : Option Value}
    {agent action resolved : Value} {handler : η}
    (noted : .called id agent action handler resolved ∈ turn.events) :
    ∃ work attempt, turn.run = .dispatching work attempt resolved ∧
      attempt.step.agent = agent ∧ attempt.step.action = action := by
  cases saving : turn.run.saving? with
  | some work =>
    obtain silent | ⟨kept', same⟩ := events_of_saving sound saving
    · rw [silent] at noted
      cases noted
    · simp [same] at noted
  | none =>
    rw [events_of_unsaving sound saving, called] at noted
    split at noted
    · rename_i work attempt input stands
      split at noted
      · rw [List.mem_singleton] at noted
        cases noted
        exact ⟨work, attempt, stands, rfl, rfl⟩
      · cases noted
    · cases noted

/-- In every execution of a registered workflow whose output variables are texts, whatever happens
between its turns, three things hold of every turn. A snapshot that is saved has for its outputs
the replay of its own results, which are those of the first steps. A step that begins is the one
after the recorded results, and what comes of its guard and of its input template is told by its
outset on the replay of these results and on the input that the execution was given. And the input
with which a handler is called is the template of that step, resolved on just these. -/
theorem Engine.execution_replays {workflowId input : Value} {engine : Engine η}
    {workflow : Workflow} {around : Interim η} {turns : List (Turn η)} {final : Run η × Engine η}
    (registered : engine.workflows.get workflowId = .ok workflow)
    (named : NamesOutputs workflow.steps)
    (course : Course around (engine.start (startExecution workflowId input)) turns final) :
    ∀ turn ∈ turns,
      (∀ record kept, .saved record kept ∈ turn.events →
        record.outputs = (replay workflow.steps record.results).asMap ∧
        record.results.map StepResult.stepId =
          (workflow.steps.take record.results.length).map fun step => step.id.copied) ∧
      (∀ work step left, turn.Begins work step left →
        workflow.steps[work.execution.results.length]? = some step ∧
        givenInput input = .ok work.execution.input ∧
        turn.after.1 =
          match step.outset (replay workflow.steps work.execution.results).asMap
            work.execution.input with
          | .ok outset => left.begun work step outset
          | .error f => .finished (.error f)) ∧
      ∀ id agent action handler resolved, .called id agent action handler resolved ∈ turn.events →
        ∃ work step, turn.run.work? = some work ∧
          workflow.steps[work.execution.results.length]? = some step ∧
          step.agent = agent ∧ step.action = action ∧
          givenInput input = .ok work.execution.input ∧
          step.outset (replay workflow.steps work.execution.results).asMap work.execution.input =
            .ok (.sent resolved) ∧
          Template.resolve (replay workflow.steps work.execution.results).asMap
            work.execution.input step.input = .ok resolved := by
  intro turn member
  obtain ⟨accounts, sound, worksOn⟩ := execution_accounts registered course member
  refine ⟨?_, ?_, ?_⟩
  · intro record kept noted
    obtain ⟨work, saving, rfl⟩ := Turn.saving_of_noted sound noted
    have come : turn.run.execution? = some work.execution := Run.execution?_of_saving saving
    have ledger := accounts.ledger work.execution come
    have copies : work.execution.copied.results = work.execution.results.map StepResult.copied :=
      rfl
    refine ⟨?_, ?_⟩
    · rw [copies, replay_copied, ← Bindings.asMap_copied, ← outputsOf_eq_replay named,
        ← ledger.bound]
      rfl
    · have ids := congrArg (List.map Value.copied) ledger.ids
      simpa [copies, List.map_map, Function.comp_def, StepResult.copied] using ids
  · intro work step left begins
    obtain ⟨rest, ledger, running, before, come, same⟩ := begins.goesOn.accounts accounts sound
    obtain ⟨later, next⟩ := begins.next
    refine ⟨next_of_left rest.left next, same ▸ worksOn before come, ?_⟩
    rw [← outputsOf_eq_replay named, ← ledger.bound]
    exact Turn.after_of_begins begins sound running
  · intro id agent action handler resolved noted
    obtain ⟨work, attempt, stands, agent, action⟩ := Turn.dispatching_of_noted sound noted
    obtain ⟨follows, ledger⟩ := accounts
    rw [stands] at follows ledger worksOn
    have comes := follows.comes
    rw [(ledger work.execution rfl).bound, outputsOf_eq_replay named] at comes
    exact ⟨work, attempt.step, by rw [stands]; rfl, follows.next, agent, action,
      worksOn work.execution rfl, comes, Step.outset_sent comes⟩

/-- The names that a noted snapshot binds. -/
def Event.boundNames (steps : List Step) : Event η → List String
  | .saved record _ => (replay steps record.results).names
  | .called .. => []

/-- Of two letters the second binds its text, and its snapshots have it. -/
theorem Letters.replayed_text : ∃ turn ∈ Engine.turnsOf behave 8 started.1 started.2,
    ∃ record kept, .saved record kept ∈ turn.events ∧
      record.outputs = (replay workflow.steps record.results).asMap ∧
      (replay workflow.steps record.results).names = ["text"] := by
  have bound : ((Engine.turnsOf behave 8 started.1 started.2).any fun turn =>
      turn.events.any fun event => event.boundNames workflow.steps = ["text"]) = true := by
    decide +kernel
  obtain ⟨turn, member, noted⟩ := List.any_eq_true.mp bound
  obtain ⟨event, noted, names⟩ := List.any_eq_true.mp noted
  have course := Engine.moves_course behave 8 started.1 started.2
  have named : NamesOutputs workflow.steps := by
    simp [NamesOutputs, workflow, note, fetch, Value.truthy, Value.isText]
  obtain ⟨snapshots, -⟩ := Engine.execution_replays registered named course turn member
  cases event with
  | saved record kept =>
    exact ⟨turn, member, record, kept, noted, (snapshots record kept noted).1,
      of_decide_eq_true names⟩
  | called id agent action handler input => simp [Event.boundNames] at names

end Stepwise
