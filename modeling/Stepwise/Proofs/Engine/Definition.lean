import Mathlib.Data.List.Forall2
import Stepwise.Proofs.Engine.Rehearsal
import Stepwise.Proofs.Engine.Replay
import Stepwise.Proofs.Registry.Workflows

/-!
# A run keeps its definition

A run looks its workflow up once, when it starts, and works on what it has found from then on. What
a turn sees of the engine is the time, the limits, the handlers, whether the lock of its record is
held, whether it is asked to stop, and what the store makes of its record. The registered workflows
are not among it, so two engines with different workflows may look the same to a run.

Hence a run goes the same way, turn by turn, on engines that look the same to it. In particular it
goes the way that it would have gone if nobody had touched the registry after its start.
-/

namespace Stepwise

variable {η : Type}

/-! ## What a turn sees -/

/-- What the run of a turn sees at another one: its handler answers alike, and the engines look the
same to it. Nothing is said about workflows, nor about what others own or keep. -/
structure Turn.Alike (turn other : Turn η) : Prop where
  heard : other.heard = turn.heard
  now : other.found.now = turn.found.now
  options : other.found.options = turn.found.options
  capabilities : other.found.capabilities = turn.found.capabilities
  worksApart : other.found.worksApart = turn.found.worksApart
  held : ∀ work, turn.run.work? = some work →
    other.found.ownership.isHeld work.lock = turn.found.ownership.isHeld work.lock
  asked : ∀ work, turn.run.work? = some work →
    other.found.ownership.isCancelRequested work.execution.id =
      turn.found.ownership.isCancelRequested work.execution.id
  kept : ∀ work, turn.run.saving? = some work →
    ((Store.save work.execution.copied).runOn other.found.store).1 =
      ((Store.save work.execution.copied).runOn turn.found.store).1

namespace Engine

variable {found other : Engine η} {work : Work} {execution : Execution}

/-- A record is saved alike within the same limit when the stores answer alike. -/
theorem persist_alike (options : other.options = found.options)
    (kept : ((Store.save execution.copied).runOn other.store).1 =
      ((Store.save execution.copied).runOn found.store).1) :
    ((persist execution).runOn other).1 = ((persist execution).runOn found).1 ∧
      ∃ events, ((persist execution).runOn other).2.trace = other.trace ++ events ∧
        ((persist execution).runOn found).2.trace = found.trace ++ events := by
  rw [persist, Effect.runOn_lift_bind, Effect.runOn_lift_bind]
  cases taken : execution.snapshot with
  | error f => exact ⟨rfl, [], by simp, by simp⟩
  | ok snapshot =>
    obtain ⟨-, rfl⟩ := Execution.snapshot_eq_ok.mp taken
    simp only [callStore_eq, save_eq, options, kept]
    cases found.options.persistTimeout.allowance with
    | error f => exact ⟨rfl, [], by simp, by simp⟩
    | ok allowance =>
      cases allowance with
      | nothing => exact ⟨rfl, [], by simp, by simp⟩
      | start => exact ⟨rfl, [_], rfl, rfl⟩
      | all =>
        cases ((Store.save execution.copied).runOn found.store).1 with
        | error f => exact ⟨rfl, [_], rfl, rfl⟩
        | ok _ => exact ⟨rfl, [_], rfl, rfl⟩

theorem begun_alike (now : other.now = found.now) (options : other.options = found.options)
    (work : Work) (step : Step) : other.begun work step = found.begun work step := by
  funext outset
  cases outset <;> simp only [begun, settledResult, attemptAt, now, options]

/-- A run goes on from a save, or baulks, as the time, the limits and a wish to stop it say. -/
theorem next_alike (running : work.execution.status = .running) (now : other.now = found.now)
    (options : other.options = found.options)
    (asked : other.ownership.isCancelRequested work.execution.id =
      found.ownership.isCancelRequested work.execution.id) :
    ((next work).runOn other).1 = ((next work).runOn found).1 := by
  obtain ⟨run, goes⟩ | ⟨f, baulks⟩ := goes_or_baulks found work
  · have same : other.Goes work run := by
      cases goes with
      | ended ends =>
        rw [← now]
        exact .ended ends
      | stopped left unhalted wished told =>
        rw [← now]
        exact .stopped left unhalted (asked.trans wished) told
      | @begins step later outset left unhalted unasked comes =>
        rw [← begun_alike now options]
        exact .begins left unhalted (asked.trans unasked) comes
    rw [next_of_goes running goes, next_of_goes running same]
  · have same : other.Baulks work f := by
      cases baulks with
      | untold left unhalted wished met => exact .untold left unhalted (asked.trans wished) met
      | unbegun left unhalted unasked met => exact .unbegun left unhalted (asked.trans unasked) met
    rw [next_of_baulks running baulks, next_of_baulks running same]

theorem failed_alike (now : other.now = found.now) (work : Work) (attempt : Attempt)
    (fault : Except Fault Fault) :
    other.failed work attempt fault = found.failed work attempt fault := by
  rw [failed, failed, now]

theorem answered_alike (now : other.now = found.now) (work : Work) (attempt : Attempt)
    (v : Value) : other.answered work attempt v = found.answered work attempt v := by
  simp only [answered, now]

theorem reach_alike (capabilities : other.capabilities = found.capabilities)
    (worksApart : other.worksApart = found.worksApart) (attempt : Attempt) :
    other.reach attempt = found.reach attempt := by
  rw [reach, reach, capabilities, worksApart]

end Engine

namespace Turn

open Engine

variable {turn other : Turn η}

/-- Turns that save alike and go on alike come to the same and note the same. -/
theorem Alike.after_of_saving {work : Work} {rest : PUnit → Effect (Engine η) (Run η)}
    (alike : turn.Alike other) (same : other.run = turn.run)
    (saving : turn.run.saving? = some work)
    (staged : stage turn.run = persist work.execution >>= rest)
    (still : ∀ engine, ((rest ⟨⟩).runOn engine).2 = engine)
    (goesOn : ∀ left left' : Engine η, left'.now = left.now → left'.options = left.options →
      left'.ownership.isCancelRequested work.execution.id =
        left.ownership.isCancelRequested work.execution.id →
      ((rest ⟨⟩).runOn left').1 = ((rest ⟨⟩).runOn left).1) :
    other.after.1 = turn.after.1 ∧ other.events = turn.events := by
  -- The saves come to the same, and what they leave differs in nothing that the rest looks at.
  have asked := alike.asked work (Run.work?_of_saving saving)
  obtain ⟨came, events, noted', noted⟩ := persist_alike alike.options (alike.kept work saving)
  obtain ⟨store, trace, left⟩ := persist_left work.execution turn.found
  obtain ⟨store', trace', left'⟩ := persist_left work.execution other.found
  have effects : ((stage turn.run).runOn other.found).1 = ((stage turn.run).runOn turn.found).1 ∧
      ((stage turn.run).runOn other.found).2.trace = other.found.trace ++ events ∧
      ((stage turn.run).runOn turn.found).2.trace = turn.found.trace ++ events := by
    rw [staged, Effect.runOn_bind, Effect.runOn_bind]
    generalize (persist work.execution).runOn other.found = saved' at came noted' left' ⊢
    generalize (persist work.execution).runOn turn.found = saved at came noted left ⊢
    obtain ⟨result', changed'⟩ := saved'
    obtain ⟨result, changed⟩ := saved
    dsimp only at came noted noted' left left'
    subst came
    cases result' with
    | error f => exact ⟨rfl, noted', noted⟩
    | ok _ =>
      dsimp only
      rw [still, still]
      subst left left'
      exact ⟨goesOn _ _ alike.now alike.options asked, noted', noted⟩
  obtain ⟨next, first, second⟩ := effects
  refine ⟨?_, ?_⟩
  · rw [Turn.after_of_saving (same ▸ saving), Turn.after_of_saving saving, conclude_run,
      conclude_run, same, next]
  · have own : turn.events = events := events_of_trace (by
      rw [Turn.after_of_saving saving, conclude_trace, second])
    rw [own]
    exact events_of_trace (by
      rw [Turn.after_of_saving (same ▸ saving), conclude_trace, same, first])

/-- Turns of one run on engines that look the same to it come to the same and note the same. -/
theorem Alike.after (alike : turn.Alike other) (same : other.run = turn.run)
    (sound : turn.run.IsSound) :
    other.after.1 = turn.after.1 ∧ other.events = turn.events := by
  obtain ⟨run, found, heard⟩ := turn
  obtain ⟨run', found', heard'⟩ := other
  dsimp only at same sound
  subst same
  have reached := reach_alike alike.capabilities alike.worksApart
  have unsaving (unsaved : run'.saving? = none) :
      Turn.events ⟨run', found', heard'⟩ = Turn.events ⟨run', found, heard⟩ := by
    rw [events_of_unsaving sound unsaved, events_of_unsaving sound unsaved]
    simp only [called, reached]
  obtain rfl : heard' = heard := alike.heard
  cases run' with
  | loading claimed => exact sound.elim
  | waiting work =>
    refine ⟨?_, unsaving rfl⟩
    change (conclude _ _ _).1 = (conclude _ _ _).1
    rw [conclude_run, conclude_run, stage, enter_eq, enter_eq, entering, entering,
      alike.held work rfl]
    dsimp only
    split <;> rfl
  | opening work =>
    refine alike.after_of_saving rfl rfl rfl (next_left ?_) fun left left' now options asked =>
      next_alike ?_ now options asked
    · exact sound
    · exact sound
  | dispatching work attempt input =>
    refine ⟨?_, unsaving rfl⟩
    change (conclude _ _ _).1 = (conclude _ _ _).1
    rw [conclude_run, conclude_run, stage, dispatch_eq sound.1, dispatch_eq sound.1, reached]
    cases found.reach attempt with
    | handler h => rfl
    | refused f => exact congrArg Run.orFault (failed_alike alike.now work attempt _)
    | late => exact congrArg Run.orFault (failed_alike alike.now work attempt _)
  | calling work attempt handler input =>
    refine ⟨?_, unsaving rfl⟩
    change (conclude _ _ _).1 = (conclude _ _ _).1
    rw [conclude_run, conclude_run, receive_eq sound.1, receive_eq sound.1]
    cases heard' with
    | returned v => exact congrArg Run.orFault (answered_alike alike.now work attempt v)
    | raised f => exact congrArg Run.orFault (failed_alike alike.now work attempt _)
    | expired => exact congrArg Run.orFault (failed_alike alike.now work attempt _)
  | recording work step result =>
    refine alike.after_of_saving rfl rfl rfl (fun engine => ?_)
      fun left left' now options asked => ?_
    · rw [Effect.runOn_lift_bind]
      cases meant : settle work step result with
      | error f => rfl
      | ok settled => exact next_left ((settle_running meant).trans sound) engine
    · rw [Effect.runOn_lift_bind, Effect.runOn_lift_bind]
      cases meant : settle work step result with
      | error f => rfl
      | ok settled =>
        rw [← (continues_settled meant).named] at asked
        exact next_alike ((settle_running meant).trans sound) now options asked
  | closing work =>
    exact alike.after_of_saving rfl rfl rfl (fun engine => rfl) fun left left' _ _ _ => rfl
  | finished result => exact ⟨rfl, unsaving rfl⟩

/-- A turn leaves the registered workflows alone. -/
theorem workflows_after (turn : Turn η) (sound : turn.run.IsSound) :
    turn.after.2.workflows = turn.found.workflows := by
  cases saving : turn.run.saving? with
  | some work =>
    obtain ⟨ownership, left⟩ := left_of_saving sound saving
    obtain ⟨store, trace, saved⟩ := persist_left work.execution turn.found
    rw [left, saved]
  | none =>
    obtain ⟨ownership, left⟩ := left_of_unsaving sound saving
    rw [left]

/-- The turn on the engine with other workflows. -/
def under (workflows : Workflows) (turn : Turn η) : Turn η :=
  { turn with found := { turn.found with workflows } }

/-- Other workflows are nothing that a run sees. -/
theorem alike_under (workflows : Workflows) (turn : Turn η) :
    turn.Alike (turn.under workflows) :=
  ⟨rfl, rfl, rfl, rfl, rfl, fun _ _ => rfl, fun _ _ => rfl, fun _ _ => rfl⟩

end Turn

/-! ## What a run keeps -/

/-- The run accounts for the steps of a workflow, on the input that it was given, and works by that
workflow. -/
structure Run.Keeps (workflow : Workflow) (input : Value) (run : Run η) : Prop where
  accounts : run.Accounts workflow.steps
  worksOn : run.WorksOn input
  workflow : ∀ work, run.work? = some work → work.workflow = workflow

theorem Run.Keeps.after {workflow : Workflow} {input : Value} {turn : Turn η}
    (keeps : turn.run.Keeps workflow input) (sound : turn.run.IsSound) :
    turn.after.1.Keeps workflow input := by
  obtain ⟨f, faults⟩ | advances := turn.advances_or_faults sound
  · rw [faults]
    exact ⟨⟨trivial, nofun⟩, nofun, nofun⟩
  · refine ⟨advances.accounts keeps.accounts, advances.worksOn keeps.worksOn, fun work comes => ?_⟩
    obtain ⟨before, stands, continues, -⟩ := advances.work_before sound comes
    exact continues.workflow.trans (keeps.workflow before stands)

/-! ## Along a course -/

/-- Between two turns nobody touches the registry. -/
def Untouched : Interim η := fun left turn => turn.found.workflows = left.workflows

namespace Course

variable {around around' : Interim η} {place place' final final' : Run η × Engine η}
  {turns others : List (Turn η)}

/-- Courses that begin with one run and are alike turn by turn go the same way. -/
theorem same_of_alike (course : Course around place turns final)
    (course' : Course around' place' others final') (begun : place'.1 = place.1)
    (sound : place.1.IsSound) (alike : List.Forall₂ Turn.Alike turns others) :
    others.map Turn.run = turns.map Turn.run ∧ others.map Turn.events = turns.map Turn.events ∧
      final'.1 = final.1 := by
  induction course generalizing place' others with
  | ended place =>
    cases alike
    cases course'
    exact ⟨rfl, rfl, begun⟩
  | @turned left turn turns final comes rest inductionHypothesis =>
    cases alike with
    | cons like later =>
      cases course' with
      | turned comes' rest' =>
        obtain ⟨onward, noted⟩ := like.after begun sound
        obtain ⟨runs, events, ended⟩ :=
          inductionHypothesis rest' onward (Turn.isSound_after sound) later
        exact ⟨List.cons_eq_cons.mpr ⟨begun, runs⟩, List.cons_eq_cons.mpr ⟨noted, events⟩, ended⟩

/-- Along a course every turn may find the workflows that there were before it. -/
theorem untouched (course : Course around place turns final) (sound : place.1.IsSound)
    {left : Engine η} {workflows : Workflows} (kept : left.workflows = workflows) :
    ∃ left', Course Untouched (place.1, left) (turns.map (Turn.under workflows))
      (final.1, left') := by
  induction course generalizing left with
  | ended place => exact ⟨left, .ended _⟩
  | @turned found turn turns final comes rest inductionHypothesis =>
    have onward := ((turn.alike_under workflows).after rfl sound).1
    -- The turn leaves the registry as it found it, so the next one finds the same workflows again.
    obtain ⟨left', later⟩ := inductionHypothesis (Turn.isSound_after sound)
      (Turn.workflows_after (turn.under workflows) sound)
    rw [← onward] at later
    exact ⟨left', .turned kept.symm later⟩

/-- Along a course a run keeps its definition and its input. -/
theorem keeps (course : Course around place turns final) {workflow : Workflow} {input : Value}
    (sound : place.1.IsSound) (begun : place.1.Keeps workflow input) :
    final.1.Keeps workflow input :=
  (Course.preserves (fun _ run _ => run.IsSound ∧ run.Keeps workflow input)
    (fun _ _ _ holds _ => ⟨Turn.isSound_after holds.1, holds.2.after holds.1⟩) course []
    ⟨sound, begun⟩).2

end Course

namespace Engine

variable {workflowId input : Value} {engine : Engine η} {workflow : Workflow}

/-- A run starts on the definition that is registered then. -/
theorem startExecution_keeps (input : Value)
    (registered : engine.workflows.get workflowId = .ok workflow) :
    (engine.start (startExecution workflowId input)).1.Keeps workflow input ∧
      (engine.start (startExecution workflowId input)).1.IsSound := by
  rcases started : engine.start (startExecution workflowId input) with ⟨run, left⟩
  obtain ⟨accounts, sound⟩ := startExecution_accounts registered started
  refine ⟨⟨accounts, startExecution_worksOn started, fun work stands => ?_⟩, sound⟩
  have onward : ∀ f, run ≠ .finished (.error f) := by
    rintro f rfl
    cases stands
  obtain ⟨other, given, lock, found, -, rfl | rfl⟩ := startExecution_ok started onward
  all_goals
    cases stands
    exact Except.ok.inj (found.symm.trans registered)

/-- Starting an execution leaves the registered workflows alone. -/
theorem startExecution_workflows (workflowId input : Value) (engine : Engine η) :
    (engine.start (startExecution workflowId input)).2.workflows = engine.workflows := by
  obtain ⟨f, issued, refused⟩ | ⟨-, -, ⟨f, undone⟩ |
    ⟨workflow, given, lock, ownership, -, -, -, begun⟩⟩ :=
    startExecution_cases workflowId input engine
  · rw [refused]
  · rw [undone]
    rfl
  · rw [begun]
    obtain same | held := entering_left _ (workOn engine.nextId lock workflow
      (engine.freshRecord workflow given))
    · rw [same]
    · rw [held]

/-- The run of an execution keeps the definition that was registered when it started, whatever
happens between its turns, calls on the registry among it. At every turn and at the end it accounts
for the steps of that definition, on its input and by that workflow. It is the run that there is
when nobody touches the registry: that run finds the same engines but for the workflows of the
start, hears the same, stands at every turn where this one stands, notes the same calls and
snapshots, and comes to the same. And so does every run that sees the same at each of its turns,
whatever else differs. -/
theorem execution_keeps_definition {around : Interim η} {turns : List (Turn η)}
    {final : Run η × Engine η} (registered : engine.workflows.get workflowId = .ok workflow)
    (course : Course around (engine.start (startExecution workflowId input)) turns final) :
    (∀ turn ∈ turns, turn.run.Keeps workflow input) ∧ final.1.Keeps workflow input ∧
    (∃ left, Course Untouched (engine.start (startExecution workflowId input))
      (turns.map (Turn.under engine.workflows)) (final.1, left)) ∧
    (∀ turn ∈ turns, (turn.under engine.workflows).events = turn.events) ∧
    ∀ (around' : Interim η) (others : List (Turn η)) (final' : Run η × Engine η),
      Course around' (engine.start (startExecution workflowId input)) others final' →
      List.Forall₂ Turn.Alike turns others →
      others.map Turn.run = turns.map Turn.run ∧ others.map Turn.events = turns.map Turn.events ∧
        final'.1 = final.1 := by
  obtain ⟨begun, sound⟩ := startExecution_keeps input registered
  refine ⟨fun turn member => ?_, course.keeps sound begun,
    course.untouched sound (startExecution_workflows workflowId input engine),
    fun turn member => ?_, fun _ _ _ course' alike => course.same_of_alike course' rfl sound alike⟩
  · obtain ⟨before, later, rfl⟩ := List.append_of_mem member
    obtain ⟨left, reached, -, -⟩ := course.split
    exact reached.keeps sound begun
  · obtain ⟨-, stands, -⟩ := execution_accounts registered course member
    exact ((turn.alike_under engine.workflows).after rfl stands).2

end Engine

namespace Letters

/-- The workflow under way is replaced by one without steps, and then taken back. -/
def meddling : List Registration :=
  [.register { workflow with steps := [] }, .unregister (.str "letters")]

/-- The handlers answer as they do, and make these calls before they answer. -/
def meddle : Behavior Bool := fun handler input engine =>
  ((behave handler input engine).1,
    { engine with workflows := engine.workflows.after meddling })

/-- The run goes on with both letters, as it does when nobody touches the registry. -/
theorem kept_by_meddled_run :
    let final := Engine.moves meddle 8 started.1 started.2
    final.2.workflows.ids.isEmpty = true ∧
    final.1.record?.any (fun record => record.results.length = 2) = true ∧
    final.1.Keeps workflow .null ∧
    ∃ left, Course Untouched started
      ((Engine.turnsOf meddle 8 started.1 started.2).map (Turn.under engine.workflows))
      (final.1, left) := by
  intro final
  obtain ⟨-, keeps, untouched, -⟩ := Engine.execution_keeps_definition registered
    (Engine.moves_course meddle 8 started.1 started.2)
  exact ⟨by decide +kernel, by decide +kernel, keeps, untouched⟩

end Letters

end Stepwise
