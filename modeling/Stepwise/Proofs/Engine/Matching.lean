import Stepwise.Proofs.Engine.Ledger
import Stepwise.Proofs.Engine.Tale

/-!
# Runs that match the tale

A run matches the tale of its scenario as long as its engine has the registries and limits of the
scenario and its handlers answer as the scenario says. What happens in between otherwise is of no
account: what time it is, what is stored, and what other runs do.
-/

namespace Stepwise

/-- The engine has the registries and limits of another one. -/
structure Engine.Agrees {η : Type} (engine other : Engine η) : Prop where
  workflows : engine.workflows = other.workflows
  capabilities : engine.capabilities = other.capabilities
  options : engine.options = other.options
  worksApart : engine.worksApart = other.worksApart

/-- The turn is as the scenario has it: on an engine with its registries and limits, and with its
answer when the run waits for one. -/
structure Scenario.Fits {η : Type} (scenario : Scenario η) (turn : Turn η) : Prop where
  agrees : turn.found.Agrees scenario.engine
  answers : ∀ work attempt handler input, turn.run = .calling work attempt handler input →
    turn.heard = scenario.answer handler input

/-- An attempt under way is the one that the scenario makes, and so is the handler it has
reached. -/
def Scenario.IsApt {η : Type} (scenario : Scenario η) : Run η → Prop
  | .dispatching _ attempt _ =>
    attempt.limit = (scenario.engine.attemptAt attempt.step).limit
  | .calling _ attempt handler _ =>
    attempt.limit = (scenario.engine.attemptAt attempt.step).limit ∧
      scenario.engine.reach (scenario.engine.attemptAt attempt.step) = .handler handler
  | _ => True

/-- The run follows its workflow, and its record matches the tale. -/
structure Run.Matches {η : Type} (scenario : Scenario η) (run : Run η) : Prop where
  follows : run.Follows scenario.workflow.steps
  apt : scenario.IsApt run
  tells : ∀ execution, run.execution? = some execution → scenario.Matches execution

namespace Engine

variable {η : Type} {engine other : Engine η} {attempt : Attempt} {fault : Except Fault Fault}

/-- Where a dispatch leads is for the step, its limit and the registries to say. -/
theorem reach_of_agrees (agrees : engine.Agrees other)
    (limit : attempt.limit = (other.attemptAt attempt.step).limit) :
    engine.reach attempt = other.reach (other.attemptAt attempt.step) := by
  unfold reach
  rw [agrees.capabilities, agrees.worksApart, limit]
  rfl

theorem expiry_of_limit (limit : attempt.limit = (other.attemptAt attempt.step).limit) :
    expiry attempt = expiry (other.attemptAt attempt.step) := by
  unfold expiry
  rw [limit]
  rfl

/-- A record that is saved leaves the registries and limits as they were. -/
theorem Saves.agrees {left : Engine η} {execution : Execution}
    (saved : engine.Saves execution left) (agrees : engine.Agrees other) :
    left.Agrees other := by
  obtain ⟨-, store, -, rfl⟩ := saved.kept
  exact ⟨agrees.workflows, agrees.capabilities, agrees.options, agrees.worksApart⟩

end Engine

namespace Scenario

variable {η : Type} {scenario : Scenario η} {turn : Turn η} {attempt : Attempt}
  {outputs resolved : Value} {fault : Except Fault Fault} {result : StepResult}

/-- The scenario makes the same failure of its own attempt. -/
theorem failing_of_failure {now : Moment} (failed : attempt.failure fault now = .ok result)
    (outputs : Value) :
    ∃ made, scenario.failing attempt.step outputs fault = .ok made ∧
      essential (outputs, result) = essential made := by
  have step : attempt.step = (scenario.engine.attemptAt attempt.step).step := rfl
  obtain ⟨own, again, same⟩ := Attempt.failure_again step failed scenario.engine.now
  refine ⟨(outputs, own), by rw [failing, again]; rfl, ?_⟩
  rw [essential, essential, same]

/-- A dispatch that misses its handler misses it in the scenario. -/
theorem reply_of_missed (fits : scenario.Fits turn)
    (limit : attempt.limit = (scenario.engine.attemptAt attempt.step).limit)
    (missed : attempt.Missed (turn.found.reach attempt) fault) :
    scenario.reply attempt.step outputs resolved =
      scenario.failing attempt.step outputs fault := by
  rw [Engine.reach_of_agrees fits.agrees limit] at missed
  unfold reply
  generalize scenario.engine.reach _ = reached at missed
  cases missed with
  | refused f => rfl
  | late => rw [Engine.expiry_of_limit limit]

/-- An attempt that comes to no value comes to none in the scenario. -/
theorem reply_of_faultOf {handler : η}
    (limit : attempt.limit = (scenario.engine.attemptAt attempt.step).limit)
    (reached : scenario.engine.reach (scenario.engine.attemptAt attempt.step) = .handler handler)
    (caused : attempt.FaultOf (scenario.answer handler resolved) fault) :
    scenario.reply attempt.step outputs resolved =
      scenario.failing attempt.step outputs fault := by
  unfold reply
  rw [reached]
  dsimp only
  generalize scenario.answer handler resolved = answer at caused
  cases caused with
  | raised f => rfl
  | expired => rw [Engine.expiry_of_limit limit]

/-- A step is settled as its outset says, on any copy of the input. -/
theorem perform_settled {step : Step} {input : Value} {status : StepStatus}
    {error : Option StepError} (begins : input.original = scenario.given.original)
    (comes : step.outset outputs input = .ok (.settled status error)) :
    scenario.perform step outputs =
      .ok (outputs, scenario.engine.settledResult step status error) := by
  rw [Step.outset_of_original rfl begins] at comes
  rw [perform, comes]
  rfl

theorem perform_sent {step : Step} {input : Value}
    (begins : input.original = scenario.given.original)
    (comes : step.outset outputs input = .ok (.sent resolved)) :
    scenario.perform step outputs = scenario.reply step outputs resolved := by
  rw [Step.outset_of_original rfl begins] at comes
  rw [perform, comes]
  rfl

end Scenario

/-! ## Along a course -/

namespace Engine

variable {η : Type} {scenario : Scenario η} {engine : Engine η} {work : Work} {next : Run η}

/-- A run that goes on from a save goes on with the tale. -/
theorem Goes.matching (goes : engine.Goes work next) (regular : scenario.IsRegular)
    (agrees : engine.Agrees scenario.engine) (rest : work.AtRest scenario.workflow.steps)
    (tells : scenario.Matches work.execution) : next.Matches scenario := by
  refine ⟨goes.follows rest, ?_, ?_⟩
  · cases goes with
    | ended ends => trivial
    | stopped left unhalted asked told => trivial
    | @begins step later outset left unhalted unasked comes =>
      cases outset with
      | settled status error => trivial
      | sent input =>
        change step.timeout.orElse engine.options.stepTimeout = _
        rw [agrees.options]
        rfl
  · intro execution come
    cases goes with
    | ended ends =>
      cases come
      exact ⟨tells.begins, tells.told⟩
    | stopped left unhalted asked told =>
      cases come
      exact ⟨tells.begins, tells.told⟩
    | @begins step later outset left unhalted unasked comes =>
      cases outset with
      | sent input =>
        cases come
        exact tells
      | settled status error =>
        cases come
        exact tells.add regular (next_of_left rest.left left)
          (Scenario.perform_settled tells.begins comes) rfl

/-- So does a run with a failed attempt that the scenario replies with. -/
theorem failed_matching {attempt : Attempt} {resolved : Value} {fault : Except Fault Fault}
    (regular : scenario.IsRegular)
    (underWay : work.UnderWay scenario.workflow.steps attempt.step resolved)
    (tells : scenario.Matches work.execution)
    (replies : scenario.reply attempt.step work.execution.outputs resolved =
      scenario.failing attempt.step work.execution.outputs fault)
    (made : engine.failed work attempt fault = .ok next) : next.Matches scenario := by
  have follows := failed_follows underWay made
  obtain ⟨result, recorded, rfl⟩ := failed_ok made
  obtain ⟨own, again, same⟩ := Scenario.failing_of_failure recorded work.execution.outputs
  refine ⟨follows, trivial, ?_⟩
  rintro _ ⟨⟩
  refine tells.add regular underWay.next ?_ same
  rw [Scenario.perform_sent tells.begins underWay.comes, replies, again]

/-- And one with the value that the scenario answers. -/
theorem answered_matching {attempt : Attempt} {handler : η} {resolved v : Value}
    (regular : scenario.IsRegular)
    (underWay : work.UnderWay scenario.workflow.steps attempt.step resolved)
    (tells : scenario.Matches work.execution)
    (reached : scenario.engine.reach (scenario.engine.attemptAt attempt.step) = .handler handler)
    (returned : scenario.answer handler resolved = .returned v)
    (made : engine.answered work attempt v = .ok next) : next.Matches scenario := by
  have follows := answered_follows underWay made
  obtain ⟨outputs, bound, rfl⟩ := answered_ok made
  refine ⟨follows, trivial, ?_⟩
  rintro _ ⟨⟩
  have performed : scenario.perform attempt.step work.execution.outputs =
      .ok (outputs, StepResult.success attempt.step.id v scenario.engine.now
        scenario.engine.now) := by
    rw [Scenario.perform_sent tells.begins underWay.comes, Scenario.reply, reached]
    simp only [returned, bound]
    rfl
  exact tells.add regular underWay.next performed rfl

end Engine

/-- Every turn of a scenario goes on with the tale. -/
theorem Advances.matching {η : Type} {scenario : Scenario η} {turn : Turn η} {next : Run η}
    {left : Engine η} (advances : Advances turn.found turn.heard turn.run next left)
    (regular : scenario.IsRegular) (fits : scenario.Fits turn)
    (tells : turn.run.Matches scenario) : next.Matches scenario := by
  obtain ⟨run, found, heard⟩ := turn
  dsimp only at advances tells
  obtain ⟨follows, apt, tells⟩ := tells
  cases advances with
  | waits held => exact ⟨follows, apt, tells⟩
  | enters free => exact ⟨follows, trivial, tells⟩
  | opens saved goes => exact goes.matching regular (saved.agrees fits.agrees) follows (tells _ rfl)
  | @calls work attempt input handler reached =>
    rw [Engine.reach_of_agrees fits.agrees apt] at reached
    exact ⟨follows, ⟨apt, reached⟩, tells⟩
  | misses missed made =>
    exact Engine.failed_matching regular follows (tells _ rfl)
      (Scenario.reply_of_missed fits apt missed) made
  | @answers work attempt handler input v next returned made =>
    have answered := fits.answers work attempt handler input rfl
    exact Engine.answered_matching regular follows (tells _ rfl) apt.2
      (answered.symm.trans returned) made
  | @fails work attempt handler input fault next caused made =>
    have answered : heard = scenario.answer handler input :=
      fits.answers work attempt handler input rfl
    rw [answered] at caused
    exact Engine.failed_matching regular follows (tells _ rfl)
      (Scenario.reply_of_faultOf apt.1 apt.2 caused) made
  | records saved meant goes =>
    have rest := Engine.settle_atRest follows meant
    obtain ⟨halted, error, rfl⟩ := Engine.settle_ok meant
    obtain ⟨begins, told⟩ := tells _ rfl
    exact goes.matching regular (saved.agrees fits.agrees) rest ⟨begins, told⟩
  | closes saved => exact ⟨follows, trivial, tells⟩
  | rests result => exact ⟨follows, apt, tells⟩

/-- Along a course of the scenario, a run matches the tale. -/
theorem Course.matching {η : Type} {scenario : Scenario η} {place final : Run η × Engine η}
    {turns : List (Turn η)} (course : Course (fun _ turn => scenario.Fits turn) place turns final)
    (regular : scenario.IsRegular) (tells : place.1.Matches scenario) (sound : place.1.IsSound) :
    final.1.Matches scenario ∧ final.1.IsSound := by
  refine Course.preserves (fun _ run _ => run.Matches scenario ∧ run.IsSound) ?_ course []
    ⟨tells, sound⟩
  rintro past left turn ⟨tells, sound⟩ fits
  obtain ⟨f, faults⟩ | advances := turn.advances_or_faults sound
  · rw [faults]
    exact ⟨⟨trivial, trivial, nofun⟩, trivial⟩
  · exact ⟨advances.matching regular fits tells, advances.sound sound⟩

end Stepwise
