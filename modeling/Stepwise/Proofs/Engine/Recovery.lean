import Stepwise.Proofs.Engine.Interruption
import Stepwise.Proofs.Engine.Return
import Stepwise.Proofs.Engine.Verdict

/-!
# Recovery after interruptions

Two records of one scenario that have come to their ends without anybody asking have the same
results, for neither can be shorter: where the longer one goes on, the shorter one would have to be
stopped by a result that they share. A run that takes up an interrupted execution cannot meet a
fault of its own either, as long as its saves and its load succeed: every step before it comes to
something in the whole run, and to the same here. So it comes to a record that says what the record
of the whole run says.
-/

namespace Stepwise

variable {η : Type}

/-- A record that has come to its end with the tale, and nobody asked it to stop. -/
structure Scenario.Completes (scenario : Scenario η) (record : Execution) : Prop where
  concluded : record.Concluded scenario.workflow.steps
  tells : scenario.Matches record
  uncanceled : record.status ≠ .canceled

/-- Results in the same place of two records that match the tale are essentially the same. -/
theorem Scenario.Matches.essence_eq {scenario : Scenario η} {record other : Execution}
    (tells : scenario.Matches record) (also : scenario.Matches other)
    (fits : record.results.length ≤ scenario.workflow.steps.length)
    (within : other.results.length ≤ scenario.workflow.steps.length) {place : Nat}
    {result counterpart : StepResult} (present : record.results[place]? = some result)
    (there : other.results[place]? = some counterpart) : result.essence = counterpart.essence := by
  obtain ⟨-, told, tale, -, results⟩ := tells
  obtain ⟨-, told', tale', -, results'⟩ := also
  obtain ⟨inside, -⟩ := List.getElem?_eq_some_iff.mp present
  obtain ⟨inside', -⟩ := List.getElem?_eq_some_iff.mp there
  obtain ⟨before, earlier, first⟩ := Scenario.tale_take (Nat.succ_le_of_lt inside) fits tale
  obtain ⟨before', earlier', first'⟩ := Scenario.tale_take (Nat.succ_le_of_lt inside') within tale'
  obtain rfl : before = before' := Except.ok.inj (earlier.symm.trans earlier')
  have common : told.2[place]? = told'.2[place]? := by
    rw [← List.getElem?_take_of_lt (Nat.lt_succ_self place), ← first, first',
      List.getElem?_take_of_lt (Nat.lt_succ_self place)]
  have own := congrArg (fun results => results[place]?) results
  have own' := congrArg (fun results => results[place]?) results'
  simp only [List.getElem?_map, present, there, Option.map_some, common] at own own'
  exact Option.some.inj (own.trans own'.symm)

namespace Scenario.Completes

variable {scenario : Scenario η} {record other : Execution}

/-- What stops one of two runs in a place stops the other one there. -/
theorem stops (completes : scenario.Completes record) (also : scenario.Matches other)
    (within : other.results.length ≤ scenario.workflow.steps.length) {place : Nat} {step : Step}
    {result counterpart : StepResult} (present : record.results[place]? = some result)
    (there : other.results[place]? = some counterpart) (stops : step.Stops result) :
    step.Stops counterpart := by
  have same := completes.tells.essence_eq also completes.concluded.fits within present there
  have status := congrArg StepResult.status same
  change result.status = counterpart.status at status
  exact ⟨status ▸ stops.1, stops.2⟩

/-- Where nothing has stopped a run so far and steps are left, the whole run has got further: what
stopped it would have stopped the other one too. -/
theorem lt_of_unstopped (completes : scenario.Completes record) (also : scenario.Matches other)
    (within : other.results.length ≤ scenario.workflow.steps.length) {count : Nat}
    (covers : count ≤ other.results.length) (short : count < scenario.workflow.steps.length)
    (unstopped : Unstopped scenario.workflow.steps (other.results.take count)) :
    count < record.results.length := by
  by_cases more : count < record.results.length
  · exact more
  · obtain ⟨stopped, -⟩ | ⟨-, -, canceled⟩ | ⟨-, whole, -⟩ := completes.concluded.verdict
    · obtain ⟨place, step, result, counted, there, present, stops⟩ := stopped
      have listed := List.getElem?_eq_getElem (l := other.results) (i := place) (by omega)
      have again := completes.stops also within present listed stops
      rw [← List.getElem?_take_of_lt (show place < count by omega)] at listed
      exact absurd again (unstopped place step _ there listed)
    · exact absurd canceled completes.uncanceled
    · omega

/-- Of two complete records neither has more results. -/
theorem length_le (completes : scenario.Completes record) (also : scenario.Completes other) :
    other.results.length ≤ record.results.length := by
  by_cases shorter : record.results.length < other.results.length
  · obtain ⟨stopped, -⟩ | ⟨-, -, canceled⟩ | ⟨-, whole, -⟩ := completes.concluded.verdict
    · obtain ⟨place, step, result, counted, there, present, stops⟩ := stopped
      have listed := List.getElem?_eq_getElem (l := other.results) (i := place) (by omega)
      have again := completes.stops also.tells also.concluded.fits present listed stops
      exact absurd again (also.concluded.not_stops (by omega) there listed)
    · exact absurd canceled completes.uncanceled
    · have fits := also.concluded.fits
      omega
  · omega

/-- Every step that the whole run has got over comes to something on any outputs that match. -/
theorem performs (completes : scenario.Completes record) (regular : scenario.IsRegular)
    (also : scenario.Matches other) (shorter : other.results.length < record.results.length)
    {step : Step} (next : scenario.workflow.steps[other.results.length]? = some step) :
    ∃ made, scenario.perform step other.outputs = .ok made := by
  obtain ⟨-, told, tale, -⟩ := completes.tells
  obtain ⟨-, told', tale', outputs, -⟩ := also
  obtain ⟨before, made, earlier, performed, -⟩ :=
    Scenario.tale_at shorter completes.concluded.fits tale next
  obtain rfl : told' = before := Except.ok.inj (tale'.symm.trans earlier)
  obtain ⟨entries, mapped, apart⟩ := regular.names_apart next earlier
  have alike := scenario.perform_of_original (outputs.trans (by rw [mapped])) apart
  rw [← mapped, performed] at alike
  obtain ⟨own, comes, -⟩ := Result.map_ok alike
  exact ⟨own, comes⟩

end Scenario.Completes

/-! ## Getting over every turn -/

/-- A failure that the scenario records can be recorded at any time. -/
theorem Engine.failed_of_failing {scenario : Scenario η} {attempt : Attempt} {outputs : Value}
    {fault : Except Fault Fault} {made : Value × StepResult} (engine : Engine η) (work : Work)
    (failing : scenario.failing attempt.step outputs fault = .ok made) :
    ∃ next, engine.failed work attempt fault = .ok next := by
  obtain ⟨result, recorded, -⟩ := Result.map_ok failing
  have step : (scenario.engine.attemptAt attempt.step).step = attempt.step := rfl
  obtain ⟨own, again, -⟩ := Attempt.failure_again step recorded engine.now
  exact ⟨_, by rw [failed, again]; rfl⟩

namespace Scenario.Completes

variable {scenario : Scenario η} {record : Execution} {work : Work} {engine : Engine η}

/-- A run that is not asked to stop goes on from every save. -/
theorem goes (completes : scenario.Completes record) (regular : scenario.IsRegular)
    (rest : work.AtRest scenario.workflow.steps) (tells : scenario.Matches work.execution)
    (unasked : engine.ownership.isCancelRequested work.execution.id = false) :
    ∃ next, engine.Goes work next := by
  obtain goes | ⟨f, baulks⟩ := Engine.goes_or_baulks engine work
  · exact goes
  · cases baulks with
    | untold left unhalted asked met =>
      rw [unasked] at asked
      cases asked
    | unbegun left unhalted _ met =>
      have next := Engine.next_of_left rest.left left
      have unstopped := unstopped_of_last rest.earlier (mt rest.halted.mpr (by simp [unhalted]))
      have short := (List.getElem?_eq_some_iff.mp next).1
      obtain ⟨made, performed⟩ := completes.performs regular tells
        (completes.lt_of_unstopped tells rest.fits (Nat.le_refl _) short
          (by rwa [List.take_length])) next
      rw [Step.outset_of_original rfl tells.begins] at met
      rw [Scenario.perform, met] at performed
      cases performed

/-- The step under way has a reply in the scenario. -/
theorem replies (completes : scenario.Completes record) (regular : scenario.IsRegular)
    {step : Step} {resolved : Value}
    (underWay : work.UnderWay scenario.workflow.steps step resolved)
    (tells : scenario.Matches work.execution) :
    ∃ made, scenario.reply step work.execution.outputs resolved = .ok made := by
  have short := (List.getElem?_eq_some_iff.mp underWay.next).1
  have unstopped := underWay.unstopped
  obtain ⟨made, performed⟩ := completes.performs regular tells
    (completes.lt_of_unstopped tells (Nat.le_of_lt short) (Nat.le_refl _) short
      (by rwa [List.take_length])) underWay.next
  rw [Scenario.perform_sent tells.begins underWay.comes] at performed
  exact ⟨made, performed⟩

/-- An output that was recorded last can be copied, since the whole run could copy it. -/
theorem copyable_output (completes : scenario.Completes record)
    (copyable : record.obstacle? = none) {step : Step} {result : StepResult}
    (withResult : work.WithResult scenario.workflow.steps step result)
    (tells : scenario.Matches work.execution) : result.output.obstacle? = none := by
  obtain ⟨place, counted, there, present⟩ := withResult.last
  have inside := (List.getElem?_eq_some_iff.mp there).1
  have shorter : place < record.results.length := by
    refine completes.lt_of_unstopped tells (by omega) (by omega) inside ?_
    have earlier := withResult.earlier
    rwa [show work.execution.results.length - 1 = place by omega] at earlier
  have listed := List.getElem?_eq_getElem shorter
  have same := completes.tells.essence_eq tells completes.concluded.fits (by omega) listed present
  have original := congrArg StepResult.output same
  change record.results[place].output.original = result.output.original at original
  refine Value.obstacle?_eq_none_of_original original ?_
  have whole := (Execution.obstacle?_eq_none.mp copyable).2.2.2.2.1 _ (List.getElem_mem shorter)
  simp only [StepResult.obstacle?, Option.orElse_eq_orElse, Option.orElse_eq_or,
    Option.or_eq_none_iff] at whole
  exact whole.2.1

end Scenario.Completes

/-- A run that carries an execution of which a whole run is known gets over every turn, provided
that the store keeps what it is given and nobody asks the run to stop. -/
theorem Turn.advances_of_completes {scenario : Scenario η} {id : String} {turn : Turn η}
    {record : Execution} (completes : scenario.Completes record)
    (copyable : record.obstacle? = none) (regular : scenario.IsRegular)
    (fits : scenario.Fits turn) (carries : turn.run.Carries scenario id)
    (clean : turn.run.IsClean) (kept : turn.IsKept)
    (unasked : turn.found.ownership.isCancelRequested (.str id) = false) :
    ∃ next left, Advances turn.found turn.heard turn.run next left := by
  obtain ⟨run, found, heard⟩ := turn
  obtain ⟨sound, ⟨follows, apt, tells⟩, on⟩ := carries
  dsimp only at sound follows apt tells on clean unasked ⊢
  cases run with
  | loading claimed => exact sound.elim
  | waiting work => exact clean.elim
  | opening work =>
    obtain ⟨left, saved⟩ := kept.saves (.inl rfl) clean.copyable
    have still : left.ownership.isCancelRequested work.execution.id = false := by
      rw [saved.ownership, (on _ rfl).1.named]
      exact unasked
    have rest : work.opened.AtRest scenario.workflow.steps := follows
    obtain ⟨next, goes⟩ := completes.goes regular rest (tells _ rfl) still
    exact ⟨next, left, .opens saved goes⟩
  | dispatching work attempt resolved =>
    obtain ⟨made, replied⟩ := completes.replies regular follows (tells _ rfl)
    obtain ⟨handler, reached⟩ | ⟨fault, missed⟩ := attempt.reaches_or_missed (found.reach attempt)
    · exact ⟨_, _, .calls reached⟩
    · rw [Scenario.reply_of_missed fits apt missed] at replied
      obtain ⟨next, failed⟩ := Engine.failed_of_failing found work replied
      exact ⟨next, found, .misses missed failed⟩
  | calling work attempt handler resolved =>
    obtain ⟨made, replied⟩ := completes.replies regular follows (tells _ rfl)
    have answers : heard = scenario.answer handler resolved :=
      fits.answers work attempt handler resolved rfl
    obtain ⟨v, returned⟩ | ⟨fault, caused⟩ := attempt.returned_or_faultOf heard
    · rw [Scenario.reply, apt.2] at replied
      simp only [← answers, returned] at replied
      obtain ⟨outputs, bound, -⟩ := Result.map_ok replied
      exact ⟨_, found, .answers returned (by rw [Engine.answered, bound]; rfl)⟩
    · rw [Scenario.reply_of_faultOf apt.1 apt.2 (answers ▸ caused)] at replied
      obtain ⟨next, failed⟩ := Engine.failed_of_failing found work replied
      exact ⟨next, found, .fails caused failed⟩
  | recording work step result =>
    have output := completes.copyable_output copyable follows (tells _ rfl)
    obtain ⟨fit, -, whole, settled, meant⟩ := clean
    obtain ⟨left, saved⟩ := kept.saves (.inr (.inl ⟨step, result, rfl⟩)) (whole.mpr output)
    have rest := Engine.settle_atRest follows meant
    obtain ⟨begins, told⟩ := tells _ rfl
    have still : left.ownership.isCancelRequested work.execution.id = false := by
      rw [saved.ownership, (on _ rfl).1.named]
      exact unasked
    obtain ⟨halted, error, rfl⟩ := Engine.settle_ok meant
    obtain ⟨next, goes⟩ := completes.goes regular rest ⟨begins, told⟩ still
    exact ⟨next, left, .records saved meant goes⟩
  | closing work =>
    obtain ⟨left, saved⟩ := kept.saves (.inr (.inr rfl)) clean
    exact ⟨_, _, .closes saved⟩
  | finished result => exact ⟨_, _, .rests result⟩

/-- A run that nobody asks to stop is not canceled. -/
theorem Advances.uncanceled {scenario : Scenario η} {id : String} {found left : Engine η}
    {heard : Outcome} {run next : Run η} (advances : Advances found heard run next left)
    (sound : run.IsSound) (on : run.IsOn scenario id)
    (unasked : found.ownership.isCancelRequested (.str id) = false)
    (before : ∀ execution, run.execution? = some execution → execution.status ≠ .canceled)
    {execution : Execution} (come : next.execution? = some execution) :
    execution.status ≠ .canceled := by
  have running {place : Execution} (stands : place.status = .running) :
      place.status ≠ .canceled := by
    rw [stands]
    decide
  have going {engine : Engine η} {work : Work} (goes : engine.Goes work next)
      (stands : work.execution.status = .running) (named : work.execution.id = .str id)
      (same : engine.ownership = found.ownership) : execution.status ≠ .canceled := by
    cases goes with
    | ended ends =>
      cases come
      exact (work.execution.finalStatus_cases work.halted).1
    | stopped left unhalted asked told =>
      rw [same, named, unasked] at asked
      cases asked
    | @begins step later outset left unhalted unasked' comes =>
      cases outset <;> cases come <;> exact running stands
  cases advances with
  | waits held => exact before _ come
  | enters free => exact before _ come
  | opens saved goes => exact going goes sound (on _ rfl).1.named saved.ownership
  | calls reached => exact before _ come
  | misses missed made =>
    obtain ⟨result, -, rfl⟩ := Engine.failed_ok made
    cases come
    exact running sound.1
  | answers returned made =>
    obtain ⟨outputs, -, rfl⟩ := Engine.answered_ok made
    cases come
    exact running sound.1
  | fails caused made =>
    obtain ⟨result, -, rfl⟩ := Engine.failed_ok made
    cases come
    exact running sound.1
  | records saved meant goes =>
    have stands := (Engine.settle_running meant).trans sound
    obtain ⟨halted, error, rfl⟩ := Engine.settle_ok meant
    exact going goes stands (on _ rfl).1.named saved.ownership
  | closes saved => exact before _ come
  | rests result => exact before _ come

end Stepwise
