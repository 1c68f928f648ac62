import Stepwise.Proofs.Engine.Clean
import Stepwise.Proofs.Store.Holding

/-!
# Escaping or advancing

A turn of a clean run, whose record the store keeps whenever it is given one, lets a fault escape
in one of the listed cases or advances, and never both. A turn that advances adds what went wrong
in it to the record, on the result of the step that it was met in, and takes nothing away.
-/

namespace Stepwise

namespace Engine

variable {η : Type}

/-- A fault with a text leads to one that can be recorded. -/
theorem dispatchFault_hasText (step : Step) {f : Fault} (told : f.HasText) :
    ∃ g, dispatchFault step f = .ok g ∧ g.HasText := by
  unfold dispatchFault
  split
  · exact ⟨_, rfl, told⟩
  · exact ⟨_, rfl, told⟩
  · exact ⟨_, rfl, told⟩
  · obtain ⟨reason, told⟩ := told
    refine ⟨Fault.raised (.actionFailed step.agent step.action reason (some f.kind) none), ?_,
      Fault.raised_hasText _⟩
    rw [told]
    rfl

/-- A handler's fault has a text by the time it is dispatched, unless it is the failure of an
action and the handler could not tell it. -/
theorem ofHandler_hasText (agent action : Value) {f : Fault}
    (told : ∀ agent action reason wrapped cause,
      f = .actionFailed agent action reason wrapped cause → f.HasText) :
    (Fault.ofHandler agent action f).HasText := by
  unfold Fault.ofHandler
  split
  · exact told _ _ _ _ _ rfl
  · dsimp only
    split
    · exact Fault.raised_hasText _
    · rename_i met failed
      exact (Fault.text_error failed).hasText

/-- A dispatch is refused for a limit that cannot be counted or for want of a handler, and both
can be told. -/
theorem refused_hasText {engine : Engine η} {attempt : Attempt} {f : Fault}
    (reached : engine.reach attempt = .refused f) : f.HasText := by
  unfold reach at reached
  split at reached
  · rename_i g uncounted
    cases reached
    exact (Value.allowance_error uncounted).hasText
  · cases reached
  · split at reached
    · rename_i g unfound
      cases reached
      exact Capabilities.handler_error unfound
    · split at reached <;> cases reached

theorem expiry_hasText {attempt : Attempt} {told : String}
    (limit : attempt.limit.text = .ok told) : ∃ f, expiry attempt = .ok f ∧ f.HasText := by
  refine ⟨Fault.raised (.actionFailed attempt.step.agent attempt.step.action
    s!"timed out after {told}s" none none), ?_, Fault.raised_hasText _⟩
  rw [expiry, limit]
  rfl

theorem failed_of_hasText (engine : Engine η) (work : Work) (attempt : Attempt)
    {fault : Except Fault Fault} (told : ∃ f, fault = .ok f ∧ f.HasText) :
    ∃ next, engine.failed work attempt fault = .ok next := by
  obtain ⟨f, rfl, told⟩ := told
  obtain ⟨result, made⟩ := attempt.failure_of_hasText told engine.now
  exact ⟨_, by rw [failed, made]; rfl⟩

end Engine

namespace Turn

variable {η : Type} {turn : Turn η}

open Engine

theorem IsKept.saves (kept : turn.IsKept) {work : Work}
    (about : turn.run = .opening work ∨ (∃ step result, turn.run = .recording work step result) ∨
      turn.run = .closing work)
    (free : work.execution.obstacle? = none) :
    ∃ left, turn.found.Saves work.execution left := by
  have taken := Execution.snapshot_eq_ok.mpr ⟨free, rfl⟩
  obtain ⟨left, called⟩ := kept work _ about taken
  refine ⟨left, ?_⟩
  rw [Saves, persist, taken, Effect.runOn_lift_bind]
  exact called

/-- Whoever is barred is barred by the ownership, which a save leaves alone. -/
theorem isBarred_of_ownership {work : Work} {engine other : Engine η}
    (same : engine.ownership = other.ownership) (bar : work.IsBarred engine) :
    work.IsBarred other := by
  rw [Work.IsBarred, same] at bar
  exact bar

/-- Work that is not barred goes on from a save. -/
theorem goes_of_not_escapes (safe : ¬ turn.Escapes) {work : Work} {left : Engine η}
    (ahead : turn.ahead? = some work) (same : left.ownership = turn.found.ownership)
    (fit : ∀ step ∈ work.remaining, step.IsFit) : ∃ next, left.Goes work next := by
  obtain goes | baulks := goes_or_baulks left work
  · exact goes
  · have bar := isBarred_of_ownership same ((baulks_iff fit).mp baulks)
    exact absurd (.barred ahead bar) safe

/-- What is recorded for a dispatch without a handler can be told, unless it escapes. -/
theorem told_of_missed {work : Work} {attempt : Attempt} {input : Value} {found : Engine η}
    {heard : Outcome} {fault : Except Fault Fault}
    (safe : ¬ Escapes ⟨.dispatching work attempt input, found, heard⟩)
    (missed : attempt.Missed (found.reach attempt) fault) : ∃ f, fault = .ok f ∧ f.HasText := by
  generalize reached : found.reach attempt = reach at missed
  cases missed with
  | refused f => exact dispatchFault_hasText attempt.step (refused_hasText reached)
  | late =>
    cases limit : attempt.limit.text with
    | error f => exact absurd (.late reached limit) safe
    | ok told => exact expiry_hasText limit

/-- What is recorded for a handler without a value can be told, unless it escapes. -/
theorem told_of_faultOf {work : Work} {attempt : Attempt} {handler : η} {input : Value}
    {found : Engine η} {heard : Outcome} {fault : Except Fault Fault}
    (safe : ¬ Escapes ⟨.calling work attempt handler input, found, heard⟩)
    (caused : attempt.FaultOf heard fault) : ∃ f, fault = .ok f ∧ f.HasText := by
  cases caused with
  | raised f =>
    refine dispatchFault_hasText attempt.step (ofHandler_hasText _ _ ?_)
    rintro agent action reason wrapped cause rfl
    cases formed : (Fault.actionFailed agent action reason wrapped cause).text with
    | ok message => exact ⟨message, formed⟩
    | error g => exact absurd (.untold formed) safe
  | expired =>
    cases limit : attempt.limit.text with
    | error f => exact absurd (.expired limit) safe
    | ok told => exact expiry_hasText limit

/-- An output is bound to its name, unless the name is no key and the fault escapes. -/
theorem bound_of_not_escapes {work : Work} {attempt : Attempt} {handler : η} {input v : Value}
    {found : Engine η}
    (safe : ¬ Escapes ⟨.calling work attempt handler input, found, .returned v⟩)
    (mapped : ∃ entries, work.execution.outputs = .map entries) :
    ∃ outputs, attempt.step.bound work.execution.outputs v = .ok outputs := by
  obtain ⟨entries, mapped⟩ := mapped
  unfold Step.bound
  by_cases named : attempt.step.output.truthy = true
  · rw [if_pos named, mapped, Value.assign]
    cases key : attempt.step.output.hashable with
    | ok _ => exact ⟨_, rfl⟩
    | error f => exact absurd (.unbound named key) safe
  · exact ⟨_, if_neg named⟩

/-- A turn that lets no fault escape advances. -/
theorem advances_of_not_escapes (sound : turn.run.IsSound) (clean : turn.run.IsClean)
    (kept : turn.IsKept) (safe : ¬ turn.Escapes) :
    ∃ next left, Advances turn.found turn.heard turn.run next left := by
  obtain ⟨run, found, heard⟩ := turn
  dsimp only at sound clean ⊢
  cases run with
  | loading claimed => exact sound.elim
  | waiting work => exact clean.elim
  | opening work =>
    obtain ⟨left, saved⟩ := kept.saves (.inl rfl) clean.copyable
    obtain ⟨next, goes⟩ := goes_of_not_escapes safe rfl saved.ownership clean.fit
    exact ⟨next, left, .opens saved goes⟩
  | dispatching work attempt input =>
    obtain ⟨handler, reached⟩ | ⟨fault, missed⟩ := attempt.reaches_or_missed (found.reach attempt)
    · exact ⟨_, _, .calls reached⟩
    · obtain ⟨next, made⟩ := failed_of_hasText found work attempt (told_of_missed safe missed)
      exact ⟨next, found, .misses missed made⟩
  | calling work attempt handler input =>
    obtain ⟨v, rfl⟩ | ⟨fault, caused⟩ := attempt.returned_or_faultOf heard
    · obtain ⟨outputs, bound⟩ := bound_of_not_escapes safe clean.1.mapped
      exact ⟨_, found, .answers rfl (by rw [answered, bound]; rfl)⟩
    · obtain ⟨next, made⟩ := failed_of_hasText found work attempt (told_of_faultOf safe caused)
      exact ⟨next, found, .fails caused made⟩
  | recording work step result =>
    have copyable : result.output.obstacle? = none := by
      by_cases free : result.output.obstacle? = none
      · exact free
      · exact absurd (.uncopied free) safe
    obtain ⟨fit, -, whole, settled, meant⟩ := clean
    obtain ⟨left, saved⟩ := kept.saves (.inr (.inl ⟨step, result, rfl⟩)) (whole.mpr copyable)
    have ahead : (Turn.mk (.recording work step result) found heard).ahead? = some settled := by
      simp [ahead?, meant, Except.toOption]
    have later : settled.remaining = work.remaining := by
      obtain ⟨halted, error, rfl⟩ := settle_ok meant
      rfl
    obtain ⟨next, goes⟩ := goes_of_not_escapes safe ahead saved.ownership (later ▸ fit)
    exact ⟨next, left, .records saved meant goes⟩
  | closing work =>
    obtain ⟨left, saved⟩ := kept.saves (.inr (.inr rfl)) clean
    exact ⟨_, _, .closes saved⟩
  | finished result => exact ⟨_, _, .rests result⟩

/-- Barred work does not go on from a save. -/
theorem not_goes_of_isBarred {work : Work} {found left : Engine η} {next : Run η}
    (running : work.execution.status = .running) (fit : ∀ step ∈ work.remaining, step.IsFit)
    (bar : work.IsBarred found) (same : left.ownership = found.ownership) :
    ¬ left.Goes work next := by
  intro goes
  obtain ⟨f, baulks⟩ := (baulks_iff fit).mpr (isBarred_of_ownership same.symm bar)
  have onward := next_of_goes running goes
  rw [next_of_baulks running baulks] at onward
  cases onward

/-- A failure by a limit was recorded with the limit in its text. -/
theorem limit_of_failed {engine : Engine η} {work : Work} {attempt : Attempt} {next : Run η}
    (made : engine.failed work attempt (expiry attempt) = .ok next) :
    ∃ told, attempt.limit.text = .ok told := by
  obtain ⟨result, recorded, -⟩ := failed_ok made
  obtain ⟨f, error, formed, -⟩ := Attempt.failure_ok recorded
  obtain ⟨told, limit, -⟩ := Result.bind_ok formed
  exact ⟨told, limit⟩

/-- A turn that lets a fault escape does not advance. -/
theorem Escapes.not_advances (escapes : turn.Escapes) (sound : turn.run.IsSound)
    (clean : turn.run.IsClean) {next : Run η} {left : Engine η} :
    ¬ Advances turn.found turn.heard turn.run next left := by
  intro advances
  cases escapes with
  | barred ahead bar =>
    obtain ⟨run, found, heard⟩ := turn
    dsimp only at sound clean advances
    cases advances with
    | opens saved goes =>
      cases ahead
      refine not_goes_of_isBarred ?_ ?_ bar saved.ownership goes
      · exact sound
      · exact clean.fit
    | records saved meant goes =>
      simp only [ahead?, meant, Except.toOption, Option.some.injEq] at ahead
      subst ahead
      have running := (settle_running meant).trans sound
      exact not_goes_of_isBarred running (settled_isClean saved clean meant).fit bar
        saved.ownership goes
    | _ => cases ahead
  | uncopied obstacle =>
    cases advances with
    | records saved meant goes => exact obstacle (clean.2.2.1.mp saved.kept.1)
  | late late met =>
    cases advances with
    | calls reached =>
      rw [late] at reached
      cases reached
    | misses missed made =>
      rw [late] at missed
      cases missed
      obtain ⟨told, limit⟩ := limit_of_failed made
      cases met.symm.trans limit
  | expired met =>
    cases advances with
    | answers returned made => cases returned
    | fails caused made =>
      cases caused
      obtain ⟨told, limit⟩ := limit_of_failed made
      cases met.symm.trans limit
  | unbound bound met =>
    cases advances with
    | answers returned made =>
      obtain ⟨outputs, made, -⟩ := answered_ok made
      obtain ⟨entries, mapped⟩ := clean.1.mapped
      rw [Step.bound, if_pos bound, mapped, Value.assign, met] at made
      cases made
    | fails caused made => cases caused
  | untold met =>
    cases advances with
    | answers returned made => cases returned
    | fails caused made =>
      cases caused
      obtain ⟨result, recorded, -⟩ := failed_ok made
      obtain ⟨f, error, formed, stated, -⟩ := Attempt.failure_ok recorded
      cases formed
      obtain ⟨message, told, -⟩ := Result.bind_ok stated
      cases met.symm.trans told

end Turn

/-! ## What is told on the way -/

/-- What is recorded for a dispatch without a handler depends on where it leads. -/
theorem Attempt.Missed.unique {η : Type} {attempt : Attempt} {reach : Reach η}
    {fault other : Except Fault Fault} (missed : attempt.Missed reach fault)
    (again : attempt.Missed reach other) : fault = other := by
  cases missed <;> cases again <;> rfl

theorem Attempt.FaultOf.unique {attempt : Attempt} {outcome : Outcome}
    {fault other : Except Fault Fault} (caused : attempt.FaultOf outcome fault)
    (again : attempt.FaultOf outcome other) : fault = other := by
  cases caused <;> cases again <;> rfl

/-- The record tells that a fault was met in a step. -/
def Execution.Tells (execution : Execution) (step : Step) (f : Fault) : Prop :=
  ∃ result ∈ execution.results, result.stepId = step.id ∧
    ∃ error, StepError.ofFault f = .ok error ∧ result.error = some error

namespace Engine

variable {η : Type}

theorem Goes.results {engine : Engine η} {work : Work} {next : Run η}
    (goes : engine.Goes work next) {execution : Execution}
    (come : next.execution? = some execution) :
    ∀ result ∈ work.execution.results, result ∈ execution.results := by
  intro result member
  cases goes with
  | ended ends =>
    cases come
    exact member
  | stopped left unhalted asked told =>
    cases come
    exact member
  | @begins step later outset left unhalted unasked comes =>
    cases outset <;> cases come
    · exact List.mem_append_left _ member
    · exact member

/-- A step whose outset states a fault has it told. -/
theorem Goes.tells {engine : Engine η} {work : Work} {next : Run η} {step : Step} {f : Fault}
    (goes : engine.Goes work next) (begins : work.Begins engine step)
    (settles : ∀ outset, step.outset work.execution.outputs work.execution.input = .ok outset →
      ∃ status error, StepError.ofFault f = .ok error ∧ outset = .settled status (some error))
    {execution : Execution} (come : next.execution? = some execution) :
    execution.Tells step f := by
  obtain ⟨⟨later, left⟩, unhalted, unasked⟩ := begins
  cases goes with
  | ended ends => simp [left, unhalted] at ends
  | stopped _ _ asked => simp [unasked] at asked
  | begins left' _ _ comes =>
    rw [left] at left'
    cases left'
    obtain ⟨status, error, formed, rfl⟩ := settles _ comes
    cases come
    exact ⟨_, List.mem_append_right _ (List.mem_singleton_self _), rfl, error, formed, rfl⟩

theorem failed_tells {engine : Engine η} {work : Work} {attempt : Attempt} {f : Fault}
    {next : Run η} (made : engine.failed work attempt (.ok f) = .ok next) {execution : Execution}
    (come : next.execution? = some execution) : execution.Tells attempt.step f := by
  obtain ⟨result, recorded, rfl⟩ := failed_ok made
  obtain ⟨g, error, same, formed, rfl⟩ := Attempt.failure_ok recorded
  cases same
  cases come
  exact ⟨_, List.mem_append_right _ (List.mem_singleton_self _), rfl, error, formed, rfl⟩

end Engine

namespace Advances

variable {η : Type} {found left : Engine η} {heard : Outcome} {run next : Run η}

/-- Results stay in the record. -/
theorem results (advances : Advances found heard run next left) {before after : Execution}
    (was : run.execution? = some before) (come : next.execution? = some after) :
    ∀ result ∈ before.results, result ∈ after.results := by
  intro result member
  have failing {work : Work} {attempt : Attempt} {fault : Except Fault Fault}
      (made : found.failed work attempt fault = .ok next)
      (member : result ∈ work.execution.results) : result ∈ after.results := by
    obtain ⟨failure, -, rfl⟩ := Engine.failed_ok made
    cases come
    exact List.mem_append_left _ member
  cases advances with
  | waits held => exact (Option.some.inj (was.symm.trans come)) ▸ member
  | enters free => exact (Option.some.inj (was.symm.trans come)) ▸ member
  | opens saved goes =>
    cases was
    exact goes.results come result member
  | calls reached => exact (Option.some.inj (was.symm.trans come)) ▸ member
  | misses missed made =>
    cases was
    exact failing made member
  | answers returned made =>
    cases was
    obtain ⟨outputs, -, rfl⟩ := Engine.answered_ok made
    cases come
    exact List.mem_append_left _ member
  | fails caused made =>
    cases was
    exact failing made member
  | records saved meant goes =>
    cases was
    obtain ⟨halted, error, rfl⟩ := Engine.settle_ok meant
    exact goes.results come result member
  | closes saved => exact (Option.some.inj (was.symm.trans come)) ▸ member
  | rests result => exact (Option.some.inj (was.symm.trans come)) ▸ member

/-- Only a fault that was there before ends a run that advances. -/
theorem unfaulted (advances : Advances found heard run next left)
    (whole : ∀ f, run ≠ .finished (.error f)) : ∀ f, next ≠ .finished (.error f) := by
  have onward {place : Run η} (going : place.result? = none) :
      ∀ f, place ≠ .finished (.error f) := by
    rintro f rfl
    cases going
  cases advances with
  | waits held => exact whole
  | enters free => exact onward rfl
  | opens saved goes => exact onward goes.onward
  | calls reached => exact onward rfl
  | misses missed made => exact onward (Engine.failed_onward made)
  | answers returned made => exact onward (Engine.answered_onward made)
  | fails caused made => exact onward (Engine.failed_onward made)
  | records saved meant goes => exact onward goes.onward
  | closes saved => exact nofun
  | rests result => exact whole

end Advances

/-- What goes wrong in a turn that advances is told by the record from then on. -/
theorem Turn.Meets.tells {η : Type} {turn : Turn η} {step : Step} {f : Fault} {next : Run η}
    {left : Engine η} (meets : turn.Meets step f)
    (advances : Advances turn.found turn.heard turn.run next left) {execution : Execution}
    (come : next.execution? = some execution) : execution.Tells step f := by
  have beginning {work : Work} (ahead : turn.ahead? = some work)
      (begins : work.Begins turn.found step)
      (settles : ∀ outset, step.outset work.execution.outputs work.execution.input = .ok outset →
        ∃ status error, StepError.ofFault f = .ok error ∧
          outset = .settled status (some error)) : execution.Tells step f := by
    have kept {reached : Engine η} (same : reached.ownership = turn.found.ownership) :
        work.Begins reached step := by
      rw [Work.Begins, same]
      exact begins
    obtain ⟨run, found, heard⟩ := turn
    dsimp only at advances
    cases advances with
    | opens saved goes =>
      cases ahead
      exact goes.tells (kept saved.ownership) settles come
    | records saved meant goes =>
      simp only [Turn.ahead?, meant, Except.toOption, Option.some.injEq] at ahead
      subst ahead
      exact goes.tells (kept saved.ownership) settles come
    | _ => cases ahead
  cases meets with
  | guard ahead begins guarded met condition =>
    refine beginning ahead begins fun outset comes => ?_
    rw [Step.outset, if_neg (by simp [guarded]), met] at comes
    simp only [condition, if_true] at comes
    obtain ⟨error, rfl, -, told⟩ := Step.skipping_ok comes
    obtain ⟨stated, formed, rfl⟩ := told f rfl
    exact ⟨_, stated, formed, rfl⟩
  | template ahead begins lets met =>
    refine beginning ahead begins fun outset comes => ?_
    rw [Step.outset_of_isLetThrough lets, Step.preparation, met] at comes
    obtain ⟨_, -, comes⟩ := Result.bind_ok comes
    obtain ⟨stated, formed, comes⟩ := Result.bind_ok comes
    cases comes
    exact ⟨_, stated, formed, rfl⟩
  | dispatch missed =>
    cases advances with
    | calls reached =>
      rw [reached] at missed
      cases missed
    | misses missed' made =>
      obtain rfl := missed'.unique missed
      exact Engine.failed_tells made come
  | call caused =>
    cases advances with
    | answers returned made =>
      cases returned
      cases caused
    | fails caused' made =>
      obtain rfl := caused'.unique caused
      exact Engine.failed_tells made come

end Stepwise
