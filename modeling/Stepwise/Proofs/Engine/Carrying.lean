import Stepwise.Proofs.Engine.Kept

/-!
# Carrying an execution

A run carries an execution of a scenario when it matches the tale and works on the record of one
id. Between its turns the execution is left alone: other runs may do what they like as long as they
do not touch its record or who owns it, and the engine keeps hosting the scenario. Then the run owns
the execution as long as it goes on, and nobody owns it once the run has met a fault.
-/

namespace Stepwise

variable {η : Type}

/-- The engine has the registries and limits of the scenario and its records in memory, and no lock
is held before it was made. -/
structure Scenario.Hosts (scenario : Scenario η) (engine : Engine η) : Prop where
  agrees : engine.Agrees scenario.engine
  inMemory : engine.store.IsInMemory
  orderly : engine.ownership.IsOrderly

/-- Between two moments the execution of an id is left alone. The engine still hosts the scenario,
the record of the id is the same, and so are the claims and locks under it. -/
structure Scenario.Spares (scenario : Scenario η) (id : String) (left found : Engine η) : Prop
    extends scenario.Hosts found where
  kept : found.store.kept? id = left.store.kept? id
  owned : found.ownership.about (.str id) = left.ownership.about (.str id)

/-- What happens between the turns of a run on the execution of an id: the execution is left alone,
and the handlers answer as the scenario says. -/
structure Scenario.Around (scenario : Scenario η) (id : String) (left : Engine η)
    (turn : Turn η) : Prop where
  spares : scenario.Spares id left turn.found
  answers : ∀ work attempt handler input, turn.run = .calling work attempt handler input →
    turn.heard = scenario.answer handler input

theorem Scenario.Around.fits {scenario : Scenario η} {id : String} {left : Engine η}
    {turn : Turn η} (around : scenario.Around id left turn) : scenario.Fits turn :=
  ⟨around.spares.agrees, around.answers⟩

/-- Calls of the store are answered in time. -/
def Scenario.IsTimely (scenario : Scenario η) : Prop :=
  scenario.engine.options.persistTimeout.allowance = .ok .all

theorem Engine.Agrees.timely {scenario : Scenario η} {engine : Engine η}
    (agrees : engine.Agrees scenario.engine) (timely : scenario.IsTimely) :
    engine.options.persistTimeout.allowance = .ok .all := by
  rw [agrees.options]
  exact timely

/-! ## Runs on one execution -/

/-- The work is on the execution of an id of the scenario. -/
structure Work.IsOn (scenario : Scenario η) (id : String) (work : Work) : Prop where
  claimed : work.claimed = .str id
  named : work.execution.id = .str id
  about : work.execution.workflow.original = scenario.workflow.id.original

/-- Whatever the run works on is the execution of the id, and it does not wait for a lock. -/
def Run.IsOn (scenario : Scenario η) (id : String) (run : Run η) : Prop :=
  ∀ work, run.work? = some work → work.IsOn scenario id ∧ run ≠ .waiting work

/-- A run stays with its execution and its lock. -/
theorem Advances.isOn {scenario : Scenario η} {id : String} {found left : Engine η}
    {heard : Outcome} {run next : Run η} (advances : Advances found heard run next left)
    (on : run.IsOn scenario id) : next.IsOn scenario id := by
  have going {engine : Engine η} {work : Work} (goes : engine.Goes work next)
      (on : work.IsOn scenario id) : next.IsOn scenario id := by
    have kept : ∀ {after : Work}, after.claimed = work.claimed →
        after.execution.id = work.execution.id →
        after.execution.workflow = work.execution.workflow → after.IsOn scenario id := by
      intro after claimed named about
      exact ⟨claimed.trans on.claimed, named.trans on.named, about ▸ on.about⟩
    rintro after come
    cases goes with
    | ended ends =>
      cases come
      exact ⟨kept rfl rfl rfl, by simp⟩
    | stopped left unhalted asked told =>
      cases come
      exact ⟨kept rfl rfl rfl, by simp⟩
    | @begins step later outset left unhalted unasked comes =>
      cases outset <;> cases come <;> exact ⟨kept rfl rfl rfl, by simp [Engine.begun]⟩
  have failing {work : Work} {attempt : Attempt} {fault : Except Fault Fault}
      (made : found.failed work attempt fault = .ok next) (on : work.IsOn scenario id) :
      next.IsOn scenario id := by
    obtain ⟨result, -, rfl⟩ := Engine.failed_ok made
    rintro _ ⟨⟩
    exact ⟨⟨on.claimed, on.named, on.about⟩, by simp⟩
  cases advances with
  | waits held => exact on
  | enters free => exact absurd rfl (on _ rfl).2
  | opens saved goes =>
    obtain ⟨claimed, named, about⟩ := (on _ rfl).1
    exact going goes ⟨claimed, named, about⟩
  | calls reached =>
    rintro _ ⟨⟩
    exact ⟨(on _ rfl).1, by simp⟩
  | misses missed made => exact failing made (on _ rfl).1
  | answers returned made =>
    obtain ⟨outputs, -, rfl⟩ := Engine.answered_ok made
    obtain ⟨claimed, named, about⟩ := (on _ rfl).1
    rintro _ ⟨⟩
    exact ⟨⟨claimed, named, about⟩, by simp⟩
  | fails caused made => exact failing made (on _ rfl).1
  | records saved meant goes =>
    obtain ⟨claimed, named, about⟩ := (on _ rfl).1
    obtain ⟨halted, error, rfl⟩ := Engine.settle_ok meant
    exact going goes ⟨claimed, named, about⟩
  | closes saved => rintro _ ⟨⟩
  | rests result => exact on

/-- The run matches the tale and works on one execution of the scenario. -/
structure Run.Carries (scenario : Scenario η) (id : String) (run : Run η) : Prop where
  sound : run.IsSound
  tells : run.Matches scenario
  on : run.IsOn scenario id

/-- A run that has met a fault works on nothing any more. -/
theorem Run.carries_fault (scenario : Scenario η) (id : String) (f : Fault) :
    (Run.finished (η := η) (.error f)).Carries scenario id := by
  refine ⟨trivial, ⟨trivial, trivial, ?_⟩, ?_⟩
  · rintro execution ⟨⟩
  · rintro work ⟨⟩

theorem Advances.carries {scenario : Scenario η} {id : String} {turn : Turn η} {next : Run η}
    {left : Engine η} (advances : Advances turn.found turn.heard turn.run next left)
    (regular : scenario.IsRegular) (fits : scenario.Fits turn)
    (carries : turn.run.Carries scenario id) : next.Carries scenario id :=
  ⟨advances.sound carries.sound, advances.matching regular fits carries.tells,
    advances.isOn carries.on⟩

/-! ## Who owns the execution -/

/-- A run owns its execution while it goes on, and nobody does once it has met a fault. -/
structure Run.IsOwner (id : String) (run : Run η) (engine : Engine η) : Prop where
  owned : run.result? = none → engine.ownership.IsTaken (.str id)
  freed : ∀ f, run = .finished (.error f) → engine.ownership.IsFree (.str id)

/-- Nothing about an owner changes while the execution is left alone. -/
theorem Run.IsOwner.spared {scenario : Scenario η} {id : String} {run : Run η}
    {left found : Engine η} (owner : run.IsOwner id left) (spares : scenario.Spares id left found) :
    run.IsOwner id found where
  owned onward := by
    obtain ⟨⟨lock, said⟩, -⟩ := owner.owned onward
    exact ⟨⟨lock, spares.owned.trans said⟩, spares.orderly⟩
  freed f faulted := ⟨spares.owned.trans (owner.freed f faulted).clear, spares.orderly⟩

/-- A run that advances goes on owning its execution. -/
theorem Advances.isOwner {scenario : Scenario η} {id : String} {found left : Engine η}
    {heard : Outcome} {run next : Run η} (advances : Advances found heard run next left)
    (on : run.IsOn scenario id) (owner : run.IsOwner id found) : next.IsOwner id left := by
  have onward {reached : Engine η} (going : next.result? = none)
      (taken : reached.ownership.IsTaken (.str id)) : next.IsOwner id reached := by
    refine ⟨fun _ => taken, ?_⟩
    rintro f rfl
    cases going
  cases advances with
  | waits held => exact owner
  | enters free => exact absurd rfl (on _ rfl).2
  | opens saved goes =>
    refine onward goes.onward ?_
    rw [saved.ownership]
    exact owner.owned rfl
  | calls reached => exact ⟨fun _ => owner.owned rfl, by simp⟩
  | misses missed made => exact onward (Engine.failed_onward made) (owner.owned rfl)
  | answers returned made => exact onward (Engine.answered_onward made) (owner.owned rfl)
  | fails caused made => exact onward (Engine.failed_onward made) (owner.owned rfl)
  | records saved meant goes =>
    refine onward goes.onward ?_
    rw [saved.ownership]
    exact owner.owned rfl
  | closes saved => exact ⟨by simp [Run.result?], by simp⟩
  | rests result => exact owner

/-- A run that breaks off gives its execution free. -/
theorem Turn.BreaksOff.isFree {scenario : Scenario η} {id : String} {turn : Turn η}
    {left : Engine η} (breaks : turn.BreaksOff left) (sound : turn.run.IsSound)
    (on : turn.run.IsOn scenario id) (owner : turn.run.IsOwner id turn.found)
    (onward : turn.run.result? = none) : (left.leave turn.run).ownership.IsFree (.str id) := by
  have taken : left.ownership.IsTaken (.str id) := by
    rw [breaks.ownership]
    exact owner.owned onward
  have leaving {work : Work} (own : work.IsOn scenario id) :
      ((left.ownership.letGo work.lock).release work.claimed).IsFree (.str id) := by
    rw [own.claimed]
    exact taken.isFree_left work.lock
  cases stands : turn.run with
  | loading claimed =>
    rw [stands] at sound
    exact sound.elim
  | waiting work =>
    rw [stands] at on
    exact absurd rfl (on work rfl).2
  | finished result =>
    rw [stands] at onward
    cases onward
  | _ =>
    rw [stands] at on
    exact leaving (on _ rfl).1

/-! ## What a turn leaves in place -/

namespace Scenario.Hosts

variable {scenario : Scenario η} {engine : Engine η}

/-- An engine hosts a scenario whatever its clock, its ids, its trace and its store are, as long as
the records stay in memory. -/
theorem persisted {execution : Execution} {result : Except Fault Unit} {left : Engine η}
    (hosts : scenario.Hosts engine) (timely : scenario.IsTimely)
    (came : (Engine.persist execution).runOn engine = (result, left)) : scenario.Hosts left := by
  obtain ⟨agrees, ⟨kept, backing⟩, orderly⟩ := hosts
  have inMemory : left.store.IsInMemory := by
    obtain ⟨f, -, same⟩ | ⟨-, changed⟩ :=
      Engine.persist_memory (agrees.timely timely) backing came
    · exact ⟨_, same⟩
    · exact ⟨_, changed⟩
  obtain ⟨store, trace, same⟩ := Engine.persist_left execution engine
  rw [came] at same
  obtain rfl : left = { engine with store, trace } := same
  exact ⟨{ agrees with }, inMemory, orderly⟩

/-- Locks stay in order when a run leaves. -/
theorem leave (hosts : scenario.Hosts engine) (run : Run η) :
    scenario.Hosts (engine.leave run) := by
  obtain ⟨agrees, inMemory, orderly⟩ := hosts
  have freeing (work : Work) :
      ((engine.ownership.letGo work.lock).release work.claimed).IsOrderly :=
    orderly.letGo work.lock
  have kept : (engine.leave run).ownership.IsOrderly := by
    cases run with
    | loading claimed => exact orderly
    | waiting work => exact orderly
    | finished result => exact orderly
    | _ => exact freeing _
  obtain ⟨ownership, same⟩ := engine.leave_eq run
  rw [same] at kept ⊢
  exact ⟨{ agrees with }, inMemory, kept⟩

end Scenario.Hosts

/-- A run that waits for no lock and advances leaves the engine as the scenario needs it. -/
theorem Advances.hosts {scenario : Scenario η} {id : String} {found left : Engine η}
    {heard : Outcome} {run next : Run η} (advances : Advances found heard run next left)
    (timely : scenario.IsTimely) (on : run.IsOn scenario id) (hosts : scenario.Hosts found) :
    scenario.Hosts left := by
  cases advances with
  | waits held => exact hosts
  | enters free => exact absurd rfl (on _ rfl).2
  | opens saved goes => exact hosts.persisted timely saved
  | calls reached => exact ⟨{ hosts.agrees with }, hosts.inMemory, hosts.orderly⟩
  | misses missed made => exact hosts
  | answers returned made => exact hosts
  | fails caused made => exact hosts
  | records saved meant goes => exact hosts.persisted timely saved
  | closes saved => exact (hosts.persisted timely saved).leave _
  | rests result => exact hosts

/-- So does a run that breaks off. -/
theorem Turn.hosts {scenario : Scenario η} {id : String} {turn : Turn η}
    (timely : scenario.IsTimely) (carries : turn.run.Carries scenario id)
    (hosts : scenario.Hosts turn.found) : scenario.Hosts turn.after.2 := by
  obtain ⟨f, left, breaks, broken⟩ | advances := turn.advances_or_breaksOff carries.sound
  · rw [broken]
    refine Scenario.Hosts.leave ?_ turn.run
    cases breaks with
    | before => exact hosts
    | unsaved met => exact hosts.persisted timely met
    | saved about saved => exact hosts.persisted timely saved
  · exact advances.hosts timely carries.on hosts

end Stepwise
