import Stepwise.Proofs.Engine.Interruption

/-!
# Runs on their own

A run is on its own when nobody else uses its engine and its handlers answer as the scenario says
and leave the engine alone. Then nothing but its own turns changes the engine, and no turn takes
away what the scenario needs: its registries and limits, records in memory, and locks in order. So a
run that is moved on its own leaves its execution alone between its turns, from its start or from
taking an interrupted execution up.
-/

namespace Stepwise

variable {η : Type}

/-- The handlers answer as the scenario says and leave the engine alone. -/
def Scenario.Describes (scenario : Scenario η) (behave : Behavior η) : Prop :=
  ∀ handler input engine, behave handler input engine = (scenario.answer handler input, engine)

/-! ## Moving on alone -/

namespace Scenario.Describes

variable {scenario : Scenario η} {behave : Behavior η} {id : String}

/-- Nothing happens before the turn of a move. -/
theorem around (describes : scenario.Describes behave) (run : Run η) {engine : Engine η}
    (hosts : scenario.Hosts engine) :
    scenario.Around id engine (Engine.turnOf behave run engine) := by
  have still (handler : η) (input : Value) (engine : Engine η) :
      (behave handler input engine).2 = engine := by rw [describes]
  have found := Engine.turnOf_found still run engine
  refine ⟨⟨found.symm ▸ hosts, by rw [found], by rw [found]⟩, ?_⟩
  intro work attempt handler input calling
  rw [Engine.turnOf_run] at calling
  subst calling
  change (behave handler input engine).1 = _
  rw [describes]

/-- A run that carries an execution and is moved on its own leaves it alone between its turns. -/
theorem course_of_moves (describes : scenario.Describes behave) (regular : scenario.IsRegular)
    (timely : scenario.IsTimely) {run : Run η} {engine : Engine η}
    (carries : run.Carries scenario id) (hosts : scenario.Hosts engine) (count : Nat) :
    Course (scenario.Around id) (run, engine) (Engine.turnsOf behave count run engine)
      (Engine.moves behave count run engine) := by
  have course := (Engine.moves_course behave count run engine).holding
    (fun run engine => run.Carries scenario id ∧ scenario.Hosts engine) ?_ ⟨carries, hosts⟩
  · refine course.mono ?_
    rintro left turn - ⟨⟨-, hosts⟩, taken⟩
    rw [taken]
    exact describes.around turn.run hosts
  · rintro left turn ⟨carries, hosts⟩ taken
    have around : scenario.Around id left turn := by
      rw [taken]
      exact describes.around turn.run hosts
    refine ⟨?_, turn.hosts timely carries around.spares.toHosts⟩
    obtain ⟨f, left, -, broken⟩ | advances := turn.advances_or_breaksOff carries.sound
    · rw [broken]
      exact Run.carries_fault scenario id f
    · exact advances.carries regular around.fits carries

end Scenario.Describes

end Stepwise
