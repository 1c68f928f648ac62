import Stepwise.Fault.Basic

/-!
# Effects

Registries, stores and the engine change as they are used, and their operations may be refused
half way. What an operation did before it was refused stays done.
-/

namespace Stepwise

/-- A computation on a state that may be refused; what it did before stays done. -/
abbrev Effect (σ α : Type) : Type := ExceptT Fault (StateM σ) α

/-- A result as a computation that leaves the state alone. -/
def lift {σ α : Type} : Except Fault α → Effect σ α
  | .ok a => return a
  | .error f => throw f

namespace Effect

/-- The result of a computation and the state it leaves. -/
def runOn {σ α : Type} (state : σ) (effect : Effect σ α) : Except Fault α × σ :=
  effect state

/-- A computation on a part of a state. -/
def onPart {σ τ α : Type} (part : σ → τ) (replace : τ → σ → σ) (effect : Effect τ α) :
    Effect σ α :=
  fun state =>
    let (result, changed) := effect (part state)
    (result, replace changed state)

/-- The result of a computation, with a fault as a value. -/
def attempt {σ α : Type} (effect : Effect σ α) : Effect σ (Except Fault α) :=
  fun state =>
    let (result, changed) := effect state
    (.ok result, changed)

end Effect

end Stepwise
