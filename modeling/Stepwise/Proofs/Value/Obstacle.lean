import Stepwise.Execution.Basic
import Stepwise.Proofs.Fault.Text

/-!
# What keeps values from being copied

A value can be copied unless there is an object in it whose attributes say how it is copied. What is
met then is of two kinds. An attribute that would be called answers no call, or places for
attributes are named, and a value of the wrong kind was met. Or an object leaves its copy to an
attribute under which it has nothing, and then there is nothing by which it could be copied.
-/

namespace Stepwise

namespace Fault

/-- The fault is one that can be met in copying a value. -/
def IsObstacle (f : Fault) : Prop :=
  (∃ message, f = typeError message) ∨ ∃ v, f = notCopied v

theorem IsObstacle.isMachinery {f : Fault} (obstacle : f.IsObstacle) : f.IsMachinery := by
  obtain ⟨message, rfl⟩ | ⟨v, rfl⟩ := obstacle
  · exact machinery_isMachinery _ _
  · exact machinery_isMachinery _ _

theorem notCallable_isObstacle (v : Value) : (notCallable v).IsObstacle := .inl ⟨_, rfl⟩

/-- A fault of the machinery is none of persistence. -/
theorem IsMachinery.isPersistence {f : Fault} (plain : f.IsMachinery) :
    f.isPersistence = false := by
  obtain ⟨kind, message, rfl⟩ := plain
  rfl

end Fault

open Fault

namespace Value

theorem partsFault?_isObstacle {owner : Value} {attributes : List (String × Value)} {f : Fault}
    (met : partsFault? owner attributes = some f) : f.IsObstacle := by
  have state (met : (attributes.lookup stateHook).map notCallable = some f) : f.IsObstacle := by
    obtain ⟨hook, -, rfl⟩ := Option.map_eq_some_iff.mp met
    exact notCallable_isObstacle hook
  unfold partsFault? at met
  split at met
  · exact state met
  · split at met
    · split at met
      · exact .inl ⟨_, (Option.some.inj met).symm⟩
      · exact state met
    · rename_i hook _
      split at met
      · exact Option.some.inj met ▸ notCallable_isObstacle hook
      · exact .inr ⟨owner, (Option.some.inj met).symm⟩
  · rename_i hook _
    exact Option.some.inj met ▸ notCallable_isObstacle _

theorem hookFault?_isObstacle {owner : Value} {attributes : List (String × Value)} {f : Fault}
    (met : hookFault? owner attributes = some f) : f.IsObstacle := by
  unfold hookFault? at met
  split at met
  · exact partsFault?_isObstacle met
  · exact partsFault?_isObstacle met
  · exact Option.some.inj met ▸ notCallable_isObstacle _

mutual

/-- Containers hand on what their parts met. -/
theorem obstacle?_isObstacle : ∀ (v : Value) {f : Fault}, v.obstacle? = some f → f.IsObstacle
  | .list items, _, met | .tuple items, _, met | .set items, _, met => by
    rw [obstacle?] at met
    exact itemObstacle?_isObstacle items met
  | .map entries, _, met => by
    rw [obstacle?] at met
    exact entryObstacle?_isObstacle entries met
  | .object _ _ attributes, _, met => by
    rw [obstacle?, Option.or_eq_some_iff] at met
    obtain own | ⟨-, held⟩ := met
    · exact hookFault?_isObstacle own
    · exact attributeObstacle?_isObstacle attributes held
  | .null, _, met | .bool _, _, met | .int _, _, met | .float _, _, met | .str _, _, met
  | .bytes _, _, met | .date _, _, met | .moment _, _, met | .callable, _, met
  | .faulty _ _, _, met | .endless _ _, _, met => by
    simp [obstacle?] at met

theorem itemObstacle?_isObstacle : ∀ (items : List Value) {f : Fault},
    itemObstacle? items = some f → f.IsObstacle
  | [], _, met => by simp [itemObstacle?] at met
  | item :: rest, _, met => by
    rw [itemObstacle?, Option.or_eq_some_iff] at met
    obtain first | ⟨-, others⟩ := met
    · exact obstacle?_isObstacle item first
    · exact itemObstacle?_isObstacle rest others

theorem entryObstacle?_isObstacle : ∀ (entries : List (Value × Value)) {f : Fault},
    entryObstacle? entries = some f → f.IsObstacle
  | [], _, met => by simp [entryObstacle?] at met
  | (key, content) :: rest, _, met => by
    rw [entryObstacle?, Option.or_eq_some_iff, Option.or_eq_some_iff] at met
    obtain (first | ⟨-, second⟩) | ⟨-, others⟩ := met
    · exact obstacle?_isObstacle content first
    · exact obstacle?_isObstacle key second
    · exact entryObstacle?_isObstacle rest others

theorem attributeObstacle?_isObstacle : ∀ (attributes : List (String × Value)) {f : Fault},
    attributeObstacle? attributes = some f → f.IsObstacle
  | [], _, met => by simp [attributeObstacle?] at met
  | (_, content) :: rest, _, met => by
    rw [attributeObstacle?, Option.or_eq_some_iff] at met
    obtain first | ⟨-, others⟩ := met
    · exact obstacle?_isObstacle content first
    · exact attributeObstacle?_isObstacle rest others

end

end Value

theorem StepResult.obstacle?_isObstacle {result : StepResult} {f : Fault}
    (met : result.obstacle? = some f) : f.IsObstacle := by
  simp only [obstacle?, Option.orElse_eq_orElse, Option.orElse_eq_or, Option.or_eq_some_iff,
    Option.bind_eq_some_iff] at met
  obtain named | ⟨-, made | ⟨-, error, -, kind | ⟨-, message⟩⟩⟩ := met
  · exact Value.obstacle?_isObstacle _ named
  · exact Value.obstacle?_isObstacle _ made
  · exact Value.obstacle?_isObstacle _ kind
  · exact Value.obstacle?_isObstacle _ message

theorem Execution.obstacle?_isObstacle {execution : Execution} {f : Fault}
    (met : execution.obstacle? = some f) : f.IsObstacle := by
  simp only [obstacle?, Option.orElse_eq_orElse, Option.orElse_eq_or, Option.or_eq_some_iff] at met
  obtain named | ⟨-, workflow | ⟨-, input | ⟨-, outputs | ⟨-, results | ⟨-, error⟩⟩⟩⟩⟩ := met
  · exact Value.obstacle?_isObstacle _ named
  · exact Value.obstacle?_isObstacle _ workflow
  · exact Value.obstacle?_isObstacle _ input
  · exact Value.obstacle?_isObstacle _ outputs
  · obtain ⟨result, -, own⟩ := List.exists_of_findSome?_eq_some results
    exact StepResult.obstacle?_isObstacle own
  · exact Value.obstacle?_isObstacle _ error

end Stepwise
