import Stepwise.Condition
import Stepwise.Proofs.Json.Writing

/-!
# Faults met in templates and conditions

A template meets a fault where a value that it refers to has no text, and a strict one also where
it refers to nothing. Both faults have a text of their own. The same is true of a condition, which
may be refused besides, so what goes wrong in either can be recorded on the step it belongs to.
-/

namespace Stepwise

open Fault

/-- A list that is gone through up to a fault met it at one of its items. -/
theorem Result.mapM_error {α β : Type} {act : α → Except Fault β} {items : List α} {f : Fault}
    (met : items.mapM act = .error f) : ∃ item ∈ items, act item = .error f := by
  induction items with
  | nil => simp [pure, Except.pure] at met
  | cons item rest inductionHypothesis =>
    rw [List.mapM_cons] at met
    obtain first | ⟨_, -, met⟩ := Result.bind_error met
    · exact ⟨item, List.mem_cons_self, first⟩
    obtain others | ⟨_, -, made⟩ := Result.bind_error met
    · obtain ⟨other, member, failed⟩ := inductionHypothesis others
      exact ⟨other, List.mem_cons_of_mem _ member, failed⟩
    · cases made

/-- Where a plain text takes the place of what JSON has no form for, writing fails as that does. -/
theorem Json.text_refuses : Refuses Value.text (fun _ => True) IsMachinery where
  inherited := Value.isInherited_true
  unsuitable := fun _ unsuitable => unsuitable.isMachinery
  offered := fun _ _ _ failed => Value.text_error failed

namespace Template

/-- The text that a value is replaced by is missing when its plain text is, or when it cannot be
written and that is not for its kind. -/
theorem textOf_error {v : Value} {f : Fault} (met : textOf v = .error f) : f.IsMachinery := by
  unfold textOf at met
  split at met
  case h_6 => exact Value.text_error met
  all_goals
    split at met
    · cases met
    · rename_i g written
      split at met
      · exact Value.text_error met
      · have same : g = f := Except.error.inj met
        exact same ▸ Json.write_error Json.text_refuses _ 0 g trivial written

theorem resolveText_hasText {text : String} {outputs input : Value} {strict : Bool} {f : Fault}
    (met : resolveText text outputs input strict = .error f) : f.HasText := by
  obtain parts | ⟨_, -, made⟩ := Result.bind_error met
  · obtain ⟨token, -, failed⟩ := Result.mapM_error parts
    unfold resolveToken at failed
    split at failed
    · cases failed
    · split at failed
      · exact (textOf_error failed).hasText
      · split at failed
        · rw [← Except.error.inj failed]
          exact ⟨_, rfl⟩
        · cases failed
  · cases made

mutual

/-- What goes wrong in a template has a text. -/
theorem resolve_hasText (outputs input : Value) : ∀ (v : Value) (f : Fault),
    resolve outputs input v = .error f → f.HasText
  | .str text => by
    intro f met
    rw [resolve] at met
    obtain failed | ⟨_, -, made⟩ := Result.bind_error met
    · exact resolveText_hasText failed
    · cases made
  | .map entries => by
    intro f met
    rw [resolve] at met
    obtain failed | ⟨_, -, made⟩ := Result.bind_error met
    · exact resolveEntries_hasText outputs input entries f failed
    · cases made
  | .list items => by
    intro f met
    rw [resolve] at met
    obtain failed | ⟨_, -, made⟩ := Result.bind_error met
    · exact resolveItems_hasText outputs input items f failed
    · cases made
  | .tuple items => by
    intro f met
    rw [resolve] at met
    obtain failed | ⟨_, -, made⟩ := Result.bind_error met
    · exact resolveItems_hasText outputs input items f failed
    · cases made
  | .endless _ _ => by
    intro f met
    rw [resolve] at met
    exact Except.error.inj met ▸ (machinery_isMachinery _ _).hasText
  | .null | .bool _ | .int _ | .float _ | .bytes _ | .set _ | .date _ | .moment _
  | .object _ _ _ | .callable | .faulty _ _ => by simp [resolve]

theorem resolveItems_hasText (outputs input : Value) : ∀ (items : List Value) (f : Fault),
    resolveItems outputs input items = .error f → f.HasText
  | [] => by simp [resolveItems]
  | item :: rest => by
    intro f met
    rw [resolveItems] at met
    obtain first | ⟨_, -, met⟩ := Result.bind_error met
    · exact resolve_hasText outputs input item f first
    obtain others | ⟨_, -, made⟩ := Result.bind_error met
    · exact resolveItems_hasText outputs input rest f others
    · cases made

theorem resolveEntries_hasText (outputs input : Value) :
    ∀ (entries : List (Value × Value)) (f : Fault),
      resolveEntries outputs input entries = .error f → f.HasText
  | [] => by simp [resolveEntries]
  | (_, content) :: rest => by
    intro f met
    rw [resolveEntries] at met
    obtain first | ⟨_, -, met⟩ := Result.bind_error met
    · exact resolve_hasText outputs input content f first
    obtain others | ⟨_, -, made⟩ := Result.bind_error met
    · exact resolveEntries_hasText outputs input rest f others
    · cases made

end

end Template

/-- What goes wrong in a condition has a text, whether it is refused, refers to nothing, or refers
to a value without a text. -/
theorem Condition.evaluate_hasText {v outputs input : Value} {f : Fault}
    (met : evaluate v outputs input = .error f) : f.HasText := by
  obtain refused | ⟨condition, -, met⟩ := Result.bind_error met
  · unfold parse at refused
    split at refused
    · split at refused
      · cases refused
      · rw [← Except.error.inj refused]
        exact ⟨_, rfl⟩
    · rw [← Except.error.inj refused]
      exact ⟨_, rfl⟩
  · cases condition with
    | constant holds => cases met
    | equality operand expected =>
      obtain failed | ⟨_, -, made⟩ := Result.bind_error met
      · exact Template.resolveText_hasText failed
      · cases made

end Stepwise
