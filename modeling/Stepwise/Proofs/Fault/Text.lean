import Stepwise.Engine.Limit
import Stepwise.Proofs.Effect
import Stepwise.Registry.Capabilities

/-!
# Faults met in forming a text

A text cannot be formed when a value in it has none. The fault met then is one of the machinery
with a plain message, so its own text can always be formed. Faults that are raised through
`refuse`, faults of limits, of keys and of looking a handler up can therefore be recorded with
their text, whatever the values they are about.
-/

namespace Stepwise

namespace Fault

/-- A fault known by its kind and one message, such as the machinery raises. -/
def IsMachinery (f : Fault) : Prop := ∃ kind message, f = machinery kind message

/-- The fault is one that can be met in forming the text of a value. -/
def IsUntold (f : Fault) : Prop :=
  ∃ message, f = valueError message ∨ f = machinery "RuntimeError" message

/-- The text of the fault can be formed. -/
def HasText (f : Fault) : Prop := ∃ message, f.text = .ok message

/-- Faults of the machinery about a value, under whichever of their kinds. -/
theorem machinery_isMachinery (kind message : String) : (machinery kind message).IsMachinery :=
  ⟨kind, message, rfl⟩

theorem IsUntold.isMachinery {f : Fault} (untold : f.IsUntold) : f.IsMachinery := by
  obtain ⟨message, rfl | rfl⟩ := untold
  · exact ⟨_, message, rfl⟩
  · exact ⟨_, message, rfl⟩

/-- One message is a text, quoted when it stands for a missing key and plain otherwise. -/
theorem IsMachinery.hasText {f : Fault} (plain : f.IsMachinery) : f.HasText := by
  obtain ⟨kind, message, rfl⟩ := plain
  by_cases key : kind = "KeyError"
  · exact ⟨quoted message, by simp [machinery, text, key, Value.shown]⟩
  · exact ⟨message, by simp [machinery, text, key, Value.text]⟩

end Fault

namespace Value

open Fault

/-- A whole number has no text only for its many digits. -/
theorem wholeText_untold {n : Int} {f : Fault} (met : wholeText n = .error f) : f.IsUntold := by
  unfold wholeText at met
  -- The limit itself is too large to be computed with.
  generalize Numeral.digitLimit = limit at met
  split at met
  · cases met
  · exact ⟨_, .inl (Except.error.inj met).symm⟩

mutual

/-- What stands in the way of a quoted text is a number with too many digits or a value that
fails when it is shown; containers only hand on what their parts met. -/
theorem shown_untold : ∀ (v : Value) (f : Fault), v.shown = .error f → f.IsUntold
  | .int _ => by
    intro f met
    rw [shown] at met
    exact wholeText_untold met
  | .list items => by
    intro f met
    rw [shown] at met
    obtain parts | ⟨_, -, made⟩ := Result.bind_error met
    · exact shownItems_untold items _ parts
    · cases made
  | .tuple items => by
    intro f met
    rw [shown] at met
    obtain parts | ⟨_, -, made⟩ := Result.bind_error met
    · exact shownItems_untold items _ parts
    · split at made <;> cases made
  | .map entries => by
    intro f met
    rw [shown] at met
    obtain parts | ⟨_, -, made⟩ := Result.bind_error met
    · exact shownEntries_untold entries _ parts
    · cases made
  | .set items => by
    intro f met
    rw [shown] at met
    obtain parts | ⟨_, -, made⟩ := Result.bind_error met
    · exact shownItems_untold items _ parts
    · cases made
  | .faulty _ _ => by
    intro f met
    simp only [shown, Except.error.injEq] at met
    exact ⟨_, .inr met.symm⟩
  | .null | .bool _ | .float _ | .str _ | .bytes _ | .date _ | .moment _ | .object _ _ _
  | .callable | .endless _ _ => by simp [shown]

theorem shownItems_untold : ∀ (items : List Value) (f : Fault),
    shownItems items = .error f → f.IsUntold
  | [] => by simp [shownItems]
  | item :: rest => by
    intro f met
    rw [shownItems] at met
    obtain first | ⟨_, -, met⟩ := Result.bind_error met
    · exact shown_untold item _ first
    obtain others | ⟨_, -, made⟩ := Result.bind_error met
    · exact shownItems_untold rest _ others
    · cases made

theorem shownEntries_untold : ∀ (entries : List (Value × Value)) (f : Fault),
    shownEntries entries = .error f → f.IsUntold
  | [] => by simp [shownEntries]
  | (key, content) :: rest => by
    intro f met
    rw [shownEntries] at met
    obtain left | ⟨_, -, met⟩ := Result.bind_error met
    · exact shown_untold key _ left
    obtain right | ⟨_, -, met⟩ := Result.bind_error met
    · exact shown_untold content _ right
    obtain others | ⟨_, -, made⟩ := Result.bind_error met
    · exact shownEntries_untold rest _ others
    · cases made

end

/-- The plain text of a value is missing for the same reasons as the quoted one. -/
theorem text_untold {v : Value} {f : Fault} (met : v.text = .error f) : f.IsUntold := by
  unfold text at met
  split at met
  · cases met
  · cases met
  · cases met
  · exact shown_untold _ _ met

theorem shown_error {v : Value} {f : Fault} (met : v.shown = .error f) : f.IsMachinery :=
  (shown_untold v f met).isMachinery

theorem text_error {v : Value} {f : Fault} (met : v.text = .error f) : f.IsMachinery :=
  (text_untold met).isMachinery

theorem hashable_error {v : Value} {f : Fault} (met : v.hashable = .error f) :
    f.IsMachinery := by
  unfold hashable at met
  split at met
  · cases met
  · exact ⟨_, _, (Except.error.inj met).symm⟩

/-- A limit that is refused is no number, or a whole one out of the range of fractions. -/
theorem allowance_error {v : Value} {f : Fault} (met : v.allowance = .error f) :
    f.IsMachinery := by
  unfold allowance at met
  split at met
  · cases met
  · cases met
  · split at met
    · cases met
    · split at met
      · exact ⟨_, _, (Except.error.inj met).symm⟩
      · cases met
  · cases met
  · exact ⟨_, _, (Except.error.inj met).symm⟩

end Value

namespace Fault

/-- Details are told by way of the texts of their values. -/
theorem detailsText_error {details : List Value} {met : Fault}
    (failed : detailsText details = .error met) : met.IsMachinery := by
  unfold detailsText at failed
  split at failed
  · cases failed
  · exact Value.text_error failed
  · exact Value.shown_error failed

theorem systemText_error {details : List Value} {met : Fault}
    (failed : systemText details = .error met) : met.IsMachinery := by
  unfold systemText at failed
  split at failed
  · obtain number | ⟨_, -, failed⟩ := Result.bind_error failed
    · exact Value.text_error number
    obtain reason | ⟨_, -, made⟩ := Result.bind_error failed
    · exact Value.text_error reason
    · cases made
  · obtain number | ⟨_, -, failed⟩ := Result.bind_error failed
    · exact Value.text_error number
    obtain reason | ⟨_, -, failed⟩ := Result.bind_error failed
    · exact Value.text_error reason
    obtain path | ⟨_, -, made⟩ := Result.bind_error failed
    · exact Value.shown_error path
    · cases made
  · obtain number | ⟨_, -, failed⟩ := Result.bind_error failed
    · exact Value.text_error number
    obtain reason | ⟨_, -, failed⟩ := Result.bind_error failed
    · exact Value.text_error reason
    obtain source | ⟨_, -, failed⟩ := Result.bind_error failed
    · exact Value.shown_error source
    obtain target | ⟨_, -, made⟩ := Result.bind_error failed
    · exact Value.shown_error target
    · cases made
  · exact detailsText_error failed

theorem characterStretch_error {content : String} {first last : Int} {met : Fault}
    (failed : characterStretch content first last = .error met) : met.IsMachinery := by
  unfold characterStretch at failed
  split at failed
  · cases failed
  · split at failed
    · cases failed
    · exact ⟨_, _, (Except.error.inj failed).symm⟩

theorem codingText_error {kind : String} {details : List Value} {met : Fault}
    (failed : codingText kind details = .error met) : met.IsMachinery := by
  unfold codingText at failed
  split at failed
  · cases failed
  · obtain stretch | ⟨_, -, made⟩ := Result.bind_error failed
    · exact characterStretch_error stretch
    · cases made
  · obtain stretch | ⟨_, -, made⟩ := Result.bind_error failed
    · exact characterStretch_error stretch
    · cases made
  · exact detailsText_error failed

theorem sourceText_error {details : List Value} {met : Fault}
    (failed : sourceText details = .error met) : met.IsMachinery := by
  unfold sourceText at failed
  split at failed
  · obtain message | ⟨_, -, made⟩ := Result.bind_error failed
    · exact Value.text_error message
    · dsimp only at made
      split at made <;> cases made
  · exact detailsText_error failed

/-- Every kind of fault beyond the library's own takes one of five wordings. -/
theorem wording_error {kind : String} {details : List Value} {met : Fault}
    (failed : (if (other kind details).isA "OSError" then systemText details
      else if (other kind details).isA "UnicodeError" then codingText kind details
      else if (other kind details).isA "SyntaxError" then sourceText details
      else detailsText details) = .error met) : met.IsMachinery := by
  split at failed
  · exact systemText_error failed
  split at failed
  · exact codingText_error failed
  split at failed
  · exact sourceText_error failed
  · exact detailsText_error failed

/-- Whatever a fault is about, what is met in forming its text is a fault of the machinery. A
fault put in the place of one without text therefore has a text itself. -/
theorem text_error {f met : Fault} (failed : f.text = .error met) : met.IsMachinery := by
  cases f with
  | general details => exact detailsText_error failed
  | conditionRejected details => exact detailsText_error failed
  | persistence details => exact detailsText_error failed
  | executionState details => exact detailsText_error failed
  | workflowNotFound workflow =>
    obtain told | ⟨_, -, made⟩ := Result.bind_error failed
    · exact Value.text_error told
    · cases made
  | invalidDefinition workflow problems =>
    obtain told | ⟨_, -, made⟩ := Result.bind_error failed
    · exact Value.text_error told
    · cases made
  | agentNotFound agent =>
    obtain told | ⟨_, -, made⟩ := Result.bind_error failed
    · exact Value.text_error told
    · cases made
  | actionNotFound agent action =>
    obtain told | ⟨_, -, failed⟩ := Result.bind_error failed
    · exact Value.text_error told
    obtain told | ⟨_, -, made⟩ := Result.bind_error failed
    · exact Value.text_error told
    · cases made
  | actionFailed agent action reason wrapped cause =>
    obtain told | ⟨_, -, failed⟩ := Result.bind_error failed
    · exact Value.text_error told
    obtain told | ⟨_, -, made⟩ := Result.bind_error failed
    · exact Value.text_error told
    · cases made
  | unresolvedReference path =>
    obtain told | ⟨_, -, made⟩ := Result.bind_error failed
    · exact Value.text_error told
    · cases made
  | executionNotFound execution =>
    obtain told | ⟨_, -, made⟩ := Result.bind_error failed
    · exact Value.text_error told
    · cases made
  | other kind details =>
    rcases details with _ | ⟨single, _ | ⟨second, more⟩⟩
    · exact wording_error failed
    · rw [text] at failed
      split at failed
      · exact Value.shown_error failed
      · exact Value.text_error failed
    · exact wording_error failed

/-- A fault that is raised is either one whose text can be formed, or the one met in trying. -/
theorem raised_hasText (f : Fault) : f.raised.HasText := by
  unfold raised
  split
  · rename_i message formed
    exact ⟨message, formed⟩
  · rename_i met failed
    exact (text_error failed).hasText

end Fault

/-- What is refused can be told, whatever it is about. -/
theorem refuse_hasText {α : Type} {f met : Fault} (refused : refuse (α := α) f = .error met) :
    met.HasText := by
  have same : f.raised = met := Except.error.inj refused
  exact same ▸ f.raised_hasText

/-- Looking a handler up fails on a key that cannot be one, or on a missing agent or action. -/
theorem Capabilities.handler_error {η : Type} {capabilities : Capabilities η}
    {agent action : Value} {f : Fault} (failed : capabilities.handler agent action = .error f) :
    f.HasText := by
  unfold Capabilities.handler at failed
  obtain key | ⟨_, -, failed⟩ := Result.bind_error failed
  · exact (Value.hashable_error key).hasText
  split at failed
  · exact refuse_hasText failed
  · obtain key | ⟨_, -, failed⟩ := Result.bind_error failed
    · exact (Value.hashable_error key).hasText
    split at failed
    · cases failed
    · exact refuse_hasText failed

end Stepwise
