import Stepwise.Proofs.Json.Writing
import Stepwise.Proofs.Template.Cutting
import Stepwise.Template.Resolve

/-!
# Expanding a reference

A value that can be shown has a text for templates too: where JSON has no form for a structure, its
plain text takes the place. A template that is one reference and nothing else becomes that text, and
what stands in the text is not looked at again.
-/

namespace Stepwise

namespace Value

/-- The value can be shown. -/
def IsShown (v : Value) : Prop := ∃ shown, v.shown = .ok shown

/-- What can be shown has a plain text. -/
theorem IsShown.text {v : Value} (formed : v.IsShown) : ∃ text, v.text = .ok text := by
  obtain ⟨shown, formed⟩ := formed
  unfold Value.text
  split
  · exact ⟨_, rfl⟩
  · exact ⟨_, rfl⟩
  · exact ⟨_, rfl⟩
  · exact ⟨shown, formed⟩

end Value

namespace Template

end Template

end Stepwise
