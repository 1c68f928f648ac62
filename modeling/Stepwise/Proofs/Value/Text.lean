import Stepwise.Proofs.Value.Copy
import Stepwise.Value.Text

/-!
# Texts of values under other identities

A host object shows the text that it was made with, and a faulty value fails with its message,
whichever of their copies is asked. So the texts of a value, quoted or plain, do not depend on the
identities in it, and neither does the fault that is met when a value has none.
-/

namespace Stepwise

namespace Value

mutual

theorem shown_relabel (change : Identity → Identity) : ∀ v : Value,
    (v.relabel change).shown = v.shown
  | .list items => by rw [relabel, shown, shown, shownItems_relabel change items]
  | .tuple items => by rw [relabel, shown, shown, shownItems_relabel change items]
  | .map entries => by rw [relabel, shown, shown, shownEntries_relabel change entries]
  | .set items => by rw [relabel, shown, shown, shownItems_relabel change items]
  | .object _ _ _ => by rw [relabel, shown, shown]
  | .faulty _ _ => by rw [relabel, shown, shown]
  | .null | .bool _ | .int _ | .float _ | .str _ | .bytes _ | .date _ | .moment _ | .callable
  | .endless _ _ => by simp only [relabel]

theorem shownItems_relabel (change : Identity → Identity) : ∀ items : List Value,
    shownItems (relabelItems change items) = shownItems items
  | [] => by rw [relabelItems]
  | item :: rest => by
    rw [relabelItems, shownItems, shownItems, shown_relabel change item,
      shownItems_relabel change rest]

theorem shownEntries_relabel (change : Identity → Identity) :
    ∀ entries : List (Value × Value),
      shownEntries (relabelEntries change entries) = shownEntries entries
  | [] => by rw [relabelEntries]
  | (key, content) :: rest => by
    rw [relabelEntries, shownEntries, shownEntries, shown_relabel change key,
      shown_relabel change content, shownEntries_relabel change rest]

end

theorem text_relabel (change : Identity → Identity) (v : Value) :
    (v.relabel change).text = v.text := by
  have whole := shown_relabel change v
  cases v with
  | list _ | tuple _ | map _ | set _ => simpa only [relabel, text] using whole
  | object _ _ _ | faulty _ _ => simpa only [relabel, text] using whole
  | _ => simp only [relabel]

/-- A copy has the text of what it is a copy of. -/
theorem text_copied (v : Value) : v.copied.text = v.text := by
  rw [copied_eq_relabel, text_relabel]

end Value

end Stepwise
