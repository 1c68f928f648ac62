import Stepwise.Proofs.Text.Utf8

/-!
# Plain text in files

A text of ASCII characters without carriage returns is kept in a file as it is: each character is
one byte, and no line end is changed when the file is read.
-/

namespace Stepwise

/-- The characters that a text file gives back as they are, one byte each. -/
def IsPlain (c : Char) : Prop := c.toNat < 0x80 ∧ c ≠ '\r'

instance (c : Char) : Decidable (IsPlain c) := inferInstanceAs (Decidable (_ ∧ _))

theorem plain_of_all {text : List Char} (all : (text.all fun c => decide (IsPlain c)) = true) :
    ∀ c ∈ text, IsPlain c := fun c member => of_decide_eq_true (List.all_eq_true.mp all c member)

theorem Text.uniformLines_of_plain {text : List Char} (plain : ∀ c ∈ text, IsPlain c) :
    uniformLines text = text :=
  uniformLines_of_not_mem fun member => (plain '\r' member).2 rfl

end Stepwise
