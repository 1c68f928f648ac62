import Stepwise.Json.Reader
import Stepwise.Json.Writer
import Stepwise.Proofs.Number.Spelling
import Stepwise.Proofs.Text.Plain

/-!
# Numbers in JSON

A number ends where a comma, a new line or the text's end follows. Up to there it is taken apart
into what it was spelled with: a whole number into its digits and a floating-point number into its
whole part, fraction and exponent, of which it has one of the latter two. That is how the two kinds
are told from each other.
-/

namespace Stepwise

namespace Json

open Decimal

/-- What follows a written value: nothing, or a comma or a new line. -/
def Ends (rest : List Char) : Prop := ∀ c ∈ rest.head?, c = ',' ∨ c = '\n'

theorem Ends.head {rest : List Char} (ends : Ends rest) : ∀ c ∈ rest.head?, isDigit c = false := by
  intro c first
  rcases ends c first with rfl | rfl <;> decide

theorem Ends.ne_cons {rest : List Char} (ends : Ends rest) {c : Char} (comma : c ≠ ',')
    (newline : c ≠ '\n') (more : List Char) : rest ≠ c :: more := by
  rintro rfl
  exact (ends c rfl).elim comma newline

variable {spelling : Spelling} {rest : List Char}

theorem fractionPart_chars (spelling : Spelling) (digits : ∀ c ∈ spelling.fraction, isDigit c = true)
    (ends : Ends rest) :
    fractionPart (spelling.fractionChars ++ (spelling.exponentChars ++ rest)) =
      (spelling.fractionChars, spelling.exponentChars ++ rest) := by
  unfold Spelling.fractionChars
  by_cases plain : spelling.fraction = []
  · rw [if_pos plain, List.nil_append]
    have pointless : ∀ more, spelling.exponentChars ++ rest ≠ '.' :: more := by
      intro more
      unfold Spelling.exponentChars
      split
      · exact ends.ne_cons (by decide) (by decide) more
      · simp
    unfold fractionPart
    split
    · rename_i more same
      exact absurd same (pointless more)
    · rfl
  · rw [if_neg plain, List.cons_append, fractionPart, span_digits digits
      (spelling.exponentChars_head ends.head)]
    simp only [plain, if_false]

theorem exponentPart_chars (spelling : Spelling) (ends : Ends rest) :
    exponentPart (spelling.exponentChars ++ rest) = (spelling.exponentChars, rest) := by
  unfold Spelling.exponentChars
  split
  · rw [List.nil_append]
    cases rest with
    | nil => rfl
    | cons mark more =>
      have lower : mark ≠ 'e' := by
        rintro rfl
        exact ends.ne_cons (by decide) (by decide) more rfl
      have upper : mark ≠ 'E' := by
        rintro rfl
        exact ends.ne_cons (by decide) (by decide) more rfl
      simp [exponentPart, lower, upper]
  · rename_i k _
    have digits : ∀ c ∈ padded 2 k.natAbs, isDigit c = true :=
      fun c member => isDigit_of_mem_padded member
    have several : padded 2 k.natAbs ≠ [] := by simp [padded, digits_ne_nil]
    by_cases down : k < 0
    · simp [-List.span_eq_takeWhile_dropWhile, exponentPart, down, span_digits digits ends.head,
        several]
    · simp [-List.span_eq_takeWhile_dropWhile, exponentPart, down, span_digits digits ends.head,
        several]

/-- A number is read in three parts, the first of which is a zero alone or the leading digits. -/
theorem number_eq (negative : Bool) {whole more : List Char}
    (leading : ∃ first others, whole = first :: others ∧ (first = '0' → others = []))
    (digits : ∀ c ∈ whole, isDigit c = true) (head : ∀ c ∈ more.head?, isDigit c = false) :
    number ((if negative then '-' :: whole else whole) ++ more) =
      if (fractionPart more).1 = [] ∧ (exponentPart (fractionPart more).2).1 = [] then
        if Numeral.digitLimit < whole.length then
          .error ⟨.tooManyDigits whole.length, (exponentPart (fractionPart more).2).2.length⟩
        else
          .ok (.int (if negative then -(Decimal.value whole : Int) else (Decimal.value whole : Int)),
            (exponentPart (fractionPart more).2).2)
      else
        .ok (.float ((readUnsigned? negative
          (whole ++ (fractionPart more).1 ++ (exponentPart (fractionPart more).2).1)).getD
            (.nan default)), (exponentPart (fractionPart more).2).2) := by
  obtain ⟨first, others, rfl, alone⟩ := leading
  have digit := digits first List.mem_cons_self
  have unsigned : first ≠ '-' := ne_of_isDigit digit (by decide)
  have several : first :: others ≠ [] := by simp
  by_cases zero : first = '0'
  · obtain rfl := alone zero
    subst zero
    cases negative <;> simp [number, -List.span_eq_takeWhile_dropWhile]
  · have span : (first :: (others ++ more)).span isDigit = (first :: others, more) :=
      span_digits digits head
    cases negative <;>
      simp [number, -List.span_eq_takeWhile_dropWhile, zero, unsigned, span]

/-- A number that has a fraction or an exponent is read as what is meant. -/
theorem number_chars (proper : spelling.IsProper) (negative : Bool) (ends : Ends rest) :
    number ((if negative then '-' :: spelling.chars else spelling.chars) ++ rest) =
      .ok (.float (spelling.number negative), rest) := by
  have signed : (if negative then '-' :: spelling.chars else spelling.chars) ++ rest =
      (if negative then '-' :: spelling.whole else spelling.whole) ++
        (spelling.fractionChars ++ (spelling.exponentChars ++ rest)) := by
    cases negative <;> simp [Spelling.chars]
  have broken : ¬ (spelling.fractionChars = [] ∧ spelling.exponentChars = []) := by
    rintro ⟨noFraction, noExponent⟩
    rcases proper.broken with fraction | exponent
    · simp [Spelling.fractionChars, fraction] at noFraction
    · obtain ⟨k, given⟩ := Option.ne_none_iff_exists'.mp exponent
      simp [Spelling.exponentChars, given] at noExponent
  rw [signed, number_eq negative proper.leading proper.whole
      (spelling.fractionChars_head ends.head),
    fractionPart_chars spelling proper.fraction ends]
  simp only [exponentPart_chars spelling ends]
  rw [if_neg broken]
  have reads := proper.readUnsigned? negative
  rw [Spelling.chars] at reads
  rw [reads]
  rfl

/-! ## Whole numbers -/

/-- A whole number that is not too long is written with its digits behind its sign. -/
theorem writeWhole_eq {n : Int} (short : n.natAbs < Nat.pow 10 Numeral.digitLimit) :
    writeWhole n = .ok (if n < 0 then '-' :: digits n.natAbs else digits n.natAbs) := by
  rw [writeWhole, Value.wholeText, if_pos short]
  have shown : (toString n).toList =
      if n < 0 then '-' :: digits n.natAbs else digits n.natAbs := by
    rw [Int.toString_eq_repr, Int.repr_eq_if]
    by_cases negative : n < 0
    · have size : (-n).toNat = n.natAbs := by omega
      rw [if_neg (by omega), if_pos negative, size, Nat.repr_eq_ofList_toDigits]
      simp [digits]
    · have size : n.toNat = n.natAbs := by omega
      rw [if_pos (by omega), if_neg negative, size, Nat.repr_eq_ofList_toDigits]
      simp [digits]
  rw [Except.map, shown]

/-- A whole number is read back. -/
theorem number_writeWhole {n : Int} (short : n.natAbs < Nat.pow 10 Numeral.digitLimit)
    {text : List Char} (written : writeWhole n = .ok text) (ends : Ends rest) :
    number (text ++ rest) = .ok (.int n, rest) := by
  rw [writeWhole_eq short] at written
  obtain rfl := Except.ok.inj written
  have leading : ∃ first others, digits n.natAbs = first :: others ∧
      (first = '0' → others = []) := by
    obtain ⟨first, others, begins⟩ := List.exists_cons_of_ne_nil (digits_ne_nil n.natAbs)
    refine ⟨first, others, begins, ?_⟩
    rintro rfl
    by_cases zero : n.natAbs = 0
    · rw [zero] at begins
      exact (List.cons.inj begins).2.symm
    · exact absurd begins (digits_ne_zero_cons zero others)
  have fraction : fractionPart rest = ([], rest) :=
    fractionPart_chars ⟨digits n.natAbs, [], none⟩ (by simp) ends
  have exponent : exponentPart rest = ([], rest) :=
    exponentPart_chars ⟨digits n.natAbs, [], none⟩ ends
  have fits : ¬ Numeral.digitLimit < (digits n.natAbs).length := by
    have positive : 0 < Numeral.digitLimit := by decide
    generalize Numeral.digitLimit = limit at short positive ⊢
    exact not_lt.mpr ((length_digits_le_iff positive).mpr short)
  have same : (if decide (n < 0) = true then '-' :: digits n.natAbs else digits n.natAbs) =
      if n < 0 then '-' :: digits n.natAbs else digits n.natAbs := by simp
  rw [← same, number_eq (decide (n < 0)) leading (fun c member => isDigit_of_mem_digits member)
    ends.head, fraction]
  simp only [exponent, and_self, if_true, if_neg fits, value_digits, decide_eq_true_eq]
  congr 3
  split <;> omega

end Json

end Stepwise
