import Stepwise.Proofs.Number.Shortest

/-!
# Numbers as they are spelled

Every finite number is written as digits, a point with more digits or none, and an exponent or
none, behind a minus if it is negative. However the digits are laid out, they stand for the shortest
ones and their point, so the number is what its written form reads as.
-/

namespace Stepwise

namespace Decimal

/-- The parts of a written number. -/
structure Spelling where
  whole : List Char
  fraction : List Char
  exponent : Option Int

namespace Spelling

/-- The fraction behind its point, if there is one. -/
def fractionChars (spelling : Spelling) : List Char :=
  if spelling.fraction = [] then [] else '.' :: spelling.fraction

/-- The digits of the exponent behind its mark and sign, if there is one. -/
def exponentChars (spelling : Spelling) : List Char :=
  match spelling.exponent with
  | none => []
  | some k => 'e' :: (if k < 0 then '-' else '+') :: padded 2 k.natAbs

def chars (spelling : Spelling) : List Char :=
  spelling.whole ++ spelling.fractionChars ++ spelling.exponentChars

/-- The number that is meant. -/
def number (negative : Bool) (spelling : Spelling) : Binary64 :=
  toBinary64 negative (value (spelling.whole ++ spelling.fraction))
    (spelling.exponent.getD 0 - spelling.fraction.length)

/-- Only digits are in the whole part and in the fraction, a zero in front stands alone, and there
is a fraction or an exponent. -/
structure IsProper (spelling : Spelling) : Prop where
  leading : ∃ first rest, spelling.whole = first :: rest ∧ (first = '0' → rest = [])
  whole : ∀ c ∈ spelling.whole, isDigit c = true
  fraction : ∀ c ∈ spelling.fraction, isDigit c = true
  broken : spelling.fraction ≠ [] ∨ spelling.exponent ≠ none

/-- The spelling is written as a text, and it means the number of some digits with their point in a
place. -/
structure LaysOut (spelling : Spelling) (ds : List Char) (point : Int) (text : List Char) :
    Prop where
  proper : spelling.IsProper
  written : spelling.chars = text
  meant : ∀ negative, spelling.number negative =
    toBinary64 negative (value ds) (point - ds.length)

section Layouts

variable {ds : List Char} {point : Int}

theorem isDigit_of_mem_zeros {count : Nat} :
    ∀ c ∈ List.replicate count '0', isDigit c = true := by
  intro c member
  rw [(List.mem_replicate.mp member).2]
  decide

/-- With the point in front, zeros come between it and the digits. -/
theorem laysOut_front (each : ∀ c ∈ ds, isDigit c = true) (some : ds ≠ []) (small : point ≤ 0) :
    LaysOut ⟨['0'], List.replicate (-point).toNat '0' ++ ds, none⟩ ds point
      ('0' :: '.' :: List.replicate (-point).toNat '0' ++ ds) where
  proper := by
    refine ⟨⟨'0', [], rfl, fun _ => rfl⟩, ?_, ?_, .inl (by simp [some])⟩
    · exact List.all_eq_true.mp rfl
    · intro c member
      exact (List.mem_append.mp member).elim (isDigit_of_mem_zeros c) (each c)
  written := by simp [chars, fractionChars, exponentChars, some]
  meant := by
    intro negative
    have front : value (['0'] ++ (List.replicate (-point).toNat '0' ++ ds)) = value ds := by
      rw [List.singleton_append, value_cons, value_append, value_zeros]
      simp [digit?]
    rw [number, front]
    congr 1
    simp only [List.length_append, List.length_replicate, Option.getD_none]
    omega

/-- With the point behind, zeros come between the digits and it, and another one after it. -/
theorem laysOut_back (each : ∀ c ∈ ds, isDigit c = true)
    (leading : ∃ first rest, ds = first :: rest ∧ first ≠ '0') (positive : 0 < point)
    (short : ds.length ≤ point.toNat) :
    LaysOut ⟨ds ++ List.replicate (point.toNat - ds.length) '0', ['0'], none⟩ ds point
      (ds ++ List.replicate (point.toNat - ds.length) '0' ++ ['.', '0']) where
  proper := by
    obtain ⟨first, rest, rfl, nonzero⟩ := leading
    refine ⟨⟨first, _, rfl, fun zero => absurd zero nonzero⟩, ?_, ?_, .inl (by simp)⟩
    · intro c member
      exact (List.mem_append.mp member).elim (each c) (isDigit_of_mem_zeros c)
    · exact List.all_eq_true.mp rfl
  written := by simp [chars, fractionChars, exponentChars]
  meant := by
    intro negative
    have shifted : value (ds ++ List.replicate (point.toNat - ds.length) '0' ++ ['0']) =
        value ds * 10 ^ (point.toNat - ds.length + 1) := by
      rw [List.append_assoc, ← List.replicate_succ', value_append, value_zeros,
        List.length_replicate, Nat.add_zero]
    rw [number, shifted, toBinary64_mul_pow]
    congr 1
    simp only [Option.getD_none, List.length_singleton]
    omega

/-- With the point among them, the digits are cut in two. -/
theorem laysOut_within (each : ∀ c ∈ ds, isDigit c = true)
    (leading : ∃ first rest, ds = first :: rest ∧ first ≠ '0') (positive : 0 < point)
    (long : point.toNat < ds.length) :
    LaysOut ⟨ds.take point.toNat, ds.drop point.toNat, none⟩ ds point
      (ds.take point.toNat ++ '.' :: ds.drop point.toNat) where
  proper := by
    obtain ⟨first, rest, rfl, nonzero⟩ := leading
    refine ⟨?_, ?_, ?_, .inl (by simpa using long)⟩
    · obtain ⟨before, same⟩ : ∃ before, point.toNat = before + 1 := ⟨point.toNat - 1, by omega⟩
      exact ⟨first, rest.take before, by rw [same, List.take_succ_cons],
        fun zero => absurd zero nonzero⟩
    · exact fun c member => each c (List.mem_of_mem_take member)
    · exact fun c member => each c (List.mem_of_mem_drop member)
  written := by
    have some : ds.drop point.toNat ≠ [] := by simpa using long
    simp only [chars, fractionChars, exponentChars, if_neg some, List.append_nil]
  meant := by
    intro negative
    rw [number, List.take_append_drop]
    congr 1
    simp only [Option.getD_none, List.length_drop]
    omega

/-- With the point far away, the first digit stands before one, and an exponent tells the place. -/
theorem laysOut_exponent {first : Char} {rest : List Char}
    (each : ∀ c ∈ first :: rest, isDigit c = true) :
    LaysOut ⟨[first], rest, some (point - 1)⟩ (first :: rest) point
      ((match first :: rest with
        | [single] => [single]
        | first :: rest => first :: '.' :: rest
        | [] => []) ++ ['e', if point - 1 < 0 then '-' else '+'] ++
          padded 2 (point - 1).natAbs) where
  proper := by
    refine ⟨⟨first, [], rfl, fun _ => rfl⟩, ?_, ?_, .inr (by simp)⟩
    · intro c member
      exact each c (List.mem_cons.mpr (.inl (List.mem_singleton.mp member)))
    · exact fun c member => each c (List.mem_cons_of_mem first member)
  written := by
    cases rest with
    | nil => simp [chars, fractionChars, exponentChars]
    | cons second rest => simp [chars, fractionChars, exponentChars]
  meant := by
    intro negative
    rw [number]
    congr 1
    simp only [Option.getD_some, List.length_cons]
    omega

end Layouts

end Spelling

/-- However digits are laid out around their point, they are spelled as what they stand for. -/
theorem layout_spelled {ds : List Char} (each : ∀ c ∈ ds, isDigit c = true)
    (leading : ∃ first rest, ds = first :: rest ∧ first ≠ '0') (point : Int) :
    ∃ spelling : Spelling, spelling.LaysOut ds point (layout ds point) := by
  have some : ds ≠ [] := by
    obtain ⟨first, rest, rfl, -⟩ := leading
    exact List.cons_ne_nil first rest
  unfold layout
  by_cases positioned : positional point = true
  · rw [if_pos positioned]
    by_cases small : point ≤ 0
    · rw [if_pos small]
      exact ⟨_, Spelling.laysOut_front each some small⟩
    · rw [if_neg small]
      dsimp only
      by_cases short : ds.length ≤ point.toNat
      · rw [if_pos short]
        exact ⟨_, Spelling.laysOut_back each leading (Int.not_le.mp small) short⟩
      · rw [if_neg short]
        exact ⟨_, Spelling.laysOut_within each leading (Int.not_le.mp small)
          (Nat.lt_of_not_le short)⟩
  · rw [if_neg positioned]
    obtain ⟨first, rest, rfl, -⟩ := leading
    exact ⟨_, Spelling.laysOut_exponent each⟩

/-- A finite number is spelled as itself. -/
theorem write_spelled {negative : Bool} {mantissa : Nat} {exponent : Int}
    (kept : (Binary64.finite negative mantissa exponent).isCanonical = true) :
    ∃ spelling : Spelling, spelling.IsProper ∧
      write (.finite negative mantissa exponent) =
        (if negative then '-' :: spelling.chars else spelling.chars) ∧
      spelling.number negative = .finite negative mantissa exponent := by
  by_cases nonzero : mantissa = 0
  · subst nonzero
    obtain ⟨-, full, -, -⟩ := Binary64.isCanonical_finite.mp kept
    obtain rfl : exponent = Binary64.leastExponent := full.resolve_left (by decide)
    refine ⟨⟨['0'], ['0'], none⟩, ⟨⟨'0', [], rfl, fun _ => rfl⟩,
      List.all_eq_true.mp rfl, List.all_eq_true.mp rfl, .inl (by simp)⟩, rfl, ?_⟩
    rfl
  · have unsigned : (Binary64.finite false mantissa exponent).isCanonical = true := kept
    obtain ⟨each, leading, reads⟩ := shortest_reads nonzero unsigned
    obtain ⟨spelling, proper, written, meant⟩ := layout_spelled each leading
      (shortest mantissa exponent).2
    refine ⟨spelling, proper, ?_, ?_⟩
    · rw [write, if_neg nonzero, written]
    · rw [meant]
      cases negative with
      | false => exact reads
      | true => rw [toBinary64_true, reads, Binary64.negate, Bool.not_false]

/-! ## Reading what is spelled -/

/-- A run of digits ends where something else begins. -/
theorem span_digits {ds rest : List Char} (each : ∀ c ∈ ds, isDigit c = true)
    (ends : ∀ c ∈ rest.head?, isDigit c = false) : (ds ++ rest).span isDigit = (ds, rest) := by
  rw [List.span_eq_takeWhile_dropWhile]
  induction ds with
  | nil =>
    cases rest with
    | nil => rfl
    | cons c rest => simp [ends c rfl]
  | cons d ds inductionHypothesis =>
    have later := inductionHypothesis fun c member => each c (List.mem_cons_of_mem d member)
    simp only [Prod.mk.injEq] at later
    simp [each d List.mem_cons_self, later.1, later.2]

namespace Spelling

variable {spelling : Spelling} {rest : List Char}

theorem exponentChars_head (spelling : Spelling) (ends : ∀ c ∈ rest.head?, isDigit c = false) :
    ∀ c ∈ (spelling.exponentChars ++ rest).head?, isDigit c = false := by
  unfold exponentChars
  split
  · exact ends
  · simp only [List.cons_append, List.head?_cons, Option.mem_some_iff]
    rintro c rfl
    decide

theorem fractionChars_head (spelling : Spelling) (ends : ∀ c ∈ rest.head?, isDigit c = false) :
    ∀ c ∈ (spelling.fractionChars ++ (spelling.exponentChars ++ rest)).head?,
      isDigit c = false := by
  unfold fractionChars
  split
  · exact spelling.exponentChars_head ends
  · simp only [List.cons_append, List.head?_cons, Option.mem_some_iff]
    rintro c rfl
    decide

theorem readExponent?_chars (spelling : Spelling) :
    readExponent? spelling.exponentChars = some (spelling.exponent.getD 0) := by
  unfold exponentChars
  split
  · rename_i none
    simp [none, readExponent?]
  · rename_i k given
    have some : padded 2 k.natAbs ≠ [] := by simp [padded, digits_ne_nil]
    have all : (padded 2 k.natAbs).all isDigit = true :=
      List.all_eq_true.mpr fun c member => isDigit_of_mem_padded member
    by_cases down : k < 0
    · simp only [given, down, if_true, readExponent?, splitSign, true_or, some, all, value_padded,
        ne_eq, not_false_eq_true, and_self, Option.getD_some, Option.some.injEq]
      omega
    · simp only [given, down, if_false, readExponent?, splitSign, true_or, if_true, some, all,
        value_padded, ne_eq, not_false_eq_true, and_self, Option.getD_some, Bool.false_eq_true,
        Option.some.injEq]
      omega

/-- What is spelled reads as the number that is meant. -/
theorem IsProper.readUnsigned? (proper : spelling.IsProper) (negative : Bool) :
    readUnsigned? negative spelling.chars = some (spelling.number negative) := by
  obtain ⟨first, others, begins, -⟩ := proper.leading
  have some : spelling.whole ≠ [] := by simp [begins]
  have done : ∀ c ∈ ([] : List Char).head?, isDigit c = false := by simp
  have whole : splitDigits spelling.chars =
      (spelling.whole, spelling.fractionChars ++ spelling.exponentChars) := by
    have head := spelling.fractionChars_head done
    rw [List.append_nil] at head
    rw [chars, List.append_assoc]
    exact span_digits proper.whole head
  unfold Decimal.readUnsigned?
  simp only [whole]
  by_cases plain : spelling.fraction = []
  · have fraction : spelling.fractionChars = [] := by rw [fractionChars, if_pos plain]
    have exponent := readExponent?_chars spelling
    have pointless : spelling.exponentChars = [] ∨ ∃ rest, spelling.exponentChars = 'e' :: rest := by
      unfold exponentChars
      split
      · exact .inl rfl
      · exact .inr ⟨_, rfl⟩
    rw [fraction, List.nil_append]
    rcases pointless with none | ⟨rest, marked⟩
    · rw [none] at exponent ⊢
      simp [exponent, some, plain, number]
    · rw [marked] at exponent ⊢
      simp [exponent, some, plain, number]
  · have fraction : spelling.fractionChars = '.' :: spelling.fraction := by
      rw [fractionChars, if_neg plain]
    rw [fraction, List.cons_append]
    have digits : splitDigits (spelling.fraction ++ spelling.exponentChars) =
        (spelling.fraction, spelling.exponentChars) := by
      have head := spelling.exponentChars_head done
      rw [List.append_nil] at head
      exact span_digits proper.fraction head
    simp only [digits, some, plain, readExponent?_chars, number]
    simp

end Spelling

/-- A number other than not-a-number is read back from its written form. -/
theorem read?_write {x : Binary64} (kept : x.isCanonical = true) (proper : x.isNaN = false) :
    read? (write x) = some x := by
  cases x with
  | nan mark => cases proper
  | infinity negative => cases negative <;> decide
  | finite negative mantissa exponent =>
    obtain ⟨spelling, proper, written, meant⟩ := write_spelled kept
    obtain ⟨first, rest, begins, -⟩ := proper.leading
    have digit : isDigit first = true := proper.whole first (by simp [begins])
    obtain ⟨n, small, rfl⟩ := exists_of_isDigit digit
    have lower : ∀ n < 10, (Nat.digitChar n).toLower ≠ 'i' ∧ (Nat.digitChar n).toLower ≠ 'n' := by
      decide
    obtain ⟨other, another⟩ := lower n small
    have wordless : readWord? negative spelling.chars = none := by
      simp [readWord?, Spelling.chars, begins, ← String.toList_inj, other, another]
    have signed : splitSign (write (.finite negative mantissa exponent)) =
        (negative, spelling.chars) := by
      rw [written]
      cases negative with
      | true => rfl
      | false =>
        have unsigned : ∀ n < 10, Nat.digitChar n ≠ '-' ∧ Nat.digitChar n ≠ '+' := by decide
        obtain ⟨minus, plus⟩ := unsigned n small
        simp [Spelling.chars, begins, splitSign, minus, plus]
    rw [read?, signed]
    simp [wordless, proper.readUnsigned?, meant]

end Decimal

end Stepwise
