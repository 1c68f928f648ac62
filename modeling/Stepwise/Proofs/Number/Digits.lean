import Mathlib.Algebra.Group.Nat.Defs
import Stepwise.Number.Decimal

/-!
# Runs of decimal digits

The digits of a number have the number as their value, begin with a zero for zero alone, and are
no more than the power of ten above the number has zeros. A power of ten more is that many zeros
at the end; zeros in front change nothing.
-/

namespace Stepwise

namespace Decimal

/-! ## Values -/

theorem foldl_value (total : Nat) (ds : List Char) :
    ds.foldl (fun total c => 10 * total + (digit? c).getD 0) total =
      total * 10 ^ ds.length + value ds := by
  unfold value
  induction ds generalizing total with
  | nil => simp
  | cons c rest inductionHypothesis =>
    rw [List.foldl_cons, List.foldl_cons, inductionHypothesis, inductionHypothesis (10 * 0 + _),
      List.length_cons, Nat.pow_succ']
    grind

theorem value_append (ds more : List Char) :
    value (ds ++ more) = value ds * 10 ^ more.length + value more := by
  rw [value, List.foldl_append]
  exact foldl_value (value ds) more

theorem value_cons (c : Char) (ds : List Char) :
    value (c :: ds) = (digit? c).getD 0 * 10 ^ ds.length + value ds := by
  have single : value [c] = (digit? c).getD 0 := by simp [value]
  rw [← single]
  exact value_append [c] ds

@[simp] theorem value_nil : value [] = 0 := rfl

@[simp] theorem value_zeros (count : Nat) : value (List.replicate count '0') = 0 := by
  induction count with
  | zero => rfl
  | succ count inductionHypothesis =>
    rw [List.replicate_succ, value_cons, inductionHypothesis]
    simp [digit?]

/-- A run of digits stays below the power of ten with as many zeros. -/
theorem value_lt (ds : List Char) : value ds < 10 ^ ds.length := by
  induction ds with
  | nil => decide
  | cons c rest inductionHypothesis =>
    have single : (digit? c).getD 0 < 10 := by
      unfold digit?
      split
      · rename_i bounds
        have high : c.toNat ≤ 57 := bounds.2
        change c.toNat - 48 < 10
        omega
      · decide
    rw [value_cons, List.length_cons, Nat.pow_succ']
    calc
      _ < (digit? c).getD 0 * 10 ^ rest.length + 10 ^ rest.length := by omega
      _ = ((digit? c).getD 0 + 1) * 10 ^ rest.length := by rw [Nat.add_mul, Nat.one_mul]
      _ ≤ 10 * 10 ^ rest.length := Nat.mul_le_mul_right _ single

/-! ## The digits of a number -/

theorem digit?_digitChar {n : Nat} (single : n < 10) : digit? n.digitChar = some n := by
  have each : ∀ n < 10, digit? (Nat.digitChar n) = some n := by decide
  exact each n single

/-- There are ten digits. -/
theorem exists_of_isDigit {c : Char} (digit : isDigit c = true) :
    ∃ n < 10, c = Nat.digitChar n := by
  have bounds : '0' ≤ c ∧ c ≤ '9' :=
    Decidable.byContradiction fun outside => by simp [isDigit, digit?, outside] at digit
  have low : 48 ≤ c.toNat := bounds.1
  have high : c.toNat ≤ 57 := bounds.2
  obtain ⟨n, same⟩ : ∃ n, c.toNat = 48 + n := ⟨c.toNat - 48, by omega⟩
  have each : ∀ n < 10, Char.ofNat (48 + n) = Nat.digitChar n := by decide
  refine ⟨n, by omega, ?_⟩
  rw [← Char.ofNat_toNat c, same]
  exact each n (by omega)

theorem ne_of_isDigit {c other : Char} (digit : isDigit c = true) (apart : isDigit other = false) :
    c ≠ other := by
  rintro rfl
  rw [digit] at apart
  cases apart

theorem digits_of_lt {n : Nat} (single : n < 10) : digits n = [n.digitChar] :=
  Nat.toDigits_of_lt_base single

theorem digits_of_le {n : Nat} (several : 10 ≤ n) :
    digits n = digits (n / 10) ++ [(n % 10).digitChar] :=
  Nat.toDigits_of_base_le (by decide) several

/-- The number is the value of its digits. -/
@[simp] theorem value_digits (n : Nat) : value (digits n) = n := by
  induction n using Nat.strongRecOn with
  | ind n inductionHypothesis =>
    by_cases single : n < 10
    · simp [digits_of_lt single, value, digit?_digitChar single]
    · rw [digits_of_le (by omega), value_append, inductionHypothesis (n / 10) (by omega)]
      have last : n % 10 < 10 := Nat.mod_lt n (by decide)
      simp only [value_cons, digit?_digitChar last, List.length_singleton, List.length_nil,
        value_nil, Option.getD_some]
      omega

theorem digits_ne_nil (n : Nat) : digits n ≠ [] := Nat.toDigits_ne_nil

theorem isDigit_of_mem_digits {n : Nat} {c : Char} (member : c ∈ digits n) :
    isDigit c = true := by
  induction n using Nat.strongRecOn with
  | ind n inductionHypothesis =>
    by_cases single : n < 10
    · rw [digits_of_lt single, List.mem_singleton] at member
      simp [member, isDigit, digit?_digitChar single]
    · rw [digits_of_le (by omega), List.mem_append, List.mem_singleton] at member
      rcases member with earlier | rfl
      · exact inductionHypothesis (n / 10) (by omega) earlier
      · simp [isDigit, digit?_digitChar (Nat.mod_lt n (by decide))]

theorem length_digits_pos (n : Nat) : 0 < (digits n).length :=
  List.length_pos_iff.mpr (digits_ne_nil n)

theorem length_digits_le_iff {n count : Nat} (positive : 0 < count) :
    (digits n).length ≤ count ↔ n < 10 ^ count :=
  Nat.length_toDigits_le_iff (by decide) positive

/-- The first digit of a number stands for a power of ten that the number reaches. -/
theorem pow_length_digits_le {n : Nat} (positive : n ≠ 0) : 10 ^ ((digits n).length - 1) ≤ n := by
  have some := length_digits_pos n
  by_cases one : (digits n).length = 1
  · rw [one]
    exact Nat.one_le_iff_ne_zero.mpr positive
  · refine Nat.le_of_not_lt fun less => ?_
    have short := (length_digits_le_iff (by omega)).mpr less
    omega

/-- Only zero begins with a zero. -/
theorem digits_ne_zero_cons {n : Nat} (positive : n ≠ 0) (rest : List Char) :
    digits n ≠ '0' :: rest := by
  induction n using Nat.strongRecOn generalizing rest with
  | ind n inductionHypothesis =>
    by_cases single : n < 10
    · rw [digits_of_lt single]
      intro same
      have found := digit?_digitChar single
      rw [(List.cons.inj same).1] at found
      exact positive (Option.some.inj found).symm
    · rw [digits_of_le (by omega)]
      obtain ⟨first, others, split⟩ := List.exists_cons_of_ne_nil (digits_ne_nil (n / 10))
      intro same
      rw [split] at same
      obtain ⟨rfl, -⟩ := List.cons.inj same
      exact inductionHypothesis (n / 10) (by omega) (by omega) others split

/-- Times a power of ten is that many zeros at the end. -/
theorem digits_mul_pow {n : Nat} (positive : n ≠ 0) (count : Nat) :
    digits (n * 10 ^ count) = digits n ++ List.replicate count '0' := by
  induction count with
  | zero => simp
  | succ count inductionHypothesis =>
    have several : 10 ≤ n * 10 ^ (count + 1) := by
      have power : 0 < n * 10 ^ count := Nat.mul_pos (by omega) (Nat.pow_pos (by decide))
      rw [Nat.pow_succ, ← Nat.mul_assoc]
      omega
    have tenth : n * 10 ^ (count + 1) / 10 = n * 10 ^ count := by
      rw [Nat.pow_succ, ← Nat.mul_assoc, Nat.mul_div_cancel _ (by decide)]
    have even : n * 10 ^ (count + 1) % 10 = 0 := by
      rw [Nat.pow_succ, ← Nat.mul_assoc, Nat.mul_mod_left]
    rw [digits_of_le several, tenth, even, inductionHypothesis, List.replicate_succ',
      List.append_assoc]
    rfl

/-! ## Padding -/

theorem length_padded {width n : Nat} (positive : 0 < width) (fits : n < 10 ^ width) :
    (padded width n).length = width := by
  have short := (length_digits_le_iff positive).mpr fits
  simp only [padded, List.length_append, List.length_replicate]
  omega

@[simp] theorem value_padded (width n : Nat) : value (padded width n) = n := by
  rw [padded, value_append, value_zeros, value_digits, Nat.zero_mul, Nat.zero_add]

theorem isDigit_of_mem_padded {width n : Nat} {c : Char} (member : c ∈ padded width n) :
    isDigit c = true := by
  rcases List.mem_append.mp member with zero | digit
  · rw [(List.mem_replicate.mp zero).2]
    decide
  · exact isDigit_of_mem_digits digit

end Decimal

end Stepwise
