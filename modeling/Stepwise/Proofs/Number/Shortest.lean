import Stepwise.Proofs.Number.Digits
import Stepwise.Proofs.Number.Rounding

/-!
# Shortest digits read back

A number is written with digits that were tried: they read back as the number. The trial ends at
seventeen digits at the latest. There the decimal grid is so fine that its point nearest to a number
is within one part in `2 ^ 54` of it, and what is that near is rounded to the number again.
-/

namespace Stepwise

namespace Decimal

open Binary64

/-! ## Reading decimals -/

/-- A decimal is read by its value: zeros at the end of its digits weigh like its exponent. -/
theorem toBinary64_mul_pow (negative : Bool) (significand count : Nat) (exponent : Int) :
    toBinary64 negative (significand * 10 ^ count) exponent =
      toBinary64 negative significand (exponent + count) := by
  by_cases nonzero : significand = 0
  · simp [toBinary64, nonzero]
  have nonzero' : significand * 10 ^ count ≠ 0 :=
    Nat.mul_ne_zero nonzero (Nat.pow_pos (by decide)).ne'
  have reach : exponent + ((digits (significand * 10 ^ count)).length : Int) =
      exponent + count + ((digits significand).length : Int) := by
    rw [digits_mul_pow nonzero, List.length_append, List.length_replicate]
    push_cast
    ring
  unfold toBinary64
  rw [if_neg nonzero, if_neg nonzero']
  simp only [reach]
  split
  · rfl
  split
  · rfl
  by_cases up : 0 ≤ exponent
  · rw [if_pos up, if_pos (by omega), Int.toNat_add up (Int.natCast_nonneg count), Int.toNat_natCast,
      Nat.pow_eq, Nat.pow_eq, Nat.mul_assoc, ← Nat.pow_add, Nat.add_comm]
  · obtain ⟨gap, below⟩ := Int.eq_ofNat_of_zero_le (show 0 ≤ -exponent by omega)
    obtain rfl : exponent = -(gap : Int) := by omega
    rw [if_neg up, Int.neg_neg, Int.toNat_natCast]
    by_cases up' : 0 ≤ -(gap : Int) + count
    · obtain ⟨more, rfl⟩ : ∃ more, count = gap + more := ⟨count - gap, by omega⟩
      have power : (-(gap : Int) + (gap + more : Nat)).toNat = more := by omega
      rw [if_pos up', power, Nat.pow_eq, Nat.pow_eq, Nat.pow_add, Nat.mul_comm (10 ^ gap),
        ← Nat.mul_assoc]
      have shifted := ofRatio_mul negative (Nat.pow_pos (by decide) : 0 < 10 ^ gap) Nat.one_pos
        (significand * 10 ^ more)
      rw [Nat.one_mul] at shifted
      exact shifted
    · obtain ⟨more, rfl⟩ : ∃ more, gap = count + more := ⟨gap - count, by omega⟩
      have power : (-(-((count + more : Nat) : Int) + (count : Int))).toNat = more := by omega
      rw [if_neg up', power, Nat.pow_eq, Nat.pow_eq, Nat.add_comm count more, Nat.pow_add]
      exact ofRatio_mul negative (Nat.pow_pos (by decide)) (Nat.pow_pos (by decide)) significand

theorem toBinary64_true (significand : Nat) (exponent : Int) :
    toBinary64 true significand exponent = (toBinary64 false significand exponent).negate := by
  unfold toBinary64
  split
  · rfl
  dsimp only
  split
  · rfl
  split
  · rfl
  split
  · exact ofRatio_true _ _
  · exact ofRatio_true _ _

/-- The greatest numbers are below two to the 1024. -/
theorem lt_top {negative : Bool} {mantissa : Nat} {exponent : Int}
    (kept : (finite negative mantissa exponent).isCanonical = true) :
    (mantissa : ℚ) * 2 ^ exponent < 2 ^ (1024 : Nat) := by
  obtain ⟨bits, -, -, greatest⟩ := isCanonical_finite.mp kept
  have bits' : (mantissa : ℚ) < 2 ^ 53 := by exact_mod_cast bits
  have bounded : exponent ≤ 971 := greatest
  calc (mantissa : ℚ) * 2 ^ exponent < 2 ^ 53 * 2 ^ exponent := by gcongr
    _ ≤ 2 ^ 53 * 2 ^ ((971 : Nat) : Int) := by
      gcongr
      · norm_num
      · exact bounded
    _ = 2 ^ (1024 : Nat) := by rw [zpow_natCast, ← pow_add]

/-- The leading digit of a decimal that is not above twice the greatest numbers is not far out. -/
theorem reach_le {significand : Nat} {power : Int} (nonzero : significand ≠ 0)
    (bounded : (significand : ℚ) * 10 ^ power < 2 * 2 ^ (1024 : Nat)) :
    power + ((digits significand).length : Int) ≤ 400 := by
  by_contra far
  have several := length_digits_pos significand
  have leading : (10 : ℚ) ^ (((digits significand).length - 1 : Nat) : Int) ≤ significand := by
    rw [zpow_natCast]
    exact_mod_cast pow_length_digits_le nonzero
  have large : (10 : ℚ) ^ (400 : Nat) ≤ significand * 10 ^ power := by
    calc (10 : ℚ) ^ (400 : Nat) = 10 ^ (400 : Int) := rfl
      _ ≤ 10 ^ ((((digits significand).length - 1 : Nat) : Int) + power) := by
        apply zpow_le_zpow_right₀ (by norm_num)
        omega
      _ ≤ significand * 10 ^ power := by
        rw [zpow_add₀ (by norm_num)]
        gcongr
  have apart : (2 : ℚ) * 2 ^ (1024 : Nat) < 10 ^ (400 : Nat) := by
    have whole : 2 * 2 ^ 1024 < 10 ^ 400 := by decide +kernel
    exact_mod_cast whole
  exact absurd (large.trans_lt bounded) apart.not_gt

/-- A decimal within one part in `2 ^ 54` of a representable number reads as that number, unless its
exponent is beyond what is read at all. -/
theorem toBinary64_of_near {significand mantissa : Nat} {exponent power : Int}
    (nonzero : mantissa ≠ 0)
    (kept : (finite false mantissa exponent).isCanonical = true)
    (lowest : -400 ≤ power)
    (near : |(significand : ℚ) * 10 ^ power - mantissa * 2 ^ exponent| * 2 ^ 54 <
      mantissa * 2 ^ exponent) :
    toBinary64 false significand power = .finite false mantissa exponent := by
  have unit : (0 : ℚ) < 2 ^ exponent := zpow_pos (by norm_num) exponent
  have least : (1 : ℚ) ≤ mantissa := by exact_mod_cast Nat.one_le_iff_ne_zero.mpr nonzero
  have positive : (0 : ℚ) < mantissa * 2 ^ exponent := by positivity
  have nonzero' : significand ≠ 0 := by
    rintro rfl
    rw [Nat.cast_zero, zero_mul, zero_sub, abs_neg, abs_of_pos positive] at near
    linarith
  obtain ⟨-, high⟩ := abs_lt.mp (show
    |(significand : ℚ) * 10 ^ power - mantissa * 2 ^ exponent| < mantissa * 2 ^ exponent by
      linarith [abs_nonneg ((significand : ℚ) * 10 ^ power - mantissa * 2 ^ exponent)])
  have reached : ¬ 400 < power + ((digits significand).length : Int) := by
    refine not_lt.mpr (reach_le nonzero' ?_)
    calc (significand : ℚ) * 10 ^ power < 2 * (mantissa * 2 ^ exponent) := by linarith only [high]
      _ < 2 * 2 ^ (1024 : Nat) := by linarith only [lt_top kept]
  have several := length_digits_pos significand
  unfold toBinary64
  rw [if_neg nonzero']
  dsimp only
  rw [if_neg reached, if_neg (by omega)]
  by_cases up : 0 ≤ power
  · rw [if_pos up]
    refine ofRatio_of_near Nat.one_pos nonzero kept ?_
    have value : (10 : ℚ) ^ power = ((10 ^ power.toNat : Nat) : ℚ) := zpow_of_nonneg up
    rw [value] at near
    rw [Nat.cast_one, div_one, Nat.cast_mul]
    exact near
  · rw [if_neg up]
    refine ofRatio_of_near (Nat.pow_pos (by decide)) nonzero kept ?_
    have value : (10 : ℚ) ^ power = (((10 ^ (-power).toNat : Nat) : ℚ))⁻¹ := zpow_of_neg up
    rw [value, ← div_eq_mul_inv] at near
    exact near

/-! ## The decimal magnitude -/

/-- Three decimal digits for ten bits, made a little finer: a bit is less than the thirty thousand
one hundred and third part of a hundred thousand digits, and that by so little that up to the
greatest exponents it does not make a digit. -/
theorem pow_guess_le {bits guess : Int} (lowest : -1100 ≤ bits) (highest : bits ≤ 1100)
    (guessed : guess = bits * 30103 / 100000) : (10 : ℚ) ^ (guess - 1) ≤ 2 ^ bits := by
  by_cases up : 0 ≤ bits
  · -- Ten to the 59 is just below two to the 196.
    have powers : ((10 : ℚ) ^ (guess - 1)) ^ 196 ≤ ((2 : ℚ) ^ bits) ^ 196 := by
      calc ((10 : ℚ) ^ (guess - 1)) ^ 196 = 10 ^ ((guess - 1) * 196) := by
            rw [zpow_mul]
            rfl
        _ ≤ 10 ^ (59 * bits) := by
          apply zpow_le_zpow_right₀ (by norm_num)
          omega
        _ = ((10 : ℚ) ^ (59 : Nat)) ^ bits := by rw [zpow_mul]; rfl
        _ ≤ ((2 : ℚ) ^ (196 : Nat)) ^ bits := by
          apply zpow_le_zpow_left₀ up (by norm_num)
          norm_num
        _ = ((2 : ℚ) ^ bits) ^ 196 := by
          rw [← zpow_natCast, ← zpow_natCast, ← zpow_mul, ← zpow_mul, mul_comm]
    exact le_of_pow_le_pow_left₀ (by norm_num) (by positivity) powers
  · -- Two to the 93 is just below ten to the 28.
    have powers : ((10 : ℚ) ^ (guess - 1)) ^ 93 ≤ ((2 : ℚ) ^ bits) ^ 93 := by
      calc ((10 : ℚ) ^ (guess - 1)) ^ 93 = 10 ^ ((guess - 1) * 93) := by
            rw [zpow_mul]
            rfl
        _ ≤ 10 ^ (28 * bits) := by
          apply zpow_le_zpow_right₀ (by norm_num)
          omega
        _ = ((10 : ℚ) ^ (28 : Nat)) ^ bits := by rw [zpow_mul]; rfl
        _ ≤ ((2 : ℚ) ^ (93 : Nat)) ^ bits := by
          obtain ⟨down, rfl⟩ : ∃ down : Int, bits = -down := ⟨-bits, by omega⟩
          rw [zpow_neg, zpow_neg]
          apply inv_anti₀ (by positivity)
          apply zpow_le_zpow_left₀ (by omega) (by norm_num)
          norm_num
        _ = ((2 : ℚ) ^ bits) ^ 93 := by
          rw [← zpow_natCast, ← zpow_natCast, ← zpow_mul, ← zpow_mul, mul_comm]
    exact le_of_pow_le_pow_left₀ (by norm_num) (by positivity) powers

theorem binaryMagnitude_of_canonical {mantissa : Nat} {exponent : Int} (nonzero : mantissa ≠ 0)
    (kept : (finite false mantissa exponent).isCanonical = true) :
    -1074 ≤ binaryMagnitude (ratio mantissa exponent).1 (ratio mantissa exponent).2 ∧
      binaryMagnitude (ratio mantissa exponent).1 (ratio mantissa exponent).2 ≤ 1023 := by
  obtain ⟨bits, -, least, greatest⟩ := isCanonical_finite.mp kept
  have proper := ratio_pos mantissa exponent
  have proper' : (0 : ℚ) < (ratio mantissa exponent).2 := by exact_mod_cast proper
  have some : (1 : ℚ) ≤ mantissa := by exact_mod_cast Nat.one_le_iff_ne_zero.mpr nonzero
  have bits' : (mantissa : ℚ) < 2 ^ (53 : Int) := by
    norm_num
    exact_mod_cast bits
  have unit : (0 : ℚ) < 2 ^ exponent := zpow_pos (by norm_num) exponent
  obtain ⟨low, high⟩ := binaryMagnitude_bounds (ratio_ne_zero nonzero exponent) proper.ne'
  rw [ratio_value] at low high
  have lower : (2 : ℚ) ^ exponent < 2 ^ (binaryMagnitude (ratio mantissa exponent).1
      (ratio mantissa exponent).2 + 1) := by
    calc (2 : ℚ) ^ exponent ≤ mantissa * 2 ^ exponent := le_mul_of_one_le_left unit.le some
      _ < _ := high
  have upper : (2 : ℚ) ^ binaryMagnitude (ratio mantissa exponent).1
      (ratio mantissa exponent).2 < 2 ^ (53 + exponent) := by
    calc (2 : ℚ) ^ binaryMagnitude (ratio mantissa exponent).1 (ratio mantissa exponent).2
        ≤ mantissa * 2 ^ exponent := low
      _ < 2 ^ (53 : Int) * 2 ^ exponent := by gcongr
      _ = 2 ^ (53 + exponent) := by rw [zpow_add₀ (by norm_num)]
  have lower' := (zpow_lt_zpow_iff_right₀ (by norm_num : (1 : ℚ) < 2)).mp lower
  have upper' := (zpow_lt_zpow_iff_right₀ (by norm_num : (1 : ℚ) < 2)).mp upper
  unfold leastExponent at least
  unfold greatestExponent at greatest
  omega

/-- The decimal magnitude of a number is not far out, and its power of ten is not above it. -/
theorem decimalMagnitude_bounds {mantissa : Nat} {exponent : Int} (nonzero : mantissa ≠ 0)
    (kept : (finite false mantissa exponent).isCanonical = true) :
    -330 ≤ decimalMagnitude (ratio mantissa exponent).1 (ratio mantissa exponent).2 ∧
      (10 : ℚ) ^ decimalMagnitude (ratio mantissa exponent).1 (ratio mantissa exponent).2 ≤
        mantissa * 2 ^ exponent := by
  obtain ⟨least, greatest⟩ := binaryMagnitude_of_canonical nonzero kept
  have proper := ratio_pos mantissa exponent
  have proper' : (0 : ℚ) < (ratio mantissa exponent).2 := by exact_mod_cast proper
  obtain ⟨low, -⟩ := binaryMagnitude_bounds (ratio_ne_zero nonzero exponent) proper.ne'
  have reached (k : Int) :
      (if 0 ≤ k then decide ((ratio mantissa exponent).2 * Nat.pow 10 k.toNat ≤
          (ratio mantissa exponent).1)
        else decide ((ratio mantissa exponent).2 ≤
          (ratio mantissa exponent).1 * Nat.pow 10 (-k).toNat)) = true ↔
        (10 : ℚ) ^ k ≤ (ratio mantissa exponent).1 / (ratio mantissa exponent).2 := by
    have settled := reached_iff (by decide : 0 < 10) (ratio mantissa exponent).1
      (ratio mantissa exponent).2 k
    rw [le_div_iff₀ proper']
    refine Iff.trans ?_ settled
    split <;> simp
  rw [← ratio_value mantissa exponent]
  unfold decimalMagnitude
  dsimp only
  generalize guessed : binaryMagnitude (ratio mantissa exponent).1 (ratio mantissa exponent).2 *
    30103 / 100000 = guess
  by_cases above : (10 : ℚ) ^ (guess + 1) ≤
      (ratio mantissa exponent).1 / (ratio mantissa exponent).2
  · rw [if_pos ((reached _).mpr above)]
    exact ⟨by omega, above⟩
  rw [if_neg (mt (reached _).mp above)]
  by_cases here : (10 : ℚ) ^ guess ≤ (ratio mantissa exponent).1 / (ratio mantissa exponent).2
  · rw [if_pos ((reached _).mpr here)]
    exact ⟨by omega, here⟩
  rw [if_neg (mt (reached _).mp here)]
  exact ⟨by omega, (pow_guess_le (by omega) (by omega) guessed.symm).trans low⟩

/-! ## The decimal grid -/

/-- What is found on a grid reads back. -/
theorem toBinary64_of_onGrid? {numerator denominator count found : Nat} {itself : Binary64}
    {magnitude : Int}
    (tried : onGrid? numerator denominator itself magnitude count = some found) :
    toBinary64 false found (magnitude + 1 - count) = itself := by
  unfold onGrid? at tried
  dsimp only at tried
  generalize (if 0 ≤ magnitude + 1 - (count : Int) then
      (numerator, denominator * Nat.pow 10 (magnitude + 1 - (count : Int)).toNat)
    else (numerator * Nat.pow 10 (-(magnitude + 1 - (count : Int))).toNat, denominator)) = grid
    at tried
  split at tried
  · rename_i below above
    rw [decide_eq_true_iff] at below above
    split at tried
    · cases tried
      exact below
    · cases tried
      exact above
  · rename_i below _
    cases tried
    exact of_decide_eq_true below
  · rename_i _ above
    cases tried
    exact of_decide_eq_true above
  · cases tried

/-- When one of the neighbours on a grid reads back, something is found there. -/
theorem isSome_onGrid? {numerator denominator count : Nat} {itself : Binary64} {magnitude : Int}
    {candidate : Nat}
    (neighbour : candidate = (scaled 10 numerator denominator (magnitude + 1 - count)).1 /
        (scaled 10 numerator denominator (magnitude + 1 - count)).2 ∨
      candidate = (scaled 10 numerator denominator (magnitude + 1 - count)).1 /
        (scaled 10 numerator denominator (magnitude + 1 - count)).2 + 1)
    (reads : toBinary64 false candidate (magnitude + 1 - count) = itself) :
    (onGrid? numerator denominator itself magnitude count).isSome = true := by
  have grid : (if 0 ≤ magnitude + 1 - (count : Int) then
      (numerator, denominator * Nat.pow 10 (magnitude + 1 - (count : Int)).toNat)
    else (numerator * Nat.pow 10 (-(magnitude + 1 - (count : Int))).toNat, denominator)) =
      scaled 10 numerator denominator (magnitude + 1 - count) := rfl
  unfold onGrid?
  dsimp only
  rw [grid]
  split
  · rfl
  · rfl
  · rfl
  · rename_i below above
    rcases neighbour with rfl | rfl
    · exact absurd reads (of_decide_eq_false below)
    · exact absurd reads (of_decide_eq_false above)

theorem roundedQuotient_neighbour (numerator denominator : Nat) :
    roundedQuotient numerator denominator = numerator / denominator ∨
      roundedQuotient numerator denominator = numerator / denominator + 1 := by
  unfold roundedQuotient
  dsimp only
  split
  · exact .inl rfl
  · split
    · exact .inr rfl
    · omega

/-- Seventeen digits are enough for every number. -/
theorem isSome_onGrid?_seventeen {mantissa : Nat} {exponent : Int} (nonzero : mantissa ≠ 0)
    (kept : (finite false mantissa exponent).isCanonical = true) :
    (onGrid? (ratio mantissa exponent).1 (ratio mantissa exponent).2
      (finite false mantissa exponent)
      (decimalMagnitude (ratio mantissa exponent).1 (ratio mantissa exponent).2) 17).isSome =
        true := by
  obtain ⟨lowest, reached⟩ := decimalMagnitude_bounds nonzero kept
  generalize decimalMagnitude (ratio mantissa exponent).1 (ratio mantissa exponent).2 = magnitude
    at lowest reached ⊢
  generalize placed : magnitude + 1 - ((17 : Nat) : Int) = power
  have unit : (0 : ℚ) < 10 ^ power := zpow_pos (by norm_num) power
  have near := roundedQuotient_near
    (scaled 10 (ratio mantissa exponent).1 (ratio mantissa exponent).2 power).1
    (scaled_pos (by decide : 0 < 10) (ratio_pos mantissa exponent)
      (ratio mantissa exponent).1 power)
  rw [scaled_quotient, ratio_value] at near
  subst placed
  refine isSome_onGrid? (roundedQuotient_neighbour _ _) (toBinary64_of_near nonzero kept
    (by omega) ?_)
  generalize roundedQuotient _ _ = candidate at near ⊢
  generalize placed : magnitude + 1 - ((17 : Nat) : Int) = power at unit near ⊢
  generalize (mantissa : ℚ) * 2 ^ exponent = x at reached near ⊢
  -- The grid is at least ten to the sixteen times finer than the number is large.
  have fine : 10 ^ 16 * (10 : ℚ) ^ power ≤ x := by
    calc 10 ^ 16 * (10 : ℚ) ^ power = 10 ^ magnitude := by
          rw [show magnitude = ((16 : Nat) : Int) + power by omega, zpow_add₀ (by norm_num),
            zpow_natCast]
      _ ≤ x := reached
  have apart : |(candidate : ℚ) * 10 ^ power - x| ≤ 1 / 2 * 10 ^ power := by
    have factored : (candidate : ℚ) * 10 ^ power - x =
        -((x / 10 ^ power - candidate) * 10 ^ power) := by
      rw [sub_mul, div_mul_cancel₀ _ unit.ne']
      ring
    rw [factored, abs_neg, abs_mul, abs_of_pos unit]
    push_cast at near
    gcongr
  linarith

/-! ## The shortest digits -/

/-- The search ends with digits that read back, if there are some at seventeen digits. -/
theorem shortestFrom_reads {numerator denominator : Nat} {itself : Binary64} {magnitude : Int}
    (last : (onGrid? numerator denominator itself magnitude 17).isSome = true) {fuel count : Nat}
    (remaining : fuel + count = 18) (started : count ≤ 17) :
    toBinary64 false (shortestFrom numerator denominator itself magnitude fuel count).1
      (magnitude + 1 - (shortestFrom numerator denominator itself magnitude fuel count).2) =
        itself := by
  induction fuel generalizing count with
  | zero => omega
  | succ fuel inductionHypothesis =>
    rw [shortestFrom]
    cases tried : onGrid? numerator denominator itself magnitude count with
    | some found => exact toBinary64_of_onGrid? tried
    | none =>
      have further : count ≠ 17 := by
        rintro rfl
        rw [tried] at last
        cases last
      exact inductionHypothesis (by omega) (by omega)

/-- Digits are those up to the zeros at their end, and these zeros. -/
theorem exists_zeros (ds : List Char) : ∃ zeros,
    ds = (ds.reverse.dropWhile (· = '0')).reverse ++ List.replicate zeros '0' := by
  refine ⟨(ds.reverse.takeWhile (· = '0')).length, ?_⟩
  have zeros : ds.reverse.takeWhile (· = '0') =
      List.replicate (ds.reverse.takeWhile (· = '0')).length '0' := by
    refine List.eq_replicate_of_mem fun c member => ?_
    have each := List.all_eq_true.mp
      (List.all_takeWhile (p := (· = '0')) (l := ds.reverse)) c member
    exact of_decide_eq_true each
  have whole := congrArg List.reverse
    (List.takeWhile_append_dropWhile (p := (· = '0')) (l := ds.reverse))
  rw [List.reverse_append, List.reverse_reverse, zeros, List.reverse_replicate] at whole
  exact whole.symm

/-- The shortest digits of a number begin with no zero, and with their point they read back as the
number. -/
theorem shortest_reads {mantissa : Nat} {exponent : Int} (nonzero : mantissa ≠ 0)
    (kept : (finite false mantissa exponent).isCanonical = true) :
    (∀ c ∈ (shortest mantissa exponent).1, isDigit c = true) ∧
      (∃ first rest, (shortest mantissa exponent).1 = first :: rest ∧ first ≠ '0') ∧
      toBinary64 false (value (shortest mantissa exponent).1)
        ((shortest mantissa exponent).2 - (shortest mantissa exponent).1.length) =
          finite false mantissa exponent := by
  have reads := shortestFrom_reads (isSome_onGrid?_seventeen nonzero kept)
    (by decide : 17 + 1 = 18) (by decide)
  unfold shortest
  dsimp only
  generalize shortestFrom (ratio mantissa exponent).1 (ratio mantissa exponent).2
    (.finite false mantissa exponent)
    (decimalMagnitude (ratio mantissa exponent).1 (ratio mantissa exponent).2) 17 1 = trial
    at reads ⊢
  generalize decimalMagnitude (ratio mantissa exponent).1 (ratio mantissa exponent).2 = magnitude
    at reads ⊢
  obtain ⟨found, count⟩ := trial
  dsimp only at reads ⊢
  have positive : found ≠ 0 := by
    rintro rfl
    simp only [toBinary64, if_true, zero, finite.injEq, true_and] at reads
    exact nonzero reads.1.symm
  -- The digits are those that are kept and the zeros behind them.
  obtain ⟨zeros, split⟩ := exists_zeros (digits found)
  generalize ((digits found).reverse.dropWhile (· = '0')).reverse = ds at split ⊢
  obtain ⟨first, rest, begins⟩ := List.exists_cons_of_ne_nil (digits_ne_nil found)
  have leading : first ≠ '0' := by
    rintro rfl
    exact digits_ne_zero_cons positive rest begins
  have some : ds ≠ [] := by
    rintro rfl
    cases zeros with
    | zero => exact digits_ne_nil found split
    | succ zeros =>
      rw [split, List.nil_append, List.replicate_succ] at begins
      exact leading (List.cons.inj begins).1.symm
  rw [if_neg some]
  obtain ⟨head, tail, rfl⟩ := List.exists_cons_of_ne_nil some
  obtain ⟨rfl, -⟩ := List.cons.inj (begins.symm.trans split)
  refine ⟨?_, ⟨first, tail, rfl, leading⟩, ?_⟩
  · intro c member
    refine isDigit_of_mem_digits (split ▸ List.mem_append_left _ member)
  · have worth : found = value (first :: tail) * 10 ^ zeros := by
      rw [← value_digits found, split, value_append, value_zeros, List.length_replicate,
        Nat.add_zero]
    rw [← reads]
    conv_rhs => rw [worth, toBinary64_mul_pow]
    congr 1
    rw [split, List.length_append, List.length_replicate]
    push_cast
    ring

end Decimal

end Stepwise
