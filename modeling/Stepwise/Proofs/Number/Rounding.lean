import Mathlib.Algebra.Order.Field.Power
import Mathlib.Tactic.FieldSimp
import Mathlib.Tactic.Linarith
import Mathlib.Tactic.NormNum
import Mathlib.Tactic.Positivity
import Mathlib.Tactic.Ring
import Stepwise.Number.Binary64

/-!
# Rounding to floating point

A quotient is scaled by the power of two at which its whole part has 53 bits, and rounded there.
So the rounded number is at most half a unit of that place away from the quotient, and a quotient
close enough to a representable number is rounded to that number. Below a power of two the numbers
lie twice as close as above it, which is why a distance of one part in `2 ^ 54` is close enough on
either side.
-/

namespace Stepwise

/-! ## Powers with whole exponents -/

theorem zpow_of_nonneg {base : Nat} {k : Int} (up : 0 ≤ k) :
    (base : ℚ) ^ k = ((base ^ k.toNat : Nat) : ℚ) := by
  obtain ⟨n, rfl⟩ := Int.eq_ofNat_of_zero_le up
  simp

theorem zpow_of_neg {base : Nat} {k : Int} (down : ¬ 0 ≤ k) :
    (base : ℚ) ^ k = (((base ^ (-k).toNat : Nat) : ℚ))⁻¹ := by
  obtain ⟨n, same⟩ := Int.eq_ofNat_of_zero_le (show 0 ≤ -k by omega)
  obtain rfl : k = -(n : Int) := by omega
  simp

/-- Whether a quotient is at least a power, as it is settled on whole numbers. -/
theorem reached_iff {base : Nat} (nonzero : 0 < base) (numerator denominator : Nat) (k : Int) :
    (if 0 ≤ k then denominator * Nat.pow base k.toNat ≤ numerator
      else denominator ≤ numerator * Nat.pow base (-k).toNat) ↔
      (base : ℚ) ^ k * denominator ≤ numerator := by
  have positive (n : Nat) : (0 : ℚ) < ((base ^ n : Nat) : ℚ) := by
    exact_mod_cast Nat.pow_pos nonzero
  by_cases up : 0 ≤ k
  · rw [if_pos up, zpow_of_nonneg up, mul_comm, ← Nat.cast_mul, Nat.cast_le]
    rfl
  · rw [if_neg up, zpow_of_neg up, inv_mul_le_iff₀ (positive _), mul_comm, ← Nat.cast_mul,
      Nat.cast_le]
    rfl

/-- A quotient over a power, as it is put on whole numbers. -/
def scaled (base numerator denominator : Nat) (k : Int) : Nat × Nat :=
  if 0 ≤ k then (numerator, denominator * Nat.pow base k.toNat)
  else (numerator * Nat.pow base (-k).toNat, denominator)

theorem scaled_pos {base denominator : Nat} (nonzero : 0 < base) (proper : 0 < denominator)
    (numerator : Nat) (k : Int) : 0 < (scaled base numerator denominator k).2 := by
  unfold scaled
  split
  · exact Nat.mul_pos proper (Nat.pow_pos nonzero)
  · exact proper

theorem scaled_quotient (base numerator denominator : Nat) (k : Int) :
    ((scaled base numerator denominator k).1 : ℚ) / (scaled base numerator denominator k).2 =
      numerator / denominator / (base : ℚ) ^ k := by
  unfold scaled
  by_cases up : 0 ≤ k
  · rw [if_pos up, zpow_of_nonneg up, div_div, ← Nat.cast_mul]
    rfl
  · rw [if_neg up, zpow_of_neg up, div_inv_eq_mul, div_mul_eq_mul_div, ← Nat.cast_mul]
    rfl

namespace Binary64

/-! ## The place of the leading bit -/

/-- A quotient lies between the power of two of its magnitude and the next one. -/
theorem binaryMagnitude_bounds {numerator denominator : Nat} (nonzero : numerator ≠ 0)
    (proper : denominator ≠ 0) :
    (2 : ℚ) ^ binaryMagnitude numerator denominator ≤ numerator / denominator ∧
      (numerator : ℚ) / denominator < 2 ^ (binaryMagnitude numerator denominator + 1) := by
  have positive : (0 : ℚ) < denominator := by exact_mod_cast Nat.pos_of_ne_zero proper
  have lowest : (2 : ℚ) ^ (numerator.log2 : Int) ≤ numerator := by
    rw [zpow_natCast]
    exact_mod_cast Nat.log2_self_le nonzero
  have highest : (numerator : ℚ) < 2 ^ ((numerator.log2 : Int) + 1) := by
    rw [← Nat.cast_succ, zpow_natCast]
    exact_mod_cast Nat.lt_log2_self
  have lowest' : (2 : ℚ) ^ (denominator.log2 : Int) ≤ denominator := by
    rw [zpow_natCast]
    exact_mod_cast Nat.log2_self_le proper
  have highest' : (denominator : ℚ) < 2 ^ ((denominator.log2 : Int) + 1) := by
    rw [← Nat.cast_succ, zpow_natCast]
    exact_mod_cast Nat.lt_log2_self
  generalize guessed : (numerator.log2 : Int) - (denominator.log2 : Int) = guess
  have above : (numerator : ℚ) / denominator < 2 ^ (guess + 1) := by
    rw [div_lt_iff₀ positive]
    calc (numerator : ℚ) < 2 ^ ((numerator.log2 : Int) + 1) := highest
      _ = 2 ^ (guess + 1) * 2 ^ (denominator.log2 : Int) := by
        rw [← zpow_add₀ (by norm_num), ← guessed]
        congr 1
        omega
      _ ≤ 2 ^ (guess + 1) * denominator := by gcongr
  have below : (2 : ℚ) ^ (guess - 1) ≤ numerator / denominator := by
    rw [le_div_iff₀ positive]
    calc (2 : ℚ) ^ (guess - 1) * denominator
        ≤ 2 ^ (guess - 1) * 2 ^ ((denominator.log2 : Int) + 1) := by gcongr
      _ = 2 ^ (numerator.log2 : Int) := by
        rw [← zpow_add₀ (by norm_num), ← guessed]
        congr 1
        omega
      _ ≤ numerator := lowest
  have reached := reached_iff (by decide : 0 < 2) numerator denominator guess
  unfold binaryMagnitude
  simp only [guessed]
  by_cases enough : (2 : ℚ) ^ guess * denominator ≤ numerator
  · rw [if_pos (reached.mpr (by exact_mod_cast enough))]
    exact ⟨(le_div_iff₀ positive).mpr enough, above⟩
  · rw [if_neg (fun all => enough (by exact_mod_cast reached.mp all))]
    refine ⟨below, ?_⟩
    rw [sub_add_cancel, div_lt_iff₀ positive]
    exact not_le.mp enough

/-- The magnitude is the only place between whose powers the quotient lies. -/
theorem binaryMagnitude_eq {numerator denominator : Nat} (nonzero : numerator ≠ 0)
    (proper : denominator ≠ 0) {k : Int} (low : (2 : ℚ) ^ k ≤ numerator / denominator)
    (high : (numerator : ℚ) / denominator < 2 ^ (k + 1)) :
    binaryMagnitude numerator denominator = k := by
  obtain ⟨low', high'⟩ := binaryMagnitude_bounds nonzero proper
  have before := (zpow_lt_zpow_iff_right₀ (by norm_num : (1 : ℚ) < 2)).mp (low.trans_lt high')
  have after := (zpow_lt_zpow_iff_right₀ (by norm_num : (1 : ℚ) < 2)).mp (low'.trans_lt high)
  omega

/-! ## Rounded quotients -/

theorem roundedQuotient_near (numerator : Nat) {denominator : Nat} (proper : 0 < denominator) :
    |(numerator : ℚ) / denominator - roundedQuotient numerator denominator| ≤ 1 / 2 := by
  have positive : (0 : ℚ) < denominator := by exact_mod_cast proper
  have parts := Nat.div_add_mod numerator denominator
  have small := Nat.mod_lt numerator proper
  have bounds : 2 * (denominator * roundedQuotient numerator denominator) ≤
        2 * numerator + denominator ∧
      2 * numerator ≤
        2 * (denominator * roundedQuotient numerator denominator) + denominator := by
    unfold roundedQuotient
    dsimp only
    split
    · omega
    · split
      · rw [Nat.mul_add]
        omega
      · have even : numerator / denominator % 2 = 0 ∨ numerator / denominator % 2 = 1 := by omega
        rcases even with even | odd
        · rw [even, Nat.add_zero]
          omega
        · rw [odd, Nat.mul_add]
          omega
  have low : (2 * (denominator * roundedQuotient numerator denominator) : ℚ) ≤
      2 * numerator + denominator := by exact_mod_cast bounds.1
  have high : (2 * numerator : ℚ) ≤
      2 * (denominator * roundedQuotient numerator denominator) + denominator := by
    exact_mod_cast bounds.2
  have scaled : (numerator : ℚ) / denominator * denominator = numerator := by
    field_simp
  rw [abs_le]
  constructor
  · by_contra far
    have := mul_lt_mul_of_pos_right (not_le.mp far) positive
    linarith
  · by_contra far
    have := mul_lt_mul_of_pos_right (not_le.mp far) positive
    linarith

/-- A whole number less than a half away is what the quotient is rounded to. -/
theorem roundedQuotient_eq {numerator denominator whole : Nat} (proper : 0 < denominator)
    (near : |(numerator : ℚ) / denominator - whole| < 1 / 2) :
    roundedQuotient numerator denominator = whole := by
  have rounded := roundedQuotient_near numerator proper
  rw [abs_le] at rounded
  rw [abs_lt] at near
  have low : (roundedQuotient numerator denominator : ℚ) < whole + 1 := by linarith
  have high : (whole : ℚ) < roundedQuotient numerator denominator + 1 := by linarith
  have low' : roundedQuotient numerator denominator < whole + 1 := by exact_mod_cast low
  have high' : whole < roundedQuotient numerator denominator + 1 := by exact_mod_cast high
  omega

/-! ## Rounding a ratio -/

/-- What a rounded mantissa stands for at an exponent, after a carry into a 54th bit. -/
def carried (negative : Bool) (mantissa : Nat) (exponent : Int) : Binary64 :=
  let (mantissa, exponent) :=
    if mantissa = Nat.pow 2 53 then (Nat.pow 2 52, exponent + 1) else (mantissa, exponent)
  if mantissa = 0 then zero negative
  else if greatestExponent < exponent then .infinity negative
  else .finite negative mantissa exponent

/-- The exponent at which a quotient is rounded. -/
def placeOf (numerator denominator : Nat) : Int :=
  max (binaryMagnitude numerator denominator - 52) leastExponent

theorem ofRatio_eq (negative : Bool) {numerator : Nat} (nonzero : numerator ≠ 0) (denominator : Nat) :
    ofRatio negative numerator denominator =
      carried negative
        (roundedQuotient (scaled 2 numerator denominator (placeOf numerator denominator)).1
          (scaled 2 numerator denominator (placeOf numerator denominator)).2)
        (placeOf numerator denominator) := by
  unfold ofRatio
  rw [if_neg nonzero]
  have together : ∀ k : Int,
      (if 0 ≤ k then roundedQuotient numerator (denominator * Nat.pow 2 k.toNat)
        else roundedQuotient (numerator * Nat.pow 2 (-k).toNat) denominator) =
      roundedQuotient (scaled 2 numerator denominator k).1
        (scaled 2 numerator denominator k).2 := by
    intro k
    unfold scaled
    split <;> rfl
  simp only [together]
  rfl

/-- The numbers that are kept: with 53 bits, unless the exponent is the least one, and an exponent
within its bounds. -/
def isCanonical : Binary64 → Bool
  | .finite _ mantissa exponent =>
    mantissa < 2 ^ 53 && (2 ^ 52 ≤ mantissa || exponent = leastExponent) &&
      leastExponent ≤ exponent && exponent ≤ greatestExponent
  | _ => true

theorem isCanonical_finite {negative : Bool} {mantissa : Nat} {exponent : Int} :
    (finite negative mantissa exponent).isCanonical = true ↔
      mantissa < 2 ^ 53 ∧ (2 ^ 52 ≤ mantissa ∨ exponent = leastExponent) ∧
        leastExponent ≤ exponent ∧ exponent ≤ greatestExponent := by
  simp [isCanonical, and_assoc]

theorem carried_of_canonical {negative : Bool} {mantissa : Nat} {exponent : Int}
    (nonzero : mantissa ≠ 0) (kept : (finite negative mantissa exponent).isCanonical = true) :
    carried negative mantissa exponent = .finite negative mantissa exponent := by
  obtain ⟨bits, -, -, bounded⟩ := isCanonical_finite.mp kept
  unfold carried
  have noCarry : ¬ mantissa = Nat.pow 2 53 := by
    intro carry
    exact absurd (carry ▸ bits) (by decide)
  rw [if_neg noCarry]
  dsimp only
  rw [if_neg nonzero, if_neg (not_lt.mpr bounded)]

/-- The place of a quotient is where it stays below 53 bits, and has as many unless there is no lower
place. -/
theorem placeOf_eq {numerator denominator : Nat} {place : Int} (nonzero : numerator ≠ 0)
    (proper : denominator ≠ 0) (least : leastExponent ≤ place)
    (high : (numerator : ℚ) / denominator < 2 ^ 53 * 2 ^ place)
    (low : place = leastExponent ∨ 2 ^ 52 * 2 ^ place ≤ (numerator : ℚ) / denominator) :
    placeOf numerator denominator = place := by
  have shifted (bits : Nat) : (2 : ℚ) ^ bits * 2 ^ place = 2 ^ (place + bits) := by
    rw [zpow_add₀ (by norm_num), zpow_natCast, mul_comm]
  rw [shifted] at high low
  obtain ⟨below, above⟩ := binaryMagnitude_bounds nonzero proper
  have upper := (zpow_lt_zpow_iff_right₀ (by norm_num : (1 : ℚ) < 2)).mp (below.trans_lt high)
  unfold placeOf
  obtain lowest | low := low
  · omega
  · have lower := (zpow_lt_zpow_iff_right₀ (by norm_num : (1 : ℚ) < 2)).mp (low.trans_lt above)
    omega

/-- At its place a quotient is rounded to the number of units that is less than a half away. -/
theorem ofRatio_of_place (negative : Bool) {numerator denominator units : Nat} {place : Int}
    (nonzero : numerator ≠ 0) (proper : 0 < denominator) (least : leastExponent ≤ place)
    (high : (numerator : ℚ) / denominator < 2 ^ 53 * 2 ^ place)
    (low : place = leastExponent ∨ 2 ^ 52 * 2 ^ place ≤ (numerator : ℚ) / denominator)
    (close : |(numerator : ℚ) / denominator / 2 ^ place - units| < 1 / 2) :
    ofRatio negative numerator denominator = carried negative units place := by
  rw [ofRatio_eq negative nonzero, placeOf_eq nonzero proper.ne' least high low,
    roundedQuotient_eq (scaled_pos (by decide) proper _ _)]
  rw [scaled_quotient]
  exact_mod_cast close

/-- A mantissa with a 54th bit is carried. -/
theorem carried_over (negative : Bool) {exponent : Int} (bounded : exponent ≤ greatestExponent) :
    carried negative (2 ^ 53) (exponent - 1) = .finite negative (2 ^ 52) exponent := by
  unfold carried
  simp only [Nat.pow_eq, if_true, sub_add_cancel]
  rw [if_neg (by decide), if_neg (not_lt.mpr bounded)]

/-- A quotient within one part in `2 ^ 54` of a representable number is rounded to it. -/
theorem ofRatio_of_near {negative : Bool} {numerator denominator mantissa : Nat} {exponent : Int}
    (proper : 0 < denominator) (nonzero : mantissa ≠ 0)
    (kept : (finite negative mantissa exponent).isCanonical = true)
    (near : |(numerator : ℚ) / denominator - mantissa * 2 ^ exponent| * 2 ^ 54 <
      mantissa * 2 ^ exponent) :
    ofRatio negative numerator denominator = .finite negative mantissa exponent := by
  obtain ⟨bits, full, least, greatest⟩ := isCanonical_finite.mp kept
  have unit : (0 : ℚ) < 2 ^ exponent := zpow_pos (by norm_num) exponent
  have least_mantissa : (1 : ℚ) ≤ mantissa := by exact_mod_cast Nat.one_le_iff_ne_zero.mpr nonzero
  have bits' : (mantissa : ℚ) ≤ 2 ^ 53 - 1 := by
    have whole : mantissa + 1 ≤ 2 ^ 53 := bits
    have whole' : (mantissa : ℚ) + 1 ≤ 2 ^ 53 := by exact_mod_cast whole
    linarith
  -- The quotient in units of the exponent's place.
  obtain ⟨x, quotient⟩ : ∃ x, (numerator : ℚ) / denominator = x * 2 ^ exponent :=
    ⟨numerator / denominator / 2 ^ exponent, by field_simp⟩
  have near' : |x - mantissa| * 2 ^ 54 < mantissa := by
    rw [quotient, ← sub_mul, abs_mul, abs_of_pos unit] at near
    have rearranged : |x - mantissa| * 2 ^ 54 * 2 ^ exponent < mantissa * 2 ^ exponent := by
      linarith
    exact lt_of_mul_lt_mul_right rearranged unit.le
  have close : |x - mantissa| < 1 / 2 := by linarith
  obtain ⟨low, high⟩ := abs_lt.mp close
  have positive : numerator ≠ 0 := by
    rintro rfl
    have none : x * 2 ^ exponent = 0 := by simpa using quotient.symm
    have some : 0 < x := by linarith
    exact absurd none (mul_pos some unit).ne'
  by_cases under : x < 2 ^ 52 ∧ exponent ≠ leastExponent
  · -- Just below a power of two the place is one lower, and rounding carries.
    obtain ⟨under, normal⟩ := under
    have lowest : 2 ^ 52 ≤ mantissa := full.resolve_right normal
    obtain rfl : mantissa = 2 ^ 52 := by
      have bound : (mantissa : ℚ) < 2 ^ 52 + 1 := by linarith
      have bound' : mantissa < 2 ^ 52 + 1 := by exact_mod_cast bound
      omega
    push_cast at near'
    obtain ⟨quarter, -⟩ := abs_lt.mp (show |x - 2 ^ 52| < 1 / 4 by linarith)
    have half : (2 : ℚ) ^ (exponent - 1) * 2 = 2 ^ exponent := by
      rw [← zpow_add_one₀ (by norm_num), sub_add_cancel]
    have lower : (0 : ℚ) < 2 ^ (exponent - 1) := zpow_pos (by norm_num) _
    rw [← half, ← mul_assoc, mul_right_comm] at quotient
    have rounded : ofRatio negative numerator denominator =
        carried negative (2 ^ 53) (exponent - 1) := by
      refine ofRatio_of_place negative positive proper (by omega) ?_ (.inr ?_) ?_
      all_goals rw [quotient]
      · gcongr
        linarith
      · gcongr
        linarith
      · rw [mul_div_cancel_right₀ _ lower.ne', abs_lt]
        push_cast
        constructor <;> linarith
    rw [rounded, carried_over negative greatest]
  · -- Otherwise the place is that of the number.
    have rounded : ofRatio negative numerator denominator =
        carried negative mantissa exponent := by
      refine ofRatio_of_place negative positive proper least ?_ ?_ ?_
      all_goals rw [quotient]
      · gcongr
        linarith
      · by_cases lowest : exponent = leastExponent
        · exact .inl lowest
        · refine .inr ?_
          gcongr
          exact not_lt.mp fun short => under ⟨short, lowest⟩
      · rwa [mul_div_cancel_right₀ _ unit.ne']
    rw [rounded, carried_of_canonical nonzero kept]

/-! ## What rounding depends on -/

theorem roundedQuotient_mul {factor : Nat} (positive : 0 < factor) (numerator denominator : Nat) :
    roundedQuotient (numerator * factor) (denominator * factor) =
      roundedQuotient numerator denominator := by
  unfold roundedQuotient
  rw [Nat.mul_div_mul_right numerator denominator positive, Nat.mul_mod_mul_right, ← Nat.mul_assoc]
  simp only [Nat.mul_lt_mul_right positive]

theorem scaled_mul (base numerator denominator factor : Nat) (k : Int) :
    scaled base (numerator * factor) (denominator * factor) k =
      ((scaled base numerator denominator k).1 * factor,
        (scaled base numerator denominator k).2 * factor) := by
  unfold scaled
  split
  · rw [Nat.mul_right_comm]
  · rw [Nat.mul_right_comm]

/-- A ratio is rounded by its value: a factor of both its parts makes no difference. -/
theorem ofRatio_mul (negative : Bool) {factor denominator : Nat} (positive : 0 < factor)
    (proper : 0 < denominator) (numerator : Nat) :
    ofRatio negative (numerator * factor) (denominator * factor) =
      ofRatio negative numerator denominator := by
  by_cases nonzero : numerator = 0
  · simp [ofRatio, nonzero]
  have nonzero' : numerator * factor ≠ 0 := Nat.mul_ne_zero nonzero positive.ne'
  have same : ((numerator * factor : Nat) : ℚ) / (denominator * factor : Nat) =
      numerator / denominator := by
    have apart : (factor : ℚ) ≠ 0 := by exact_mod_cast positive.ne'
    push_cast
    exact mul_div_mul_right _ _ apart
  obtain ⟨low, high⟩ := binaryMagnitude_bounds nonzero proper.ne'
  have magnitude : binaryMagnitude (numerator * factor) (denominator * factor) =
      binaryMagnitude numerator denominator :=
    binaryMagnitude_eq nonzero' (Nat.mul_pos proper positive).ne' (same ▸ low) (same ▸ high)
  have place : placeOf (numerator * factor) (denominator * factor) =
      placeOf numerator denominator := by
    rw [placeOf, placeOf, magnitude]
  rw [ofRatio_eq negative nonzero', ofRatio_eq negative nonzero, place, scaled_mul,
    roundedQuotient_mul positive]

/-- The sign has no part in rounding. -/
theorem ofRatio_true (numerator denominator : Nat) :
    ofRatio true numerator denominator = (ofRatio false numerator denominator).negate := by
  by_cases nonzero : numerator = 0
  · simp [ofRatio, nonzero, zero, negate]
  · rw [ofRatio_eq true nonzero, ofRatio_eq false nonzero]
    unfold carried
    dsimp only
    split <;> dsimp only <;> split <;> try split
    all_goals rfl

/-! ## How far rounding goes -/

/-- A carry leaves the number that a mantissa stands for as it is. -/
theorem carried_value (negative : Bool) (mantissa : Nat) {exponent : Int}
    (bounded : exponent < greatestExponent) :
    ∃ m e, carried negative mantissa exponent = .finite negative m e ∧
      (m : ℚ) * 2 ^ e = mantissa * 2 ^ exponent := by
  by_cases carry : mantissa = Nat.pow 2 53
  · refine ⟨2 ^ 52, exponent + 1, ?_, ?_⟩
    · unfold carried
      rw [if_pos carry]
      dsimp only [Nat.pow_eq]
      rw [if_neg (by decide), if_neg (by omega)]
    · rw [carry, zpow_add₀ (by norm_num)]
      norm_num
      ring
  · unfold carried
    rw [if_neg carry]
    dsimp only
    by_cases none : mantissa = 0
    · exact ⟨0, leastExponent, by rw [if_pos none, zero], by simp [none]⟩
    · exact ⟨mantissa, exponent, by rw [if_neg none, if_neg (by omega)], rfl⟩

/-- A quotient of at most 53 bits before a place is rounded by at most a half of that place. -/
theorem ofRatio_error (negative : Bool) (numerator : Nat) {denominator : Nat}
    (proper : 0 < denominator) {place : Int} (least : leastExponent ≤ place)
    (bounded : place < greatestExponent)
    (below : (numerator : ℚ) / denominator < 2 ^ (place + 53)) :
    ∃ m e, ofRatio negative numerator denominator = .finite negative m e ∧
      |(numerator : ℚ) / denominator - m * 2 ^ e| ≤ 2 ^ place / 2 := by
  by_cases nonzero : numerator = 0
  · refine ⟨0, leastExponent, by rw [ofRatio, if_pos nonzero, zero], ?_⟩
    rw [nonzero]
    simp only [Nat.cast_zero, zero_div, zero_mul, sub_zero, abs_zero]
    positivity
  · obtain ⟨low, -⟩ := binaryMagnitude_bounds nonzero proper.ne'
    have upper := (zpow_lt_zpow_iff_right₀ (by norm_num : (1 : ℚ) < 2)).mp (low.trans_lt below)
    have within : placeOf numerator denominator ≤ place := by
      unfold placeOf
      omega
    have unit : (0 : ℚ) < 2 ^ placeOf numerator denominator := zpow_pos (by norm_num) _
    have rounded := roundedQuotient_near
      (scaled 2 numerator denominator (placeOf numerator denominator)).1
      (scaled_pos (by decide : 0 < 2) proper numerator (placeOf numerator denominator))
    rw [scaled_quotient] at rounded
    obtain ⟨m, e, made, value⟩ := carried_value negative
      (roundedQuotient (scaled 2 numerator denominator (placeOf numerator denominator)).1
        (scaled 2 numerator denominator (placeOf numerator denominator)).2)
      (within.trans_lt bounded)
    refine ⟨m, e, by rw [ofRatio_eq negative nonzero, made], ?_⟩
    rw [value]
    generalize roundedQuotient (scaled 2 numerator denominator (placeOf numerator denominator)).1
      (scaled 2 numerator denominator (placeOf numerator denominator)).2 = whole at rounded ⊢
    have factored : (numerator : ℚ) / denominator -
        whole * 2 ^ placeOf numerator denominator =
        ((numerator : ℚ) / denominator / 2 ^ placeOf numerator denominator - whole) *
          2 ^ placeOf numerator denominator := by
      rw [sub_mul, div_mul_cancel₀ _ unit.ne']
    rw [factored, abs_mul, abs_of_pos unit]
    push_cast at rounded
    calc _ ≤ 1 / 2 * (2 : ℚ) ^ placeOf numerator denominator := by gcongr
      _ ≤ 1 / 2 * 2 ^ place := by gcongr; norm_num
      _ = 2 ^ place / 2 := by ring

/-! ## Comparison -/

theorem ratio_value (mantissa : Nat) (exponent : Int) :
    ((ratio mantissa exponent).1 : ℚ) / (ratio mantissa exponent).2 = mantissa * 2 ^ exponent := by
  unfold ratio
  by_cases up : 0 ≤ exponent
  · have power : (2 : ℚ) ^ exponent = ((2 ^ exponent.toNat : Nat) : ℚ) := zpow_of_nonneg up
    rw [if_pos up, power, ← Nat.cast_mul, Nat.cast_one, div_one]
    rfl
  · have power : (2 : ℚ) ^ exponent = (((2 ^ (-exponent).toNat : Nat) : ℚ))⁻¹ := zpow_of_neg up
    rw [if_neg up, power]
    rfl

theorem ratio_pos (mantissa : Nat) (exponent : Int) : 0 < (ratio mantissa exponent).2 := by
  unfold ratio
  split
  · exact Nat.one_pos
  · exact Nat.pow_pos (by decide)

theorem ratio_ne_zero {mantissa : Nat} (nonzero : mantissa ≠ 0) (exponent : Int) :
    (ratio mantissa exponent).1 ≠ 0 := by
  unfold ratio
  split
  · exact Nat.mul_ne_zero nonzero (Nat.pow_pos (by decide)).ne'
  · exact nonzero

/-- A size with its sign. -/
def signed (negative : Bool) (size : ℚ) : ℚ := if negative then -size else size

theorem signedRatio_value (s : Bool) (m : Nat) (e : Int) :
    ((signedRatio s m e).1 : ℚ) / (signedRatio s m e).2 = signed s (m * 2 ^ e) := by
  rw [← ratio_value m e]
  cases s with
  | false => exact congrArg (· / ((ratio m e).2 : ℚ)) (Int.cast_natCast (ratio m e).1)
  | true =>
    change ((-((ratio m e).1 : Int) : Int) : ℚ) / (ratio m e).2 = -(((ratio m e).1 : ℚ) / _)
    rw [Int.cast_neg, Int.cast_natCast, neg_div]

/-- Numbers are compared by their values. -/
theorem less_finite (s s' : Bool) (m m' : Nat) (e e' : Int) :
    (finite s m e).less (finite s' m' e') =
      decide (signed s (m * 2 ^ e) < signed s' (m' * 2 ^ e')) := by
  have proper : (0 : ℚ) < (signedRatio s m e).2 := by exact_mod_cast ratio_pos m e
  have proper' : (0 : ℚ) < (signedRatio s' m' e').2 := by exact_mod_cast ratio_pos m' e'
  change decide ((signedRatio s m e).1 * (signedRatio s' m' e').2 <
    (signedRatio s' m' e').1 * (signedRatio s m e).2) = _
  rw [decide_eq_decide, ← signedRatio_value, ← signedRatio_value, div_lt_div_iff₀ proper proper']
  norm_cast

end Binary64

end Stepwise
