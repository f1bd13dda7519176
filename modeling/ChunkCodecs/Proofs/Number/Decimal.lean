import ChunkCodecs.Proofs.Number.Nearest
import ChunkCodecs.Proofs.Number.Numerals
import Mathlib.Tactic.NormNum

/-!
# Decimal numbers as doubles

Digits at a place of ten are rounded to the nearest double. Far away from one this takes no
quotient: a number of less than a ten to the power of -400 is nearest to zero, and one of no less
than a ten to the power of 400 is beyond the doubles.
-/

namespace ChunkCodecs

namespace FiniteDouble

/-- Zero is a number. -/
@[simp]
theorem toRat_of_significand_eq_zero {value : FiniteDouble} (zero : value.significand = 0) :
    value.toRat = 0 := by
  rw [toRat, zero, Nat.cast_zero, zero_mul, mul_zero]

/-- A double that is not zero is no less than the least positive one. -/
theorem le_abs_toRat {value : FiniteDouble} (nonzero : value.significand ≠ 0) :
    (2 : ℚ) ^ (-1074 : ℤ) ≤ |value.toRat| := by
  obtain ⟨_, least, _, _⟩ := value.canonical
  have units : (1 : ℚ) ≤ value.significand := by exact_mod_cast Nat.one_le_iff_ne_zero.mpr nonzero
  have unit : (2 : ℚ) ^ (-1074 : ℤ) ≤ 2 ^ value.exponent := zpow_le_zpow_right₀ one_le_two least
  rw [toRat, abs_signFactor_mul, abs_of_nonneg (by positivity)]
  calc (2 : ℚ) ^ (-1074 : ℤ) ≤ 2 ^ value.exponent := unit
    _ ≤ value.significand * 2 ^ value.exponent := le_mul_of_one_le_left (by positivity) units

/-- Zero prevails for a number of less than half the least positive double. -/
theorem prevails_of_lt {value : FiniteDouble} (zero : value.significand = 0) {number : ℚ}
    (tiny : |number| < 2 ^ (-1075 : ℤ)) : value.Prevails number := by
  intro other near
  rw [toRat_of_significand_eq_zero zero, zero_sub, abs_neg] at near
  by_cases also_zero : other.significand = 0
  · left
    rw [toRat_of_significand_eq_zero zero, toRat_of_significand_eq_zero also_zero]
  · exfalso
    have large := le_abs_toRat also_zero
    have detour : |other.toRat| ≤ |other.toRat - number| + |number| := by
      simpa using abs_add_le (other.toRat - number) number
    have half : (2 : ℚ) ^ (-1074 : ℤ) = 2 ^ (-1075 : ℤ) * 2 := by
      rw [← zpow_add_one₀ two_ne_zero]
      norm_num
    rw [half] at large
    linarith

end FiniteDouble

namespace Numeral

/-- Digits behind a number fill the places below it. -/
theorem foldl_eq_valueOf (number : ℕ) (digits : List ℕ) :
    digits.foldl (fun number digit => number * 10 + digit) number =
      number * 10 ^ digits.length + valueOf 10 digits := by
  induction digits generalizing number with
  | nil => simp [valueOf]
  | cons digit rest inductionHypothesis =>
    have alone : valueOf 10 (digit :: rest) =
        (0 * 10 + digit) * 10 ^ rest.length + valueOf 10 rest := inductionHypothesis _
    rw [List.foldl_cons, inductionHypothesis, alone, List.length_cons, pow_succ']
    ring

/-- Digits behind the first one fill the places below it. -/
theorem valueOf_cons (digit : ℕ) (rest : List ℕ) :
    valueOf 10 (digit :: rest) = digit * 10 ^ rest.length + valueOf 10 rest := by
  rw [valueOf, List.foldl_cons, foldl_eq_valueOf, Nat.zero_mul, Nat.zero_add]

/-- Zeros in front of digits do not count. -/
theorem valueOf_dropWhile (digits : List ℕ) :
    valueOf 10 (digits.dropWhile (· == 0)) = valueOf 10 digits := by
  induction digits with
  | nil => rfl
  | cons digit rest inductionHypothesis =>
    by_cases zero : digit = 0
    · rw [List.dropWhile_cons_of_pos (by simp [zero]), inductionHypothesis, valueOf_cons, zero,
        Nat.zero_mul, Nat.zero_add]
    · rw [List.dropWhile_cons_of_neg (by simp [zero])]

/-- The digits left behind the zeros in front stand for no less than the first place. -/
theorem le_valueOf_of_dropWhile {digits : List ℕ} (some_digits : digits.dropWhile (· == 0) ≠ []) :
    10 ^ ((digits.dropWhile (· == 0)).length - 1) ≤ valueOf 10 digits := by
  have leading := List.head_dropWhile_not (· == 0) some_digits
  rw [← valueOf_dropWhile]
  cases kept : digits.dropWhile (· == 0) with
  | nil => exact absurd kept some_digits
  | cons digit rest =>
    simp only [kept, List.head_cons, beq_eq_false_iff_ne] at leading
    rw [valueOf_cons, List.length_cons, Nat.add_sub_cancel]
    exact Nat.le_add_right_of_le (Nat.le_mul_of_pos_left _ (Nat.pos_of_ne_zero leading))

/-- What is less than a ten to the power of -400 is less than half the least positive double. -/
theorem lt_of_lt_ten_pow {number : ℚ} {place : ℤ} (less : number < 10 ^ place)
    (below : place < -400) : number < 2 ^ (-1075 : ℤ) := by
  have powers : (2 : ℚ) ^ 1075 ≤ 10 ^ 401 := by
    calc (2 : ℚ) ^ 1075 ≤ 2 ^ (3 * 401) := pow_le_pow_right₀ one_le_two (by decide)
      _ = (2 ^ 3) ^ 401 := pow_mul _ _ _
      _ ≤ 10 ^ 401 := pow_le_pow_left₀ (by norm_num) (by norm_num) _
  calc number < 10 ^ place := less
    _ ≤ 10 ^ (-(401 : ℕ) : ℤ) := zpow_le_zpow_right₀ (by norm_num) (by omega)
    _ = (10 ^ 401)⁻¹ := by rw [zpow_neg, zpow_natCast]
    _ ≤ (2 ^ 1075)⁻¹ := inv_anti₀ (by positivity) powers
    _ = 2 ^ (-(1075 : ℕ) : ℤ) := by rw [zpow_neg, zpow_natCast]

/-- What is no less than a ten to the power of 400 is beyond the doubles. -/
theorem limit_le_of_ten_pow_le {number : ℚ} {place : ℤ} (least : 10 ^ place ≤ number)
    (above : 400 ≤ place) : Double.limit ≤ number := by
  obtain ⟨places, rfl⟩ := Int.eq_ofNat_of_zero_le (show 0 ≤ place by omega)
  have beyond : Double.limit < 10 ^ places := Double.limit_lt_pow (by omega)
  rw [zpow_natCast] at least
  calc (Double.limit : ℚ) ≤ 10 ^ places := by exact_mod_cast beyond.le
    _ ≤ number := least

/-- A decimal number is rounded to a double.

Proof: the digits behind the zeros in front stand for a number between the power of ten of their
count and the one before it, which decides whether the number is far away from every double. -/
theorem isRoundingOf_ofDecimal (negative : Bool) {digits : List ℕ}
    (small : ∀ digit ∈ digits, digit < 10) (exponent : ℤ) :
    (ofDecimal negative digits exponent).IsRoundingOf
      (signFactor negative * (valueOf 10 digits * 10 ^ exponent)) := by
  have significant_value := valueOf_dropWhile digits
  have below : valueOf 10 digits < 10 ^ (digits.dropWhile (· == 0)).length := by
    rw [← significant_value]
    exact valueOf_lt fun digit member => small digit (List.dropWhile_subset _ member)
  have unit : (0 : ℚ) < 10 ^ exponent := by positivity
  have magnitude : |signFactor negative * (valueOf 10 digits * 10 ^ exponent)| =
      (valueOf 10 digits * 10 ^ exponent : ℚ) := by
    rw [abs_signFactor_mul, abs_of_nonneg (mul_nonneg (Nat.cast_nonneg _) unit.le)]
  simp only [ofDecimal, Bool.or_eq_true, decide_eq_true_eq]
  split
  · next tiny =>
    have near : (valueOf 10 digits * 10 ^ exponent : ℚ) < 2 ^ (-1075 : ℤ) := by
      rcases tiny with none_left | tiny
      · rw [none_left, List.length_nil, pow_zero, Nat.lt_one_iff] at below
        rw [below, Nat.cast_zero, zero_mul]
        positivity
      · refine lt_of_lt_ten_pow ?_ tiny
        rw [zpow_add₀ (by norm_num), zpow_natCast, mul_comm ((10 : ℚ) ^ exponent)]
        exact mul_lt_mul_of_pos_right (by exact_mod_cast below) unit
    have within : (valueOf 10 digits * 10 ^ exponent : ℚ) < Double.limit := by
      have one : (2 : ℚ) ^ (-1075 : ℤ) ≤ 1 := zpow_le_one_of_nonpos₀ one_le_two (by norm_num)
      have above : (1 : ℚ) ≤ Double.limit := by
        exact_mod_cast Nat.le_trans Nat.one_le_two_pow Double.pow_le_limit
      exact near.trans_le (one.trans above)
    exact (FiniteDouble.prevails_of_lt rfl (magnitude.trans_lt near)).isNearestTo
      (magnitude.trans_lt within)
  · next sizable =>
    rw [not_or] at sizable
    split
    · next huge =>
      have least : (10 : ℚ) ^ (exponent + ((digits.dropWhile (· == 0)).length - 1 : ℕ)) ≤
          valueOf 10 digits * 10 ^ exponent := by
        rw [zpow_add₀ (by norm_num), zpow_natCast, mul_comm ((10 : ℚ) ^ exponent)]
        exact mul_le_mul_of_nonneg_right (by exact_mod_cast le_valueOf_of_dropWhile sizable.1)
          unit.le
      rw [Double.IsRoundingOf, ← mul_assoc, signFactor_mul_self, one_mul]
      exact limit_le_of_ten_pow_le least (by omega)
    · rw [significant_value]
      split
      · next plain =>
        obtain ⟨places, rfl⟩ := Int.eq_ofNat_of_zero_le plain
        have rounded := Double.isRoundingOf_ofQuotient negative (valueOf 10 digits * 10 ^ places)
          Nat.one_pos
        rwa [Nat.cast_mul, Nat.cast_pow, Nat.cast_ofNat, Nat.cast_one, div_one, ← zpow_natCast]
          at rounded
      · next divided =>
        obtain ⟨places, opposite⟩ := Int.eq_ofNat_of_zero_le (show 0 ≤ -exponent by omega)
        obtain rfl : exponent = -(places : ℤ) := by omega
        have rounded := Double.isRoundingOf_ofQuotient negative (valueOf 10 digits)
          (@Nat.pow_pos 10 places (by decide))
        rw [Nat.cast_pow, Nat.cast_ofNat, div_eq_mul_inv, ← zpow_natCast, ← zpow_neg] at rounded
        rwa [neg_neg, Int.toNat_natCast]

end Numeral

end ChunkCodecs
