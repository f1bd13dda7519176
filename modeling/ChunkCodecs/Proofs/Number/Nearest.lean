import ChunkCodecs.Proofs.Number.Shortest
import Mathlib.Algebra.Order.Field.Basic
import Mathlib.Algebra.Order.Field.Power
import Mathlib.Algebra.Order.Field.Rat
import Mathlib.Algebra.Ring.Parity
import Mathlib.Data.Nat.Cast.Field
import Mathlib.Data.Rat.Cast.Order
import Mathlib.Tactic.FieldSimp
import Mathlib.Tactic.Linarith
import Mathlib.Tactic.Positivity
import Mathlib.Tactic.Ring

/-!
# The double nearest to a number

A finite double is a rational number. A rational is rounded to the finite double nearest to it, of
two equally near ones to the one with the even significand, as long as it is below the middle
between the greatest double and the power of two above it; from there on it is rounded to an
infinity. This says what the double is, the sign of zero apart, and the conversion of quotients
gives it.

The argument is about the units in which a quotient is measured. A double in units of the same or
of a larger size is a whole number of units, and the nearest whole number is what is rounded to.
A double in smaller units is below the least full significand, which is a whole number of units
and no greater than the quotient, so it is farther away than that one.
-/

namespace ChunkCodecs

/-- The sign of a number, as a factor. -/
def signFactor (negative : Bool) : ℚ := if negative then -1 else 1

/-- Two signs make one. -/
theorem signFactor_mul (first second : Bool) :
    signFactor first * signFactor second = signFactor (first ^^ second) := by
  cases first <;> cases second <;> norm_num [signFactor]

/-- A sign is its own inverse. -/
theorem signFactor_mul_self (negative : Bool) : signFactor negative * signFactor negative = 1 := by
  rw [signFactor_mul, Bool.xor_self]
  rfl

/-- A sign does not change a magnitude. -/
theorem abs_signFactor_mul (negative : Bool) (number : ℚ) :
    |signFactor negative * number| = |number| := by
  cases negative <;> simp [signFactor]

/-- A number is as far from a signed one as the number of that sign is from the magnitude. -/
theorem abs_sub_signFactor_mul (negative : Bool) (left right : ℚ) :
    |left - signFactor negative * right| = |signFactor negative * left - right| := by
  rw [← abs_signFactor_mul negative, mul_sub, ← mul_assoc, signFactor_mul_self, one_mul]

/-- A whole number is the nearest one to a rational, of two the even one. -/
structure IsHalfEven (number : ℚ) (whole : ℕ) : Prop where
  /-- It is no more than a half away. -/
  near : |(whole : ℚ) - number| ≤ 1 / 2
  /-- It is even if there is another one. -/
  even : |(whole : ℚ) - number| = 1 / 2 → Even whole

/-- A quotient is rounded down if its rest is at most half the denominator, and up if it is at
least half; if it is half, to the even number. -/
theorem roundHalfEven_cases (numerator denominator : ℕ) :
    (2 * (numerator % denominator) ≤ denominator ∧
        roundHalfEven numerator denominator = numerator / denominator ∧
        (2 * (numerator % denominator) = denominator → Even (numerator / denominator))) ∨
      (denominator ≤ 2 * (numerator % denominator) ∧
        roundHalfEven numerator denominator = numerator / denominator + 1 ∧
        (2 * (numerator % denominator) = denominator → Even (numerator / denominator + 1))) := by
  simp only [roundHalfEven, Nat.even_iff]
  split
  · next down =>
    simp only [Bool.or_eq_true, decide_eq_true_eq, Bool.and_eq_true, beq_iff_eq] at down
    exact .inl ⟨by omega, rfl, by omega⟩
  · next up =>
    simp only [Bool.or_eq_true, decide_eq_true_eq, Bool.and_eq_true, beq_iff_eq, not_or] at up
    exact .inr ⟨by omega, rfl, by omega⟩

/-- A quotient is rounded to the nearest whole number. -/
theorem isHalfEven_roundHalfEven (numerator : ℕ) {denominator : ℕ} (positive : 0 < denominator) :
    IsHalfEven (numerator / denominator) (roundHalfEven numerator denominator) := by
  have above : (0 : ℚ) < denominator := by exact_mod_cast positive
  have parts : (numerator : ℚ) = denominator * (numerator / denominator : ℕ) +
      (numerator % denominator : ℕ) := by exact_mod_cast (Nat.div_add_mod _ _).symm
  have remainder : ((numerator % denominator : ℕ) : ℚ) < denominator := by
    exact_mod_cast Nat.mod_lt numerator positive
  have cases := roundHalfEven_cases numerator denominator
  generalize numerator / denominator = whole at parts cases
  generalize numerator % denominator = rest at parts remainder cases
  have number : (numerator : ℚ) / denominator = whole + rest / denominator := by
    rw [parts, add_div, mul_div_cancel_left₀ _ above.ne']
  have rest_nonneg : (0 : ℚ) ≤ rest / denominator := div_nonneg rest.cast_nonneg above.le
  have rest_lt : (rest : ℚ) / denominator < 1 := (div_lt_one above).mpr remainder
  have half : (rest : ℚ) / denominator = 1 / 2 → 2 * rest = denominator := by
    rw [div_eq_div_iff above.ne' two_ne_zero]
    norm_cast
    omega
  rcases cases with ⟨at_most, down, even⟩ | ⟨at_least, up, even⟩
  · have distance : |(whole : ℚ) - (whole + rest / denominator)| = rest / denominator := by
      rw [sub_add_cancel_left, abs_neg, abs_of_nonneg rest_nonneg]
    have small : (rest : ℚ) / denominator ≤ 1 / 2 := by
      rw [div_le_div_iff₀ above two_pos]
      norm_cast
      omega
    rw [down, number]
    exact ⟨distance.trans_le small, fun tie => even (half (distance.symm.trans tie))⟩
  · have distance : |((whole + 1 : ℕ) : ℚ) - (whole + rest / denominator)| =
        1 - rest / denominator := by
      rw [Nat.cast_add, Nat.cast_one, add_sub_add_left_eq_sub, abs_of_nonneg (by linarith)]
    have large : (1 : ℚ) / 2 ≤ rest / denominator := by
      rw [div_le_div_iff₀ two_pos above]
      norm_cast
      omega
    rw [up, number]
    exact ⟨by linarith, fun tie => even (half (by linarith))⟩

/-- Measuring a quotient in units of a size divides it by the size. -/
theorem scaleDown_div (numerator denominator : ℕ) (exponent : ℤ) :
    ((scaleDown numerator denominator exponent).1 : ℚ) / (scaleDown numerator denominator exponent).2 =
      numerator / denominator / 2 ^ exponent := by
  by_cases plain : 0 ≤ exponent
  · obtain ⟨places, rfl⟩ := Int.eq_ofNat_of_zero_le plain
    rw [scaleDown_natCast, zpow_natCast]
    push_cast
    rw [div_div]
  · obtain ⟨places, opposite⟩ := Int.eq_ofNat_of_zero_le (show 0 ≤ -exponent by omega)
    obtain rfl : exponent = -(places : ℤ) := by omega
    simp only [scaleDown, plain, if_false, neg_neg, Int.toNat_natCast, zpow_neg, zpow_natCast]
    push_cast
    rw [div_inv_eq_mul, mul_div_right_comm]

/-- A whole number that is as near to a rational as the nearest one is that one, or the other one
of two, which is odd. -/
theorem IsHalfEven.eq_or_odd {number : ℚ} {whole : ℕ} (nearest : IsHalfEven number whole) {other : ℤ}
    (near : |(other : ℚ) - number| ≤ |(whole : ℚ) - number|) :
    other = whole ∨ Odd other ∧ Even whole ∧ |(other : ℚ) - number| = |(whole : ℚ) - number| := by
  by_cases same : other = whole
  · exact .inl same
  · have apart : (1 : ℚ) ≤ |(other : ℚ) - whole| := by
      exact_mod_cast Int.one_le_abs (sub_ne_zero.mpr same)
    have detour : |(other : ℚ) - whole| ≤ |(other : ℚ) - number| + |(whole : ℚ) - number| := by
      rw [abs_sub_comm (whole : ℚ) number]
      exact abs_sub_le _ _ _
    have half : |(whole : ℚ) - number| = 1 / 2 := by
      linarith [nearest.near]
    have adjacent : |other - whole| = 1 := by
      have exactly : |(other : ℚ) - whole| = 1 := by
        linarith [nearest.near]
      exact_mod_cast exactly
    have even := nearest.even half
    refine .inr ⟨?_, even, by linarith⟩
    rcases (abs_eq zero_le_one).mp adjacent with above | below
    · rw [show other = whole + 1 by omega]
      exact (Int.even_coe_nat whole |>.mpr even).add_one
    · rw [show other = whole - 1 by omega]
      exact (Int.even_coe_nat whole |>.mpr even).sub_odd odd_one

namespace BinaryFormat

variable {format : BinaryFormat}

/-- A rational is measured in units of a size: it is below the units that a significand counts,
and has all bits of one unless the units are the least. -/
structure IsMeasuredIn (format : BinaryFormat) (number : ℚ) (exponent : ℤ) : Prop where
  /-- The units have no more bits than a significand. -/
  below : number < 2 ^ format.precision * 2 ^ exponent
  /-- The size is one of the format. -/
  least : format.minExponent ≤ exponent
  /-- They have as many unless the units are the least. -/
  full : exponent = format.minExponent ∨ 2 ^ (format.precision - 1) * 2 ^ exponent ≤ number

/-- A quotient is measured in units of the size that is found for it. -/
theorem isMeasuredIn_unitExponent (some_bits : 0 < format.precision) {numerator denominator : ℕ}
    (some_numerator : 0 < numerator) (some_denominator : 0 < denominator) :
    format.IsMeasuredIn (numerator / denominator) (format.unitExponent numerator denominator) := by
  obtain ⟨below, least, full⟩ := unitExponent_bounds some_bits some_numerator some_denominator rfl
  generalize format.unitExponent numerator denominator = exponent at below least full
  have unit : (0 : ℚ) < 2 ^ exponent := by positivity
  have denominator_pos : (0 : ℚ) < (scaleDown numerator denominator exponent).2 := by
    exact_mod_cast scaleDown_denominator_pos some_denominator
  have scaled := scaleDown_div numerator denominator exponent
  refine ⟨?_, least, full.imp_right fun full => ?_⟩
  · rw [← div_lt_iff₀ unit, ← scaled, div_lt_iff₀ denominator_pos]
    exact_mod_cast below
  · rw [← le_div_iff₀ unit, ← scaled, le_div_iff₀ denominator_pos]
    exact_mod_cast full

section

variable {negative : Bool} {significand : ℕ} {place exponent : ℤ}

/-- A number in units of the same or of a larger size is a whole number of units, odd only if its
significand is. -/
theorem exists_whole_of_coarser (coarse : exponent ≤ place) :
    ∃ whole : ℤ, signFactor negative * (significand * 2 ^ place) / 2 ^ exponent = whole ∧
      (Odd whole → Odd significand) := by
  obtain ⟨places, rfl⟩ : ∃ places : ℕ, place = places + exponent :=
    ⟨(place - exponent).toNat, by omega⟩
  obtain ⟨sign, same⟩ : ∃ sign : ℤ, signFactor negative = sign := by
    cases negative
    · exact ⟨1, by norm_num [signFactor]⟩
    · exact ⟨-1, by norm_num [signFactor]⟩
  refine ⟨sign * (significand * 2 ^ places), ?_, ?_⟩
  · rw [zpow_add₀ two_ne_zero, zpow_natCast, same]
    push_cast
    field_simp
  · intro odd
    exact_mod_cast (Int.odd_mul.mp (Int.odd_mul.mp odd).2).1

/-- A number in units of a smaller size is less than a full significand. -/
theorem lt_of_finer (some_bits : 0 < format.precision) (canonical : format.IsCanonical significand place)
    (finer : place < exponent) :
    signFactor negative * (significand * 2 ^ place) / 2 ^ exponent < 2 ^ (format.precision - 1) := by
  have half : (2 : ℚ) ^ format.precision = 2 ^ (format.precision - 1) * 2 := by
    rw [← pow_succ, Nat.sub_add_cancel some_bits]
  have next : (2 : ℚ) ^ place * 2 ≤ 2 ^ exponent := by
    rw [← zpow_add_one₀ two_ne_zero]
    exact zpow_le_zpow_right₀ one_le_two (by omega)
  have few : (significand : ℚ) < 2 ^ format.precision := by exact_mod_cast canonical.1
  have magnitude : (0 : ℚ) ≤ significand * 2 ^ place := by positivity
  rw [div_lt_iff₀ (by positivity)]
  calc signFactor negative * (significand * 2 ^ place)
      ≤ |signFactor negative * (significand * 2 ^ place)| := le_abs_self _
    _ = significand * 2 ^ place := by rw [abs_signFactor_mul, abs_of_nonneg magnitude]
    _ < 2 ^ format.precision * 2 ^ place := mul_lt_mul_of_pos_right few (by positivity)
    _ = 2 ^ (format.precision - 1) * (2 ^ place * 2) := by rw [half, mul_assoc, mul_comm (2 : ℚ)]
    _ ≤ 2 ^ (format.precision - 1) * 2 ^ exponent :=
      mul_le_mul_of_nonneg_left next (by positivity)

/-- A number of the format that is as near to a rational as its rounding to whole units is that
rounding, or has an odd significand and is as near as the rounding, which is even.

Proof: in units, a number of the same or of a larger size is whole. One of a smaller size is less
than a full significand, which is whole too, and which is no greater than the rational and so
nearer to it. -/
theorem IsMeasuredIn.eq_or_odd {number : ℚ} (measured : format.IsMeasuredIn number exponent)
    (some_bits : 0 < format.precision) {units : ℕ}
    (rounded : IsHalfEven (number / 2 ^ exponent) units)
    (canonical : format.IsCanonical significand place)
    (near : |signFactor negative * (significand * 2 ^ place) / 2 ^ exponent - number / 2 ^ exponent| ≤
      |units - number / 2 ^ exponent|) :
    signFactor negative * (significand * 2 ^ place) / 2 ^ exponent = units ∨
      Odd significand ∧ Even units ∧
        |signFactor negative * (significand * 2 ^ place) / 2 ^ exponent - number / 2 ^ exponent| =
          |units - number / 2 ^ exponent| := by
  by_cases coarse : exponent ≤ place
  · obtain ⟨whole, same, odd_significand⟩ :=
      @exists_whole_of_coarser negative significand place exponent coarse
    rw [same] at near ⊢
    rcases rounded.eq_or_odd near with equal | ⟨odd, even, equal⟩
    · exact .inl (by exact_mod_cast congrArg (Int.cast : ℤ → ℚ) equal)
    · exact .inr ⟨odd_significand odd, even, equal⟩
  · exfalso
    have small := @lt_of_finer format negative significand place exponent some_bits canonical
      (not_le.mp coarse)
    have full := measured.full.resolve_left (by
      have least := canonical.2.1
      omega)
    rw [← le_div_iff₀ (by positivity)] at full
    have nearer : |((2 ^ (format.precision - 1) : ℤ) : ℚ) - number / 2 ^ exponent| <
        |signFactor negative * (significand * 2 ^ place) / 2 ^ exponent - number / 2 ^ exponent| := by
      push_cast
      rw [abs_of_nonpos (by linarith), abs_of_nonpos (by linarith)]
      linarith
    rcases rounded.eq_or_odd (nearer.trans_le near).le with same | ⟨_, _, equal⟩
    · rw [same] at nearer
      exact absurd near (not_le.mpr (by exact_mod_cast nearer))
    · exact absurd near (not_le.mpr (equal ▸ nearer))

end

/-- What a positive quotient is rounded to is its rounding to whole units; if this is even, so is
the significand. -/
theorem exists_units_of_roundQuotient (bits : 1 < format.precision) {numerator denominator : ℕ}
    (some_numerator : 0 < numerator) (some_denominator : 0 < denominator) {significand : ℕ}
    {exponent : ℤ}
    (found : format.roundQuotient numerator denominator = some (significand, exponent)) :
    ∃ units : ℕ, IsHalfEven (numerator / denominator /
        2 ^ format.unitExponent numerator denominator) units ∧
      (significand * 2 ^ exponent : ℚ) = units * 2 ^ format.unitExponent numerator denominator ∧
      (Even units → Even significand) := by
  simp only [roundQuotient, some_numerator.ne', if_false] at found
  generalize format.unitExponent numerator denominator = unit at found ⊢
  have rounded := isHalfEven_roundHalfEven (scaleDown numerator denominator unit).1
    (@scaleDown_denominator_pos numerator denominator unit some_denominator)
  rw [scaleDown_div] at rounded
  generalize roundHalfEven (scaleDown numerator denominator unit).1
    (scaleDown numerator denominator unit).2 = units at found rounded
  refine ⟨units, rounded, ?_⟩
  by_cases carried : units = 2 ^ format.precision
  · simp only [carried, if_true, Option.ite_none_right_eq_some, Option.some.injEq,
      Prod.mk.injEq] at found
    obtain ⟨_, rfl, rfl⟩ := found
    refine ⟨?_, fun _ => (Nat.even_pow.mpr ⟨even_two, by omega⟩)⟩
    rw [carried, zpow_add_one₀ two_ne_zero]
    have half : (2 : ℚ) ^ format.precision = 2 ^ (format.precision - 1) * 2 := by
      rw [← pow_succ, Nat.sub_add_cancel (by omega)]
    push_cast
    rw [half]
    ring
  · simp only [carried, if_false, Option.ite_none_right_eq_some, Option.some.injEq,
      Prod.mk.injEq] at found
    obtain ⟨_, rfl, rfl⟩ := found
    exact ⟨rfl, id⟩

end BinaryFormat

namespace FiniteDouble

/-- The number that a finite double is. -/
def toRat (value : FiniteDouble) : ℚ :=
  signFactor value.negative * (value.significand * 2 ^ value.exponent)

/-- A finite double is what a number is rounded to: no other one is nearer, and if one is as near
the significand is even. Beyond the limit no number is rounded to a finite double. -/
structure IsNearestTo (value : FiniteDouble) (number : ℚ) : Prop where
  /-- The number is rounded to a finite double. -/
  within : |number| < Double.limit
  /-- No other one is nearer. -/
  nearest (other : FiniteDouble) : |value.toRat - number| ≤ |other.toRat - number|
  /-- If another one is as near, the significand is even. -/
  even {other : FiniteDouble} (apart : other.toRat ≠ value.toRat)
    (equal : |other.toRat - number| = |value.toRat - number|) : Even value.significand

/-- A finite double prevails among those that are as near to a number: they are the same number, or
it is even where they are odd. -/
def Prevails (value : FiniteDouble) (number : ℚ) : Prop :=
  ∀ other : FiniteDouble, |other.toRat - number| ≤ |value.toRat - number| →
    other.toRat = value.toRat ∨ Odd other.significand ∧ Even value.significand ∧
      |other.toRat - number| = |value.toRat - number|

/-- A double that is a number prevails for it. -/
theorem prevails_of_eq {value : FiniteDouble} {number : ℚ} (same : value.toRat = number) :
    value.Prevails number := by
  intro other near
  rw [same, sub_self, abs_zero] at near
  rw [same]
  exact .inl (sub_eq_zero.mp (abs_nonpos_iff.mp near))

/-- A double prevails for a quotient if it is its rounding to whole units. -/
theorem prevails_of_isHalfEven {value : FiniteDouble} {number : ℚ} {exponent : ℤ}
    (measured : BinaryFormat.binary64.IsMeasuredIn number exponent) {units : ℕ}
    (rounded : IsHalfEven (number / 2 ^ exponent) units)
    (whole : (value.significand * 2 ^ value.exponent : ℚ) = units * 2 ^ exponent)
    (even : Even units → Even value.significand) :
    value.Prevails (signFactor value.negative * number) := by
  intro other near
  have unit : (0 : ℚ) < 2 ^ exponent := by positivity
  have inUnits (left right : ℚ) : |left - right| = |left / 2 ^ exponent - right / 2 ^ exponent| *
      2 ^ exponent := by
    rw [← sub_div, abs_div, abs_of_pos unit, div_mul_cancel₀ _ unit.ne']
  have self : signFactor value.negative * value.toRat = units * 2 ^ exponent := by
    rw [toRat, ← mul_assoc, signFactor_mul_self, one_mul, whole]
  have others : signFactor value.negative * other.toRat =
      signFactor (value.negative ^^ other.negative) *
        (other.significand * 2 ^ other.exponent) := by
    rw [toRat, ← mul_assoc, signFactor_mul]
  rw [abs_sub_signFactor_mul, abs_sub_signFactor_mul, self, inUnits, inUnits (units * 2 ^ exponent),
    mul_div_cancel_right₀ _ unit.ne', others] at near ⊢
  rcases measured.eq_or_odd (by decide) rounded other.canonical (le_of_mul_le_mul_right near unit)
    with same | ⟨odd, evenUnits, equal⟩
  · left
    rw [div_eq_iff unit.ne', ← others, ← self] at same
    have factor : signFactor value.negative ≠ 0 := by
      cases value.negative <;> norm_num [signFactor]
    exact mul_left_cancel₀ factor same
  · exact .inr ⟨odd, even evenUnits, by rw [equal]⟩

/-- What a quotient within the limit is rounded to prevails for it. -/
theorem exists_of_ofQuotient (negative : Bool) {numerator denominator : ℕ}
    (positive : 0 < denominator) (within : |(numerator : ℚ) / denominator| < Double.limit) :
    ∃ value, Double.ofQuotient negative numerator denominator = .finite value ∧
      value.Prevails (signFactor negative * (numerator / denominator)) := by
  have denominator_pos : (0 : ℚ) < denominator := by exact_mod_cast positive
  have small : numerator < Double.limit * denominator := by
    rw [abs_of_nonneg (div_nonneg numerator.cast_nonneg denominator.cast_nonneg),
      div_lt_iff₀ denominator_pos] at within
    exact_mod_cast within
  have finite := (Double.isFinite_ofQuotient_iff_limit negative positive).mpr small
  cases found : BinaryFormat.binary64.roundQuotient numerator denominator with
  | none =>
    simp only [Double.ofQuotient, found] at finite
    cases finite
  | some magnitude =>
    obtain ⟨significand, exponent⟩ := magnitude
    have canonical := BinaryFormat.isCanonical_of_roundQuotient (by decide) (by decide) positive found
    refine ⟨⟨negative, significand, exponent, canonical⟩, ?_, ?_⟩
    · simp only [Double.ofQuotient, found, Double.ofParts, dif_pos canonical]
    · rcases Nat.eq_zero_or_pos numerator with rfl | some_numerator
      · simp only [BinaryFormat.roundQuotient, if_true, Option.some.injEq, Prod.mk.injEq] at found
        obtain ⟨rfl, rfl⟩ := found
        apply prevails_of_eq
        simp only [toRat, Nat.cast_zero, zero_mul, zero_div]
      · obtain ⟨units, rounded, whole, even⟩ := BinaryFormat.exists_units_of_roundQuotient (by decide)
          some_numerator positive found
        exact prevails_of_isHalfEven (BinaryFormat.isMeasuredIn_unitExponent (by decide)
          some_numerator positive) rounded whole even

variable {value other : FiniteDouble} {number : ℚ}

/-- A double that prevails for a number within the limit is nearest to it. -/
theorem Prevails.isNearestTo (prevails : value.Prevails number) (within : |number| < Double.limit) :
    value.IsNearestTo number where
  within := within
  nearest other := by
    by_contra nearer
    rcases prevails other (le_of_not_ge nearer) with same | ⟨_, _, equal⟩
    · exact nearer (by rw [same])
    · exact nearer equal.ge
  even {other} apart equal := by
    rcases prevails other equal.le with same | ⟨_, even, _⟩
    · exact absurd same apart
    · exact even

/-- A double that is nearest to a number is the same number as one that prevails for it. -/
theorem IsNearestTo.toRat_eq_of_prevails (nearest : value.IsNearestTo number)
    (prevails : other.Prevails number) : value.toRat = other.toRat := by
  by_contra apart
  rcases prevails value (nearest.nearest other) with same | ⟨odd, _, equal⟩
  · exact apart same
  · exact Nat.not_even_iff_odd.mpr odd (nearest.even (Ne.symm apart) equal.symm)

end FiniteDouble

/-- A whole number is its sign with its magnitude. -/
theorem signFactor_mul_natAbs (number : ℤ) : signFactor (number < 0) * number.natAbs = number := by
  by_cases negative : number < 0
  · rw [signFactor, decide_eq_true negative, if_pos rfl, Nat.cast_natAbs, abs_of_neg negative]
    push_cast
    ring
  · rw [signFactor, decide_eq_false negative, if_neg Bool.false_ne_true, Nat.cast_natAbs,
      abs_of_nonneg (not_lt.mp negative), one_mul]

/-- A quotient of a whole number is the signed quotient of its magnitude. -/
theorem signFactor_mul_natAbs_div (numerator : ℤ) (denominator : ℕ) :
    signFactor (numerator < 0) * (numerator.natAbs / denominator) = numerator / denominator := by
  rw [← mul_div_assoc, signFactor_mul_natAbs]

namespace FiniteDouble

/-- There is a double that prevails for a number within the limit. -/
theorem exists_prevails {number : ℚ} (within : |number| < Double.limit) :
    ∃ value : FiniteDouble, value.Prevails number := by
  have signed := (signFactor_mul_natAbs_div number.num number.den).trans number.num_div_den
  rw [← signed, abs_signFactor_mul] at within
  obtain ⟨value, _, prevails⟩ := exists_of_ofQuotient (number.num < 0) number.den_pos within
  rw [signed] at prevails
  exact ⟨value, prevails⟩

/-- The doubles that are nearest to a number are one number: there are no two of them but for the
sign of zero. -/
theorem IsNearestTo.toRat_eq {value other : FiniteDouble} {number : ℚ}
    (nearest : value.IsNearestTo number) (also_nearest : other.IsNearestTo number) :
    value.toRat = other.toRat := by
  obtain ⟨found, prevails⟩ := exists_prevails nearest.within
  rw [nearest.toRat_eq_of_prevails prevails, also_nearest.toRat_eq_of_prevails prevails]

/-- The quotient that a double is. -/
theorem toRat_eq_quotient (value : FiniteDouble) :
    value.toRat = signFactor value.negative * (value.quotient.1 / value.quotient.2) := by
  by_cases plain : 0 ≤ value.exponent
  · obtain ⟨places, same⟩ := Int.eq_ofNat_of_zero_le plain
    simp only [toRat, quotient, same, Int.natCast_nonneg, if_true, Int.toNat_natCast, zpow_natCast]
    push_cast
    rw [div_one]
  · obtain ⟨places, opposite⟩ := Int.eq_ofNat_of_zero_le (show 0 ≤ -value.exponent by omega)
    have same : value.exponent = -(places : ℤ) := by omega
    simp only [toRat, quotient, plain, if_false, opposite, Int.toNat_natCast]
    rw [same, zpow_neg, zpow_natCast]
    push_cast
    rw [div_eq_mul_inv]

/-- A finite double is a whole number exactly if it is taken as one. -/
theorem toInt?_eq_some_iff {value : FiniteDouble} {whole : ℤ} :
    (Double.finite value).toInt? = some whole ↔ value.toRat = whole := by
  have denominator_pos : (0 : ℚ) < value.quotient.2 := by
    exact_mod_cast value.quotient_denominator_pos
  simp only [Double.toInt?, isWhole, beq_iff_eq]
  by_cases divides : value.quotient.1 % value.quotient.2 = 0
  · have truncated : value.toRat = value.truncate := by
      have divided : ((value.quotient.1 / value.quotient.2 : ℕ) : ℚ) =
          value.quotient.1 / value.quotient.2 :=
        Nat.cast_div (Nat.dvd_of_mod_eq_zero divides) denominator_pos.ne'
      rw [toRat_eq_quotient, ← divided, truncate, signFactor]
      split
      · rw [neg_one_mul, Int.cast_neg, Int.cast_natCast]
      · rw [one_mul, Int.cast_natCast]
    rw [if_pos divides, truncated, Option.some.injEq, Int.cast_inj]
  · simp only [divides, if_false, reduceCtorEq, false_iff]
    intro same
    apply divides
    have magnitude : (value.quotient.1 : ℚ) / value.quotient.2 = whole.natAbs := by
      rw [Nat.cast_natAbs, Int.cast_abs, ← same, toRat_eq_quotient, abs_signFactor_mul,
        abs_of_nonneg (div_nonneg (Nat.cast_nonneg _) (Nat.cast_nonneg _))]
    rw [div_eq_iff denominator_pos.ne'] at magnitude
    have multiple : value.quotient.1 = whole.natAbs * value.quotient.2 := by
      exact_mod_cast magnitude
    rw [multiple, Nat.mul_mod_left]

end FiniteDouble

namespace Double

/-- A double is what a number is rounded to: the nearest one, or from the limit on an infinity of
its sign. -/
def IsRoundingOf : Double → ℚ → Prop
  | .finite value, number => value.IsNearestTo number
  | .infinite negative, number => limit ≤ signFactor negative * number
  | .nan, _ => False

/-- A quotient is rounded to a double. -/
theorem isRoundingOf_ofQuotient (negative : Bool) (numerator : ℕ) {denominator : ℕ}
    (positive : 0 < denominator) :
    (ofQuotient negative numerator denominator).IsRoundingOf
      (signFactor negative * (numerator / denominator)) := by
  by_cases within : |(numerator : ℚ) / denominator| < limit
  · obtain ⟨value, found, prevails⟩ := FiniteDouble.exists_of_ofQuotient negative positive within
    rw [found]
    exact prevails.isNearestTo (by rwa [abs_signFactor_mul])
  · rw [abs_of_nonneg (div_nonneg numerator.cast_nonneg denominator.cast_nonneg), not_lt,
      le_div_iff₀ (by exact_mod_cast positive)] at within
    have beyond : limit * denominator ≤ numerator := by exact_mod_cast within
    have infinite := mt (isFinite_ofQuotient_iff_limit negative positive).mp (not_lt.mpr beyond)
    rcases ofQuotient_cases negative numerator denominator with ⟨value, found⟩ | found
    · exact absurd (found ▸ rfl) infinite
    · rw [found, IsRoundingOf, ← mul_assoc, signFactor_mul_self, one_mul,
        le_div_iff₀ (by exact_mod_cast positive)]
      exact within

/-- A number is rounded to a double that is a whole number. -/
def RoundsToWhole (number : ℚ) (whole : ℤ) : Prop :=
  ∃ value : FiniteDouble, value.IsNearestTo number ∧ value.toRat = whole

/-- The whole number that a double is taken as is the one that a number is rounded to, if the double
is its rounding. -/
theorem IsRoundingOf.toInt?_eq_some_iff {double : Double} {number : ℚ}
    (rounding : double.IsRoundingOf number) {whole : ℤ} :
    double.toInt? = some whole ↔ RoundsToWhole number whole := by
  cases double with
  | nan => exact rounding.elim
  | infinite negative =>
    refine iff_of_false nofun ?_
    rintro ⟨value, nearest, _⟩
    have beyond : limit ≤ |number| := by
      rw [← abs_signFactor_mul negative]
      exact le_trans rounding (le_abs_self _)
    exact absurd nearest.within (not_lt.mpr beyond)
  | finite value =>
    rw [FiniteDouble.toInt?_eq_some_iff]
    constructor
    · intro same
      exact ⟨value, rounding, same⟩
    · rintro ⟨other, nearest, same⟩
      rw [FiniteDouble.IsNearestTo.toRat_eq rounding nearest, same]

/-- A whole number below 2 ^ 53 is a double. -/
theorem exists_toRat_eq {whole : ℤ} (small : whole.natAbs < 2 ^ 53) :
    ∃ value : FiniteDouble, value.toRat = whole := by
  rcases eq_or_ne whole 0 with rfl | nonzero
  · exact ⟨⟨false, 0, -1074, by decide⟩, by norm_num [FiniteDouble.toRat]⟩
  · have positive : whole.natAbs ≠ 0 := Int.natAbs_ne_zero.mpr nonzero
    obtain ⟨places, filled⟩ : ∃ places, whole.natAbs.log2 + places = 52 := by
      have bits := (Nat.log2_lt positive).mpr small
      exact ⟨52 - whole.natAbs.log2, by omega⟩
    have least : 2 ^ 52 ≤ whole.natAbs * 2 ^ places := by
      rw [← filled, pow_add]
      exact Nat.mul_le_mul_right _ (Nat.log2_self_le positive)
    have greatest : whole.natAbs * 2 ^ places < 2 ^ 53 := by
      rw [show 53 = whole.natAbs.log2 + 1 + places by omega, pow_add]
      exact Nat.mul_lt_mul_of_pos_right Nat.lt_log2_self (by positivity)
    have canonical : BinaryFormat.binary64.IsCanonical (whole.natAbs * 2 ^ places) (-places) := by
      refine ⟨greatest, ?_, ?_, .inr least⟩
      · show (-1074 : ℤ) ≤ -places
        omega
      · show -(places : ℤ) ≤ 971
        omega
    refine ⟨⟨whole < 0, whole.natAbs * 2 ^ places, -places, canonical⟩, ?_⟩
    rw [FiniteDouble.toRat, zpow_neg, zpow_natCast, Nat.cast_mul, Nat.cast_pow, Nat.cast_ofNat,
      mul_inv_cancel_right₀ (by positivity), signFactor_mul_natAbs]

/-- A whole number below 2 ^ 53 is rounded to itself. -/
theorem roundsToWhole_self {whole : ℤ} (small : whole.natAbs < 2 ^ 53) :
    RoundsToWhole whole whole := by
  obtain ⟨value, same⟩ := exists_toRat_eq small
  have within : |(whole : ℚ)| < limit := by
    rw [← Int.cast_abs, ← Nat.cast_natAbs]
    exact_mod_cast small.trans_le pow_le_limit
  exact ⟨value, (FiniteDouble.prevails_of_eq same).isNearestTo within, same⟩

/-- A number is rounded to one whole number at most. -/
theorem RoundsToWhole.unique {number : ℚ} {whole other : ℤ} (rounded : RoundsToWhole number whole)
    (also : RoundsToWhole number other) : whole = other := by
  obtain ⟨value, nearest, same⟩ := rounded
  obtain ⟨found, nearest_found, same_found⟩ := also
  have equal := nearest.toRat_eq nearest_found
  rw [same, same_found] at equal
  exact_mod_cast equal

/-- A number is not rounded past a small whole number. -/
theorem RoundsToWhole.bounds {number whole bound : ℤ} (rounded : RoundsToWhole number whole)
    (small : bound.natAbs < 2 ^ 53) :
    (bound ≤ number → bound ≤ whole) ∧ (number ≤ bound → whole ≤ bound) := by
  obtain ⟨value, nearest, same⟩ := rounded
  obtain ⟨other, equal⟩ := exists_toRat_eq small
  have near := nearest.nearest other
  rw [same, equal] at near
  have near : |whole - number| ≤ |bound - number| := by exact_mod_cast near
  constructor
  · intro below
    rw [abs_of_nonpos (sub_nonpos.mpr below)] at near
    have least := (abs_le.mp near).1
    omega
  · intro above
    rw [abs_of_nonneg (sub_nonneg.mpr above)] at near
    have greatest := (abs_le.mp near).2
    omega

end Double

end ChunkCodecs
