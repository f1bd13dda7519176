import ChunkCodecs.Number.Shortest
import ChunkCodecs.Proofs.Number.Rounding

/-!
# The shortest digits of a double are those of a positive number

A double that is not zero is rounded to a magnitude that is not zero either, and the digits
that are found for it are never all zero: a number in the interval around a positive
magnitude is positive, and so is the last resort, which has seventeen digits from the
place of the leading one on.
-/

namespace ChunkCodecs

/-- A whole number of units is rounded to itself. -/
theorem roundHalfEven_mul (units : Nat) {denominator : Nat} (positive : 0 < denominator) :
    roundHalfEven (units * denominator) denominator = units := by
  have whole : units * denominator / denominator = units := Nat.mul_div_cancel units positive
  have remainder : units * denominator % denominator = 0 := Nat.mul_mod_left units denominator
  simp [roundHalfEven, whole, remainder, positive]

/-- A quotient of at least one is not rounded to zero. -/
theorem roundHalfEven_pos {numerator denominator : Nat} (positive : 0 < denominator)
    (large : denominator ≤ numerator) : 0 < roundHalfEven numerator denominator := by
  have some_units : 0 < numerator / denominator := Nat.div_pos large positive
  simp only [roundHalfEven]
  split <;> omega

namespace FiniteDouble

variable {value : FiniteDouble}

/-- A double measured in a unit that is no larger than its own is a whole number of units. -/
theorem scaleDown_quotient (value : FiniteDouble) {exponent : Int}
    (fine : exponent ≤ value.exponent) :
    (scaleDown value.quotient.1 value.quotient.2 exponent).1 =
      value.significand * 2 ^ (value.exponent - exponent).toNat *
        (scaleDown value.quotient.1 value.quotient.2 exponent).2 := by
  by_cases large : 0 ≤ value.exponent
  · by_cases unit : 0 ≤ exponent
    · have parts : value.exponent.toNat = (value.exponent - exponent).toNat + exponent.toNat := by
        omega
      simp only [quotient, scaleDown, large, unit, if_true, parts, Nat.pow_add, Nat.one_mul,
        Nat.mul_assoc]
    · have parts : (value.exponent - exponent).toNat = value.exponent.toNat + (-exponent).toNat := by
        omega
      simp only [quotient, scaleDown, large, unit, if_true, if_false, parts, Nat.pow_add,
        Nat.mul_one, Nat.mul_assoc]
  · have unit : ¬ 0 ≤ exponent := by omega
    have parts : (-exponent).toNat =
        (value.exponent - exponent).toNat + (-value.exponent).toNat := by
      omega
    simp only [quotient, scaleDown, large, unit, if_false, parts, Nat.pow_add, Nat.mul_assoc]

/-- The denominator of a double is positive. -/
theorem quotient_denominator_pos (value : FiniteDouble) : 0 < value.quotient.2 := by
  simp only [quotient]
  split
  · exact Nat.one_pos
  · exact Nat.pow_pos (by decide)

/-- A double that is not zero is measured in units that are no larger than its own.

Proof: the estimate of the unit is the place of the first bit less the bits of a significand,
and the double has no more bits than that. -/
theorem unitExponent_quotient_le (nonzero : value.significand ≠ 0) :
    BinaryFormat.binary64.unitExponent value.quotient.1 value.quotient.2 ≤ value.exponent := by
  obtain ⟨bits, least, _, _⟩ := value.canonical
  have estimate : (value.quotient.1.log2 : Int) - value.quotient.2.log2 < value.exponent + 53 := by
    by_cases large : 0 ≤ value.exponent
    · have some_units : value.significand * 2 ^ value.exponent.toNat ≠ 0 :=
        Nat.mul_ne_zero nonzero (Nat.ne_of_gt (Nat.pow_pos (by decide)))
      have bound : value.significand * 2 ^ value.exponent.toNat < 2 ^ (53 + value.exponent.toNat) := by
        rw [Nat.pow_add]
        exact Nat.mul_lt_mul_of_pos_right bits (Nat.pow_pos (by decide))
      have places := (Nat.log2_lt some_units).mpr bound
      have one : Nat.log2 1 = 0 := by decide
      simp only [quotient, large, if_true, one]
      omega
    · have places := (Nat.log2_lt nonzero).mpr bits
      have precision : BinaryFormat.binary64.precision = 53 := rfl
      simp only [quotient, large, if_false, Nat.log2_two_pow]
      omega
  have precision : BinaryFormat.binary64.precision = 53 := rfl
  simp only [BinaryFormat.unitExponent, precision]
  apply Int.max_le.mpr
  constructor
  · split <;> omega
  · exact least

/-- A double that is not zero is rounded to a magnitude, and not to zero.

Proof: it is a whole number of the units in which it is measured, so that rounding is
exact. If that number is one bit too wide, the units are smaller than that of the double,
and the next larger ones are still within the format. -/
theorem roundQuotient_quotient (nonzero : value.significand ≠ 0) :
    ∃ significand exponent, BinaryFormat.binary64.roundQuotient value.quotient.1 value.quotient.2 =
      some (significand, exponent) ∧ 0 < significand := by
  have fine := unitExponent_quotient_le nonzero
  have whole := value.scaleDown_quotient fine
  have positive := @scaleDown_denominator_pos value.quotient.1 _
    (BinaryFormat.binary64.unitExponent value.quotient.1 value.quotient.2)
    value.quotient_denominator_pos
  obtain ⟨bits, _, greatest, _⟩ := value.canonical
  have numerator : value.quotient.1 ≠ 0 := by
    have power (places : Nat) : 2 ^ places ≠ 0 := Nat.ne_of_gt (Nat.pow_pos (by decide))
    simp only [quotient]
    split
    · exact Nat.mul_ne_zero nonzero (power _)
    · exact nonzero
  rw [BinaryFormat.roundQuotient, if_neg numerator]
  generalize BinaryFormat.binary64.unitExponent value.quotient.1 value.quotient.2 = exponent
    at fine whole positive ⊢
  have units_pos : 0 < value.significand * 2 ^ (value.exponent - exponent).toNat :=
    Nat.mul_pos (Nat.pos_of_ne_zero nonzero) (Nat.pow_pos (by decide))
  simp only [whole, roundHalfEven_mul _ positive]
  by_cases carried : value.significand * 2 ^ (value.exponent - exponent).toNat =
      2 ^ BinaryFormat.binary64.precision
  · have other : exponent ≠ value.exponent := by
      rintro rfl
      simp only [Int.sub_self, Int.toNat_zero, Nat.pow_zero, Nat.mul_one] at carried
      omega
    have within : exponent + 1 ≤ BinaryFormat.binary64.maxExponent := by omega
    refine ⟨2 ^ (BinaryFormat.binary64.precision - 1), exponent + 1, ?_, Nat.pow_pos (by decide)⟩
    simp only [carried, if_true, within]
  · have within : exponent ≤ BinaryFormat.binary64.maxExponent := by omega
    refine ⟨_, exponent, ?_, units_pos⟩
    simp only [carried, if_false, within, if_true]

end FiniteDouble

namespace Shortest

/-- A power of ten is no greater than a quotient. -/
def PowerFits (numerator denominator : Nat) (exponent : Int) : Prop :=
  (perPowerOfTen numerator denominator exponent).2 ≤
    (perPowerOfTen numerator denominator exponent).1

/-- A smaller power of ten is no greater than the quotient either. -/
theorem PowerFits.mono {numerator denominator : Nat} {exponent smaller : Int}
    (fits : PowerFits numerator denominator exponent) (le : smaller ≤ exponent) :
    PowerFits numerator denominator smaller := by
  have power (places : Nat) : 0 < 10 ^ places := Nat.pow_pos (by decide)
  simp only [PowerFits, perPowerOfTen] at fits ⊢
  by_cases plain : 0 ≤ smaller
  · have also : 0 ≤ exponent := by omega
    have more : 10 ^ smaller.toNat ≤ 10 ^ exponent.toNat :=
      Nat.pow_le_pow_right (by decide) (by omega)
    simp only [plain, also, if_true] at fits ⊢
    exact Nat.le_trans (Nat.mul_le_mul_left denominator more) fits
  · by_cases also : 0 ≤ exponent
    · simp only [plain, also, if_true, if_false] at fits ⊢
      calc denominator
          ≤ denominator * 10 ^ exponent.toNat := Nat.le_mul_of_pos_right _ (power _)
        _ ≤ numerator := fits
        _ ≤ numerator * 10 ^ (-smaller).toNat := Nat.le_mul_of_pos_right _ (power _)
    · have more : 10 ^ (-exponent).toNat ≤ 10 ^ (-smaller).toNat :=
        Nat.pow_le_pow_right (by decide) (by omega)
      simp only [plain, also, if_false] at fits ⊢
      exact Nat.le_trans fits (Nat.mul_le_mul_left numerator more)

/-- A positive number is between the powers of ten that its digits count. -/
theorem digitCount_bounds {number : Nat} (positive : 0 < number) :
    10 ^ (digitCount number - 1) ≤ number ∧ number < 10 ^ digitCount number ∧
      0 < digitCount number := by
  have some_digits : 0 < digitCount number := Nat.length_toDigits_pos
  have below : number < 10 ^ digitCount number :=
    (Nat.length_toDigits_le_iff (by decide) some_digits).mp (Nat.le_refl _)
  refine ⟨?_, below, some_digits⟩
  by_cases single : digitCount number = 1
  · rw [single]
    exact positive
  · have fewer : 0 < digitCount number - 1 := by omega
    apply Nat.le_of_not_lt
    intro small
    have count := (Nat.length_toDigits_le_iff (by decide) fewer).mpr small
    have same : (Nat.toDigits 10 number).length = digitCount number := rfl
    omega

/-- The power of ten of the leading place of a positive quotient is no greater than the
quotient.

Proof: the estimate is checked, and one place below it the power of ten is small enough by
the counts of digits. -/
theorem powerFits_leadingPlace {numerator denominator : Nat} (some_numerator : 0 < numerator)
    (some_denominator : 0 < denominator) :
    PowerFits numerator denominator (leadingPlace numerator denominator) := by
  obtain ⟨at_least, _, _⟩ := digitCount_bounds some_numerator
  obtain ⟨_, below, _⟩ := digitCount_bounds some_denominator
  simp only [leadingPlace]
  split
  · rename_i checked
    exact checked
  · simp only [PowerFits, perPowerOfTen]
    by_cases plain : 0 ≤ (digitCount numerator : Int) - digitCount denominator - 1
    · simp only [plain, if_true]
      have places : digitCount numerator - 1 = digitCount denominator +
          ((digitCount numerator : Int) - digitCount denominator - 1).toNat := by omega
      rw [places, Nat.pow_add] at at_least
      exact Nat.le_trans (Nat.mul_le_mul_right _ (Nat.le_of_lt below)) at_least
    · simp only [plain, if_false]
      have places : digitCount denominator ≤ digitCount numerator - 1 +
          (-((digitCount numerator : Int) - digitCount denominator - 1)).toNat := by omega
      calc denominator
          ≤ 10 ^ digitCount denominator := Nat.le_of_lt below
        _ ≤ 10 ^ (digitCount numerator - 1 +
            (-((digitCount numerator : Int) - digitCount denominator - 1)).toNat) :=
          Nat.pow_le_pow_right (by decide) places
        _ ≤ numerator * 10 ^ (-((digitCount numerator : Int) - digitCount denominator - 1)).toNat := by
          rw [Nat.pow_add]
          exact Nat.mul_le_mul_right _ at_least

/-- The digits in an interval above zero are not all zero. -/
theorem digits_pos_of_contains {interval : Interval} (above : 0 < interval.lower) {digits : Nat}
    {place : Int} (inside : interval.contains digits place = true) : 0 < digits := by
  apply Nat.pos_of_ne_zero
  rintro rfl
  have scaled (factor : Nat) (positive : 0 < factor) : 0 < interval.lower * factor :=
    Nat.mul_pos above positive
  have one := scaled 1 (by decide)
  have power := scaled (10 ^ (-place).toNat) (Nat.pow_pos (by decide))
  simp only [Interval.contains, Nat.zero_mul, ite_self] at inside
  by_cases plain : 0 ≤ place <;> by_cases closed : interval.closed = true <;>
    simp [plain, closed] at inside <;> omega

/-- What is found on a grid lies in the interval. -/
theorem contains_of_onGrid {interval : Interval} {place : Int} {digits : Nat}
    (found : onGrid interval place = some digits) : interval.contains digits place = true := by
  simp only [onGrid] at found
  grind

/-- The search for digits does not find zero. -/
theorem search_digits_pos {interval : Interval} (above : 0 < interval.lower)
    (some_denominator : 0 < interval.denominator) {leading : Int}
    (fits : PowerFits interval.middle interval.denominator leading) (remaining : Nat) {count : Nat}
    (positive : 0 < count) : 0 < (search interval leading remaining count).digits := by
  induction remaining generalizing count with
  | zero =>
    have below := fits.mono (show leading - count + 1 ≤ leading by omega)
    have scaled : 0 < (perPowerOfTen interval.middle interval.denominator
        (leading - count + 1)).2 := by
      simp only [perPowerOfTen]
      split
      · exact Nat.mul_pos some_denominator (Nat.pow_pos (by decide))
      · exact some_denominator
    exact roundHalfEven_pos scaled below
  | succ remaining inductionHypothesis =>
    simp only [search]
    split
    · rename_i digits found
      exact digits_pos_of_contains above (contains_of_onGrid found)
    · exact inductionHypothesis (Nat.succ_pos count)

/-- The shortest digits of a positive magnitude are not all zero. -/
theorem digits_digits_pos (format : BinaryFormat) {significand : Nat} (positive : 0 < significand)
    (exponent : Int) : 0 < (digits format significand exponent).digits := by
  have unit_pos : 0 < (if 0 ≤ exponent then 2 ^ exponent.toNat else 1) := by
    split
    · exact Nat.pow_pos (by decide)
    · exact Nat.one_pos
  have middle : 4 * (if 0 ≤ exponent then 2 ^ exponent.toNat else 1) ≤
      4 * significand * (if 0 ≤ exponent then 2 ^ exponent.toNat else 1) :=
    Nat.mul_le_mul_right _ (by omega)
  have above : 0 < (roundingInterval format significand exponent).lower := by
    simp only [roundingInterval]
    generalize (if 0 ≤ exponent then 2 ^ exponent.toNat else 1) = unit at unit_pos middle ⊢
    split <;> omega
  have middle_pos : 0 < (roundingInterval format significand exponent).middle := by
    simp only [roundingInterval]
    omega
  have denominator_pos : 0 < (roundingInterval format significand exponent).denominator := by
    simp only [roundingInterval]
    split
    · decide
    · exact Nat.mul_pos (by decide) (Nat.pow_pos (by decide))
  exact search_digits_pos above denominator_pos
    (powerFits_leadingPlace middle_pos denominator_pos) 16 (by decide)

/-- Taking zeros away from digits that are not all zero leaves such digits. -/
theorem trimZeros_digits_pos (fuel : Nat) {decimal : DecimalDigits} (positive : 0 < decimal.digits) :
    0 < (trimZeros fuel decimal).digits := by
  induction fuel generalizing decimal with
  | zero => exact positive
  | succ fuel inductionHypothesis =>
    unfold trimZeros
    split
    · rename_i trailing
      simp only [ne_eq, decide_not, Bool.and_eq_true, Bool.not_eq_eq_eq_not, Bool.not_true,
        decide_eq_false_iff_not, decide_eq_true_eq] at trailing
      apply inductionHypothesis
      show 0 < decimal.digits / 10
      omega
    · exact positive

end Shortest

end ChunkCodecs
