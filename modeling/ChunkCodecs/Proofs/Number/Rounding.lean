import ChunkCodecs.Number.Double

/-!
# Where the format of a double ends

A quotient is measured in units of which it has as many bits as a significand, or in the least
unit. Rounding it to a whole number of units is then within the format exactly if the quotient
is below the middle between the greatest double and the power of two above it; from the middle
on, which is a tie that goes to the even side, there is no nearest double. A double that is a
whole number is below that power of two.
-/

namespace ChunkCodecs

section

variable {numerator denominator : Nat} {exponent coarser : Int}

/-- A quotient measured in a unit that is a whole number. -/
theorem scaleDown_natCast (places : Nat) :
    scaleDown numerator denominator places = (numerator, denominator * 2 ^ places) := by
  rw [scaleDown, if_pos (Int.natCast_nonneg places), Int.toNat_natCast]

/-- A quotient measured in units is one with a positive denominator. -/
theorem scaleDown_denominator_pos (positive : 0 < denominator) :
    0 < (scaleDown numerator denominator exponent).2 := by
  simp only [scaleDown]
  split
  · exact Nat.mul_pos positive (Nat.pow_pos (by decide))
  · exact positive

/-- A quotient measured in two units differs by their ratio. -/
theorem scaleDown_mul_scaleDown (le : exponent ≤ coarser) :
    (scaleDown numerator denominator exponent).1 * (scaleDown numerator denominator coarser).2 =
      (scaleDown numerator denominator coarser).1 *
        ((scaleDown numerator denominator exponent).2 * 2 ^ (coarser - exponent).toNat) := by
  by_cases whole : 0 ≤ exponent
  · have parts : coarser.toNat = exponent.toNat + (coarser - exponent).toNat := by omega
    have also : 0 ≤ coarser := by omega
    simp only [scaleDown, whole, also, if_true, parts, Nat.pow_add, Nat.mul_assoc]
  · by_cases also : 0 ≤ coarser
    · have parts : (coarser - exponent).toNat = (-exponent).toNat + coarser.toNat := by omega
      simp only [scaleDown, whole, also, if_true, if_false, parts, Nat.pow_add]
      ac_rfl
    · have parts : (-exponent).toNat = (-coarser).toNat + (coarser - exponent).toNat := by omega
      simp only [scaleDown, whole, also, if_false, parts, Nat.pow_add]
      ac_rfl

/-- Measured in a coarser unit a quotient is compared with fewer units. -/
theorem mul_scaleDown_le_iff (positive : 0 < denominator) (le : exponent ≤ coarser) (units : Nat) :
    units * 2 ^ (coarser - exponent).toNat * (scaleDown numerator denominator exponent).2 ≤
        (scaleDown numerator denominator exponent).1 ↔
      units * (scaleDown numerator denominator coarser).2 ≤
        (scaleDown numerator denominator coarser).1 := by
  have ratio := @scaleDown_mul_scaleDown numerator denominator exponent coarser le
  have fine := @scaleDown_denominator_pos numerator denominator exponent positive
  have coarse := @scaleDown_denominator_pos numerator denominator coarser positive
  have power_pos : 0 < 2 ^ (coarser - exponent).toNat := Nat.pow_pos (by decide)
  generalize (scaleDown numerator denominator exponent).1 = fineUnits at ratio ⊢
  generalize (scaleDown numerator denominator exponent).2 = fineDenominator at ratio fine ⊢
  generalize (scaleDown numerator denominator coarser).1 = coarseUnits at ratio ⊢
  generalize (scaleDown numerator denominator coarser).2 = coarseDenominator at ratio coarse ⊢
  generalize 2 ^ (coarser - exponent).toNat = power at ratio power_pos ⊢
  calc units * power * fineDenominator ≤ fineUnits
      ↔ units * power * fineDenominator * coarseDenominator ≤ fineUnits * coarseDenominator :=
        (Nat.mul_le_mul_right_iff coarse).symm
    _ ↔ units * coarseDenominator * (fineDenominator * power) ≤
          coarseUnits * (fineDenominator * power) := by
        rw [ratio]
        have order : units * power * fineDenominator * coarseDenominator =
            units * coarseDenominator * (fineDenominator * power) := by ac_rfl
        rw [order]
    _ ↔ units * coarseDenominator ≤ coarseUnits :=
        Nat.mul_le_mul_right_iff (Nat.mul_pos fine power_pos)

end

/-- A quotient below a power of two is rounded to it exactly from the middle of the last unit
on: the number below the power is odd, so the tie goes up. -/
theorem roundHalfEven_eq_pow_iff {bits numerator denominator : Nat} (some_bits : 0 < bits)
    (positive : 0 < denominator) (below : numerator < 2 ^ bits * denominator) :
    roundHalfEven numerator denominator = 2 ^ bits ↔
      2 ^ (bits + 1) * denominator ≤ 2 * numerator + denominator := by
  have even : 2 ^ bits = 2 * 2 ^ (bits - 1) := by
    rw [← Nat.pow_succ', Nat.succ_eq_add_one, Nat.sub_add_cancel some_bits]
  have double : 2 ^ (bits + 1) * denominator = 2 * (2 ^ bits * denominator) := by
    rw [Nat.pow_succ', Nat.mul_assoc]
  have parts := Nat.div_add_mod numerator denominator
  have remainder := Nat.mod_lt numerator positive
  have few : numerator / denominator < 2 ^ bits := (Nat.div_lt_iff_lt_mul positive).mpr below
  simp only [roundHalfEven]
  by_cases last : numerator / denominator + 1 = 2 ^ bits
  · have whole : denominator * (numerator / denominator) + denominator = 2 ^ bits * denominator := by
      rw [← Nat.mul_succ, Nat.succ_eq_add_one, last, Nat.mul_comm]
    have odd : numerator / denominator % 2 = 1 := by omega
    split
    · rename_i down
      simp only [Bool.or_eq_true, decide_eq_true_eq, Bool.and_eq_true, beq_iff_eq] at down
      omega
    · rename_i up
      simp only [Bool.or_eq_true, decide_eq_true_eq, Bool.and_eq_true, beq_iff_eq, not_or] at up
      omega
  · have whole : denominator * (numerator / denominator) + 2 * denominator ≤
        2 ^ bits * denominator := by
      calc denominator * (numerator / denominator) + 2 * denominator
          = (numerator / denominator + 2) * denominator := by rw [Nat.add_mul, Nat.mul_comm]
        _ ≤ 2 ^ bits * denominator := Nat.mul_le_mul_right _ (by omega)
    split <;> omega

namespace BinaryFormat

variable {format : BinaryFormat} {numerator denominator : Nat}

/-- At the estimated unit a quotient has the bits of a significand, or one bit more.

Proof: the estimate is the difference of the places of the leading bits, and each of the two
numbers is between the powers of two of that place and the next one. -/
theorem estimate_bounds (precision : Nat) (some_bits : 0 < precision) (some_numerator : 0 < numerator)
    (some_denominator : 0 < denominator) {estimate : Int}
    (places : estimate = numerator.log2 - denominator.log2 - precision) :
    2 ^ (precision - 1) * (scaleDown numerator denominator estimate).2 ≤
        (scaleDown numerator denominator estimate).1 ∧
      (scaleDown numerator denominator estimate).1 <
        2 ^ (precision + 1) * (scaleDown numerator denominator estimate).2 := by
  have least := Nat.log2_self_le (Nat.ne_of_gt some_numerator)
  have greatest := Nat.lt_log2_self (n := numerator)
  have least' := Nat.log2_self_le (Nat.ne_of_gt some_denominator)
  have greatest' := Nat.lt_log2_self (n := denominator)
  by_cases whole : 0 ≤ estimate
  · simp only [scaleDown, whole, if_true]
    constructor
    · calc 2 ^ (precision - 1) * (denominator * 2 ^ estimate.toNat)
          ≤ 2 ^ (precision - 1) * (2 ^ (denominator.log2 + 1) * 2 ^ estimate.toNat) :=
          Nat.mul_le_mul_left _ (Nat.mul_le_mul_right _ (Nat.le_of_lt greatest'))
        _ = 2 ^ numerator.log2 := by
          rw [← Nat.pow_add, ← Nat.pow_add]
          congr 1
          omega
        _ ≤ numerator := least
    · calc numerator
          < 2 ^ (numerator.log2 + 1) := greatest
        _ = 2 ^ (precision + 1) * (2 ^ denominator.log2 * 2 ^ estimate.toNat) := by
          rw [← Nat.pow_add, ← Nat.pow_add]
          congr 1
          omega
        _ ≤ 2 ^ (precision + 1) * (denominator * 2 ^ estimate.toNat) :=
          Nat.mul_le_mul_left _ (Nat.mul_le_mul_right _ least')
  · simp only [scaleDown, whole, if_false]
    constructor
    · calc 2 ^ (precision - 1) * denominator
          ≤ 2 ^ (precision - 1) * 2 ^ (denominator.log2 + 1) :=
          Nat.mul_le_mul_left _ (Nat.le_of_lt greatest')
        _ = 2 ^ numerator.log2 * 2 ^ (-estimate).toNat := by
          rw [← Nat.pow_add, ← Nat.pow_add]
          congr 1
          omega
        _ ≤ numerator * 2 ^ (-estimate).toNat := Nat.mul_le_mul_right _ least
    · calc numerator * 2 ^ (-estimate).toNat
          < 2 ^ (numerator.log2 + 1) * 2 ^ (-estimate).toNat :=
          Nat.mul_lt_mul_of_pos_right greatest (Nat.pow_pos (by decide))
        _ = 2 ^ (precision + 1) * 2 ^ denominator.log2 := by
          rw [← Nat.pow_add, ← Nat.pow_add]
          congr 1
          omega
        _ ≤ 2 ^ (precision + 1) * denominator := Nat.mul_le_mul_left _ least'

/-- There is an exponent in which a quotient has exactly the bits of a significand, and the unit of
the quotient is this exponent, or the least one of the format if that is greater.

Proof: the estimate is this exponent, or it has one bit too many and the next one is. -/
theorem exists_fitting_exponent (some_bits : 0 < format.precision) (some_numerator : 0 < numerator)
    (some_denominator : 0 < denominator) {exponent : Int}
    (measured : exponent = format.unitExponent numerator denominator) :
    ∃ fitted : Int,
      ¬ 2 ^ format.precision * (scaleDown numerator denominator fitted).2 ≤
          (scaleDown numerator denominator fitted).1 ∧
        2 ^ (format.precision - 1) * (scaleDown numerator denominator fitted).2 ≤
          (scaleDown numerator denominator fitted).1 ∧
        exponent = max fitted format.minExponent := by
  simp only [unitExponent] at measured
  generalize estimated : (numerator.log2 : Int) - denominator.log2 - format.precision = estimate
    at measured
  obtain ⟨least, greatest⟩ :=
    estimate_bounds format.precision some_bits some_numerator some_denominator estimated.symm
  have positive := @scaleDown_denominator_pos numerator denominator estimate some_denominator
  have next := @mul_scaleDown_le_iff numerator denominator estimate (estimate + 1)
    some_denominator (by omega)
  have one : (estimate + 1 - estimate).toNat = 1 := by omega
  rw [one, Nat.pow_one] at next
  by_cases fits : (scaleDown numerator denominator estimate).1 /
      (scaleDown numerator denominator estimate).2 < 2 ^ format.precision
  · rw [if_pos fits] at measured
    exact ⟨estimate, Nat.not_le.mpr ((Nat.div_lt_iff_lt_mul positive).mp fits), least, measured⟩
  · rw [if_neg fits] at measured
    have wide : 2 ^ format.precision * (scaleDown numerator denominator estimate).2 ≤
        (scaleDown numerator denominator estimate).1 :=
      (Nat.le_div_iff_mul_le positive).mp (Nat.le_of_not_lt fits)
    have half : 2 ^ (format.precision - 1) * 2 = 2 ^ format.precision :=
      Nat.two_pow_pred_mul_two some_bits
    refine ⟨estimate + 1, ?_, ?_, measured⟩
    · intro too_wide
      rw [← next, show 2 ^ format.precision * 2 = 2 ^ (format.precision + 1) from rfl] at too_wide
      omega
    · rw [← next, half]
      exact wide

/-- In its unit a quotient has at most the bits of a significand, and all of them unless the
unit is the least one. -/
theorem unitExponent_bounds (some_bits : 0 < format.precision) (some_numerator : 0 < numerator)
    (some_denominator : 0 < denominator) {exponent : Int}
    (measured : exponent = format.unitExponent numerator denominator) :
    (scaleDown numerator denominator exponent).1 <
        2 ^ format.precision * (scaleDown numerator denominator exponent).2 ∧
      format.minExponent ≤ exponent ∧
      (exponent = format.minExponent ∨
        2 ^ (format.precision - 1) * (scaleDown numerator denominator exponent).2 ≤
          (scaleDown numerator denominator exponent).1) := by
  obtain ⟨fitted, below, above, chosen⟩ :=
    exists_fitting_exponent some_bits some_numerator some_denominator measured
  have coarser : fitted ≤ exponent := by omega
  have least : format.minExponent ≤ exponent := by omega
  refine ⟨?_, least, ?_⟩
  · apply Nat.lt_of_not_le
    intro wide
    rw [← mul_scaleDown_le_iff some_denominator coarser] at wide
    apply below
    calc 2 ^ format.precision * (scaleDown numerator denominator fitted).2
        ≤ 2 ^ format.precision * 2 ^ (exponent - fitted).toNat *
            (scaleDown numerator denominator fitted).2 :=
          Nat.mul_le_mul_right _ (Nat.le_mul_of_pos_right _ (Nat.pow_pos (by decide)))
      _ ≤ (scaleDown numerator denominator fitted).1 := wide
  · by_cases clamped : exponent = format.minExponent
    · exact .inl clamped
    · have same : exponent = fitted := by omega
      rw [same]
      exact .inr above

/-- What is rounded to is the one representation of a magnitude of the format. -/
theorem isCanonical_of_roundQuotient (some_bits : 0 < format.precision)
    (range : format.minExponent ≤ format.maxExponent) (some_denominator : 0 < denominator)
    {significand : Nat} {exponent : Int}
    (rounded : format.roundQuotient numerator denominator = some (significand, exponent)) :
    format.IsCanonical significand exponent := by
  have half : 2 ^ (format.precision - 1) < 2 ^ format.precision :=
    Nat.pow_lt_pow_right (by decide) (by omega)
  by_cases zero : numerator = 0
  · simp only [roundQuotient, zero, if_true, Option.some.injEq, Prod.mk.injEq] at rounded
    obtain ⟨rfl, rfl⟩ := rounded
    exact ⟨Nat.pow_pos (by decide), Int.le_refl _, range, .inl rfl⟩
  · simp only [roundQuotient, zero, if_false] at rounded
    generalize measured : format.unitExponent numerator denominator = unit at rounded
    obtain ⟨below, least, full⟩ := unitExponent_bounds some_bits (Nat.pos_of_ne_zero zero)
      some_denominator measured.symm
    have positive := @scaleDown_denominator_pos numerator denominator unit some_denominator
    have few := (Nat.div_lt_iff_lt_mul positive).mpr below
    have at_most : roundHalfEven (scaleDown numerator denominator unit).1
        (scaleDown numerator denominator unit).2 ≤ 2 ^ format.precision := by
      simp only [roundHalfEven]
      split <;> omega
    have at_least : unit = format.minExponent ∨ 2 ^ (format.precision - 1) ≤
        roundHalfEven (scaleDown numerator denominator unit).1
          (scaleDown numerator denominator unit).2 := by
      refine full.imp id fun wide => ?_
      have many := (Nat.le_div_iff_mul_le positive).mpr wide
      simp only [roundHalfEven]
      split <;> omega
    generalize roundHalfEven (scaleDown numerator denominator unit).1
      (scaleDown numerator denominator unit).2 = units at rounded at_most at_least
    by_cases carried : units = 2 ^ format.precision
    · simp only [carried, if_true, Option.ite_none_right_eq_some, Option.some.injEq,
        Prod.mk.injEq] at rounded
      obtain ⟨within, rfl, rfl⟩ := rounded
      exact ⟨half, by omega, within, .inr (Nat.le_refl _)⟩
    · simp only [carried, if_false, Option.ite_none_right_eq_some, Option.some.injEq,
        Prod.mk.injEq] at rounded
      obtain ⟨within, rfl, rfl⟩ := rounded
      exact ⟨by omega, least, within, at_least⟩

/-- A quotient that is not zero has a nearest magnitude if its unit is one of the format and
rounding does not carry beyond the greatest one. -/
theorem isSome_roundQuotient_iff_unit (nonzero : numerator ≠ 0) {unit : Int}
    (measured : format.unitExponent numerator denominator = unit) :
    (format.roundQuotient numerator denominator).isSome = true ↔ unit < format.maxExponent ∨
      unit = format.maxExponent ∧ roundHalfEven (scaleDown numerator denominator unit).1
        (scaleDown numerator denominator unit).2 ≠ 2 ^ format.precision := by
  simp only [roundQuotient, nonzero, if_false, measured]
  by_cases carried : roundHalfEven (scaleDown numerator denominator unit).1
      (scaleDown numerator denominator unit).2 = 2 ^ format.precision
  · simp only [carried, if_true, Option.isSome_ite, ne_eq, not_true, and_false, or_false]
    omega
  · simp only [carried, if_false, Option.isSome_ite, ne_eq, not_false_iff, and_true]
    omega

/-- A quotient has a nearest magnitude exactly if it is below the middle between the greatest
magnitude and the power of two above it.

Proof: by the unit of the quotient. In a smaller unit than the greatest one the quotient is
below half of that power; in a greater one it is not below the power; in the greatest one
itself the rounding decides. -/
theorem isSome_roundQuotient_iff (some_bits : 0 < format.precision)
    (range : format.minExponent < format.maxExponent) (some_denominator : 0 < denominator) :
    (format.roundQuotient numerator denominator).isSome = true ↔
      ¬ 2 ^ (format.precision + 1) * (scaleDown numerator denominator format.maxExponent).2 ≤
        2 * (scaleDown numerator denominator format.maxExponent).1 +
          (scaleDown numerator denominator format.maxExponent).2 := by
  have compare {exponent coarser : Int} (le : exponent ≤ coarser) :=
    @mul_scaleDown_le_iff numerator denominator exponent coarser some_denominator le
  have positive := @scaleDown_denominator_pos numerator denominator format.maxExponent
    some_denominator
  have half : 2 ^ format.precision = 2 ^ (format.precision - 1) * 2 :=
    (Nat.two_pow_pred_mul_two some_bits).symm
  have double : 2 ^ (format.precision + 1) *
      (scaleDown numerator denominator format.maxExponent).2 =
        2 * (2 ^ format.precision * (scaleDown numerator denominator format.maxExponent).2) := by
    rw [Nat.pow_succ', Nat.mul_assoc]
  have at_least_one : (scaleDown numerator denominator format.maxExponent).2 ≤
      2 ^ (format.precision - 1) * (scaleDown numerator denominator format.maxExponent).2 :=
    Nat.le_mul_of_pos_left _ (Nat.pow_pos (by decide))
  have twice : 2 ^ format.precision * (scaleDown numerator denominator format.maxExponent).2 =
      2 * (2 ^ (format.precision - 1) * (scaleDown numerator denominator format.maxExponent).2) := by
    rw [half, Nat.mul_right_comm, Nat.mul_comm]
  by_cases zero : numerator = 0
  · have nothing : (scaleDown numerator denominator format.maxExponent).1 = 0 := by
      simp only [scaleDown, zero]
      split <;> simp
    have found : (format.roundQuotient numerator denominator).isSome = true := by
      rw [roundQuotient, if_pos zero, Option.isSome_some]
    simp only [found, true_iff]
    omega
  · generalize measured : format.unitExponent numerator denominator = unit
    obtain ⟨below, least, full⟩ := unitExponent_bounds some_bits (Nat.pos_of_ne_zero zero)
      some_denominator measured.symm
    rw [isSome_roundQuotient_iff_unit zero measured]
    rcases Int.lt_trichotomy unit format.maxExponent with smaller | rfl | greater
    · have small : ¬ 2 ^ (format.precision - 1) *
          (scaleDown numerator denominator format.maxExponent).2 ≤
            (scaleDown numerator denominator format.maxExponent).1 := by
        rw [← compare (Int.le_of_lt smaller)]
        intro wide
        apply Nat.not_le.mpr below
        refine Nat.le_trans (Nat.mul_le_mul_right _ ?_) wide
        rw [half]
        exact Nat.mul_le_mul_left _ (Nat.le_self_pow (by omega) 2)
      simp only [smaller, true_or, true_iff]
      omega
    · have rounded := roundHalfEven_eq_pow_iff some_bits positive below
      simp only [Int.lt_irrefl, false_or, true_and, ne_eq, rounded]
    · have wide : 2 ^ format.precision * (scaleDown numerator denominator format.maxExponent).2 ≤
          (scaleDown numerator denominator format.maxExponent).1 := by
        have full_unit := full.resolve_left (by omega)
        rw [← compare (Int.le_of_lt greater)] at full_unit
        refine Nat.le_trans (Nat.mul_le_mul_right _ ?_) full_unit
        rw [half]
        exact Nat.mul_le_mul_left _ (Nat.le_self_pow (by omega) 2)
      omega

end BinaryFormat

namespace Double

/-- A quotient is rounded to a finite double or to an infinity of its sign. -/
theorem ofQuotient_cases (negative : Bool) (numerator denominator : Nat) :
    (∃ value, ofQuotient negative numerator denominator = .finite value) ∨
      ofQuotient negative numerator denominator = .infinite negative := by
  rw [ofQuotient]
  split
  · rw [ofParts]
    split
    · exact .inl ⟨_, rfl⟩
    · exact .inr rfl
  · exact .inr rfl

/-- A quotient has a nearest double exactly if it is below the middle between the greatest
double and the power of two above it. -/
theorem isFinite_ofQuotient_iff (negative : Bool) {numerator denominator : Nat}
    (positive : 0 < denominator) :
    (ofQuotient negative numerator denominator).isFinite = true ↔
      numerator < (2 ^ 54 - 1) * 2 ^ 970 * denominator := by
  have finite : (ofQuotient negative numerator denominator).isFinite =
      (BinaryFormat.binary64.roundQuotient numerator denominator).isSome := by
    cases rounded : BinaryFormat.binary64.roundQuotient numerator denominator with
    | none => simp only [ofQuotient, rounded, isFinite, Option.isSome_none]
    | some magnitude =>
      have canonical := BinaryFormat.isCanonical_of_roundQuotient (by decide) (by decide) positive
        rounded
      simp only [ofQuotient, rounded, ofParts, dif_pos canonical, isFinite, Option.isSome_some]
  have scaled : scaleDown numerator denominator BinaryFormat.binary64.maxExponent =
      (numerator, denominator * 2 ^ (970 + 1)) := scaleDown_natCast (970 + 1)
  have precision : BinaryFormat.binary64.precision = 53 := rfl
  have middle (places : Nat) : 2 ^ 54 * (denominator * 2 ^ (places + 1)) ≤
      2 * numerator + denominator * 2 ^ (places + 1) ↔
        (2 ^ 54 - 1) * 2 ^ places * denominator ≤ numerator := by
    have unit : denominator * 2 ^ (places + 1) = 2 * (2 ^ places * denominator) := by
      rw [Nat.pow_succ']
      ac_rfl
    rw [unit, Nat.mul_assoc (2 ^ 54 - 1)]
    generalize 2 ^ places * denominator = half
    omega
  rw [finite, BinaryFormat.isSome_roundQuotient_iff (by decide) (by decide) positive, scaled,
    precision, ← Nat.not_le]
  exact not_congr (middle 970)

/-- The middle between the greatest double and the power of two above it. -/
def limit : Nat := (2 ^ 54 - 1) * 2 ^ 970

/-- A quotient has a nearest double exactly if it is below the limit. -/
theorem isFinite_ofQuotient_iff_limit (negative : Bool) {numerator denominator : Nat}
    (positive : 0 < denominator) :
    (ofQuotient negative numerator denominator).isFinite = true ↔ numerator < limit * denominator := by
  unfold limit
  exact isFinite_ofQuotient_iff negative positive

/-- The limit is beyond the whole numbers that significands count. -/
theorem pow_le_limit : 2 ^ 53 ≤ limit := by
  have beyond (places : Nat) : 2 ^ 53 ≤ (2 ^ 54 - 1) * 2 ^ places :=
    Nat.le_trans (by decide) (Nat.le_mul_of_pos_right (2 ^ 54 - 1) (Nat.pow_pos (by decide)))
  unfold limit
  exact beyond 970

/-- A power of ten of so many places is beyond the limit. -/
theorem limit_lt_pow {places : Nat} (many : 342 ≤ places) : limit < 10 ^ places := by
  have below (bits : Nat) (few : 54 + bits ≤ 3 * places) : (2 ^ 54 - 1) * 2 ^ bits < 10 ^ places := by
    calc (2 ^ 54 - 1) * 2 ^ bits
        < 2 ^ 54 * 2 ^ bits := Nat.mul_lt_mul_of_pos_right (by decide) (Nat.pow_pos (by decide))
      _ = 2 ^ (54 + bits) := (Nat.pow_add 2 54 bits).symm
      _ ≤ 2 ^ (3 * places) := Nat.pow_le_pow_right (by decide) few
      _ = (2 ^ 3) ^ places := Nat.pow_mul 2 3 places
      _ ≤ 10 ^ places := Nat.pow_le_pow_left (by decide) places
  unfold limit
  exact below 970 (by omega)

/-- A double that is a whole number is less than the power of two above the greatest
double. -/
theorem natAbs_toInt?_lt {number : Double} {whole : Int} (found : number.toInt? = some whole) :
    whole.natAbs < 2 ^ (53 + 971) := by
  cases number with
  | nan => cases found
  | infinite negative => cases found
  | finite value =>
    simp only [toInt?, Option.ite_none_right_eq_some, Option.some.injEq] at found
    obtain ⟨_, rfl⟩ := found
    obtain ⟨bits, _, greatest, _⟩ := value.canonical
    have magnitude : value.truncate.natAbs = value.quotient.1 / value.quotient.2 := by
      simp only [FiniteDouble.truncate]
      split
      · exact (Int.natAbs_neg _).trans (Int.natAbs_natCast _)
      · exact Int.natAbs_natCast _
    have places : value.exponent.toNat ≤ 971 := by
      have most : value.exponent ≤ 971 := greatest
      omega
    have power := @Nat.pow_le_pow_right 2 (by decide) value.exponent.toNat 971 places
    rw [magnitude]
    calc value.quotient.1 / value.quotient.2
        ≤ value.significand * 2 ^ value.exponent.toNat := by
          simp only [FiniteDouble.quotient]
          split
          · exact Nat.div_le_self _ _
          · exact Nat.le_trans (Nat.div_le_self _ _)
              (Nat.le_mul_of_pos_right _ (Nat.pow_pos (by decide)))
      _ < 2 ^ 53 * 2 ^ value.exponent.toNat :=
          Nat.mul_lt_mul_of_pos_right bits (Nat.pow_pos (by decide))
      _ ≤ 2 ^ 53 * 2 ^ 971 := Nat.mul_le_mul_left _ power
      _ = 2 ^ (53 + 971) := (Nat.pow_add 2 53 971).symm

end Double

end ChunkCodecs
