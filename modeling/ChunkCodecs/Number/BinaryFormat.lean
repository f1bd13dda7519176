import ChunkCodecs.Bytes

/-!
# Binary floating-point formats and correct rounding

A finite magnitude of a binary format is a whole number of units, the
significand, times a power of two. The format bounds the number of bits of the
significand and the exponent of the unit from below and above. The
representation is canonical: the significand has all its bits unless the
exponent is the least one.

`roundQuotient` gives the magnitude nearest to a quotient of natural numbers,
a tie going to the even significand, and none if the format is exceeded. All
arithmetic is exact arithmetic of natural numbers.
-/

namespace ChunkCodecs

/-- The extent of a binary floating-point format. -/
structure BinaryFormat where
  /-- Bits of a full significand. -/
  precision : Nat
  /-- Exponent of the smallest unit. -/
  minExponent : Int
  /-- Exponent of the largest unit. -/
  maxExponent : Int
  deriving DecidableEq, Repr

namespace BinaryFormat

/-- Half precision, 16 bits wide. -/
def binary16 : BinaryFormat := ⟨11, -24, 5⟩

/-- Single precision, 32 bits wide. -/
def binary32 : BinaryFormat := ⟨24, -149, 104⟩

/-- Double precision, 64 bits wide. -/
def binary64 : BinaryFormat := ⟨53, -1074, 971⟩

/-- A magnitude `significand * 2 ^ exponent` in its one representation. -/
def IsCanonical (format : BinaryFormat) (significand : Nat) (exponent : Int) : Prop :=
  significand < 2 ^ format.precision ∧ format.minExponent ≤ exponent ∧
    exponent ≤ format.maxExponent ∧
    (exponent = format.minExponent ∨ 2 ^ (format.precision - 1) ≤ significand)

instance (format : BinaryFormat) (significand : Nat) (exponent : Int) :
    Decidable (format.IsCanonical significand exponent) :=
  inferInstanceAs (Decidable (_ ∧ _))

end BinaryFormat

/-- The whole number nearest to a quotient, of two the even one. -/
def roundHalfEven (numerator denominator : Nat) : Nat :=
  let quotient := numerator / denominator
  let twice := 2 * (numerator % denominator)
  if twice < denominator || (twice == denominator && quotient % 2 == 0) then quotient
  else quotient + 1

/-- The quotient of `numerator * 2 ^ -exponent` and `denominator`, as a pair. -/
def scaleDown (numerator denominator : Nat) (exponent : Int) : Nat × Nat :=
  if 0 ≤ exponent then (numerator, denominator * 2 ^ exponent.toNat)
  else (numerator * 2 ^ (-exponent).toNat, denominator)

namespace BinaryFormat

/-- The exponent of the unit in which a positive quotient is measured: the
least one at which its whole part has no more bits than a significand. -/
def unitExponent (format : BinaryFormat) (numerator denominator : Nat) : Int :=
  let estimate : Int := numerator.log2 - denominator.log2 - format.precision
  let scaled := scaleDown numerator denominator estimate
  let fitted := if scaled.1 / scaled.2 < 2 ^ format.precision then estimate else estimate + 1
  max fitted format.minExponent

/-- The magnitude nearest to a quotient, as significand and exponent. It is
none if it exceeds the format; the denominator is positive. -/
def roundQuotient (format : BinaryFormat) (numerator denominator : Nat) : Option (Nat × Int) :=
  if numerator = 0 then some (0, format.minExponent)
  else
    let exponent := format.unitExponent numerator denominator
    let scaled := scaleDown numerator denominator exponent
    let units := roundHalfEven scaled.1 scaled.2
    let carried := units = 2 ^ format.precision
    let result := if carried then (2 ^ (format.precision - 1), exponent + 1) else (units, exponent)
    if result.2 ≤ format.maxExponent then some result else none

end BinaryFormat

end ChunkCodecs
