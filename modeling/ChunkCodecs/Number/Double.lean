import ChunkCodecs.Number.BinaryFormat

/-!
# Double-precision numbers

A number of the 64-bit binary format is held in the open: not a number, an
infinity, or a sign with a canonical significand and exponent. Two finite
numbers are the same value exactly if they are the same representation, the
two zeros apart. Conversions to and from whole numbers and quotients round
correctly; the operations needed besides are negation and comparison with zero.
-/

namespace ChunkCodecs

/-- A finite double: `(-1) ^ negative * significand * 2 ^ exponent`. -/
structure FiniteDouble where
  /-- Whether the sign is minus, which zero has too. -/
  negative : Bool
  /-- The magnitude in units. -/
  significand : Nat
  /-- The exponent of the unit. -/
  exponent : Int
  /-- The representation is the one of its magnitude. -/
  canonical : BinaryFormat.binary64.IsCanonical significand exponent := by decide
  deriving DecidableEq

namespace FiniteDouble

/-- The magnitude as a numerator and a power of two below it. -/
def quotient (value : FiniteDouble) : Nat × Nat :=
  if 0 ≤ value.exponent then (value.significand * 2 ^ value.exponent.toNat, 1)
  else (value.significand, 2 ^ (-value.exponent).toNat)

/-- Whether the number is whole. -/
def isWhole (value : FiniteDouble) : Bool := value.quotient.1 % value.quotient.2 == 0

/-- The whole part of the number, towards zero; the number itself if it is whole. -/
def truncate (value : FiniteDouble) : Int :=
  let magnitude : Int := (value.quotient.1 / value.quotient.2 : Nat)
  if value.negative then -magnitude else magnitude

/-- Whether the number equals a quotient of an integer and a positive number. -/
def equalsQuotient (value : FiniteDouble) (numerator : Int) (denominator : Nat) : Bool :=
  let signed : Int := if value.negative then -value.quotient.1 else value.quotient.1
  signed * denominator == numerator * value.quotient.2

end FiniteDouble

/-- A double-precision number. -/
inductive Double where
  /-- Not a number. -/
  | nan
  /-- An infinity of the given sign. -/
  | infinite (negative : Bool)
  /-- A finite number. -/
  | finite (value : FiniteDouble)
  deriving DecidableEq

namespace Double

/-- The double with the given canonical parts; what is beyond the format is infinite. -/
def ofParts (negative : Bool) (significand : Nat) (exponent : Int) : Double :=
  if canonical : BinaryFormat.binary64.IsCanonical significand exponent then
    .finite ⟨negative, significand, exponent, canonical⟩
  else .infinite negative

/-- The double nearest to a signed quotient; infinite beyond the format. -/
def ofQuotient (negative : Bool) (numerator denominator : Nat) : Double :=
  match BinaryFormat.binary64.roundQuotient numerator denominator with
  | some (significand, exponent) => ofParts negative significand exponent
  | none => .infinite negative

/-- The double nearest to a whole number; infinite beyond the format. -/
def ofInt (number : Int) : Double := ofQuotient (number < 0) number.natAbs 1

/-- Zero with the given sign. -/
def zero (negative : Bool) : Double := .finite ⟨negative, 0, -1074, by decide⟩

/-- Minus one, which stands for an unset quality. -/
def minusOne : Double := .finite ⟨true, 2 ^ 52, -52, by decide⟩

instance : Inhabited Double := ⟨zero false⟩

/-- The number with the opposite sign. -/
def negate : Double → Double
  | .nan => .nan
  | .infinite negative => .infinite !negative
  | .finite value => .finite { value with negative := !value.negative }

/-- Whether the number is finite. -/
def isFinite : Double → Bool
  | .finite _ => true
  | _ => false

/-- Whether the number is less than zero, which minus zero is not. -/
def isNegative : Double → Bool
  | .nan => false
  | .infinite negative => negative
  | .finite value => value.negative && value.significand != 0

/-- Whether the number is greater than zero. -/
def isPositive : Double → Bool
  | .nan => false
  | .infinite negative => !negative
  | .finite value => !value.negative && value.significand != 0

/-- Whether the number is zero or greater. -/
def isNonnegative : Double → Bool
  | .nan => false
  | number => !number.isNegative

/-- Equality of numbers: no number equals what is not a number, and the two
zeros are equal. -/
def numericallyEqual : Double → Double → Bool
  | .infinite left, .infinite right => left == right
  | .finite left, .finite right =>
    left.significand == right.significand && left.exponent == right.exponent &&
      (left.negative == right.negative || left.significand == 0)
  | _, _ => false

/-- The whole number that a double is, if it is one. -/
def toInt? : Double → Option Int
  | .finite value => if value.isWhole then some value.truncate else none
  | _ => none

/-- The sum of two doubles of which one is zero: the other one, except that
zeros of unlike sign make a positive zero. -/
def addZero (left right : Double) : Double :=
  match left, right with
  | .finite first, .finite second =>
    if first.significand = 0 && second.significand = 0 then
      zero (first.negative && second.negative)
    else if first.significand = 0 then right
    else left
  | .finite _, other => other
  | other, _ => other

end Double

end ChunkCodecs
