import ChunkCodecs.Number.Double

/-!
# The shortest decimal text of a double

The reals that round to a double form an interval around it, whose ends belong
to it exactly if the significand is even. The text of a double uses the fewest
decimal digits that name a real of this interval; of the numbers with that many
digits it uses the one nearest to the double, and of two equally near ones the
one with the even last digit. All comparisons are exact, between quotients over
one common denominator.

How the digits are written is one record: which magnitudes are written without
an exponent, and in how many digits an exponent is written at least.
-/

namespace ChunkCodecs

/-- Digits `digits * 10 ^ exponent` of a positive decimal number. -/
structure DecimalDigits where
  /-- The digits, read as a whole number. -/
  digits : Nat
  /-- The place of the last digit. -/
  exponent : Int
  deriving DecidableEq, Repr

namespace Shortest

/-- The count of decimal digits of a number; zero has one. -/
def digitCount (number : Nat) : Nat := (Nat.toDigits 10 number).length

/-- A quotient over a power of ten, as a quotient. -/
def perPowerOfTen (numerator denominator : Nat) (exponent : Int) : Nat × Nat :=
  if 0 ≤ exponent then (numerator, denominator * 10 ^ exponent.toNat)
  else (numerator * 10 ^ (-exponent).toNat, denominator)

/-- The place of the leading digit of a positive quotient: the greatest power
of ten that is no greater than it. -/
def leadingPlace (numerator denominator : Nat) : Int :=
  let estimate : Int := (digitCount numerator : Int) - digitCount denominator
  let scaled := perPowerOfTen numerator denominator estimate
  if scaled.2 ≤ scaled.1 then estimate else estimate - 1

/-- The reals that round to a magnitude: a lower end, the magnitude and an
upper end over one denominator, and whether the ends belong to them. -/
structure Interval where
  /-- Four times the magnitude, less the distance to the lower end. -/
  lower : Nat
  /-- Four times the magnitude. -/
  middle : Nat
  /-- Four times the magnitude, and the distance to the upper end. -/
  upper : Nat
  /-- The common denominator. -/
  denominator : Nat
  /-- Whether both ends round to the magnitude as well. -/
  closed : Bool

/-- The reals that round to `significand * 2 ^ exponent` in the format. Below a
full significand the neighbours are twice as dense. -/
def roundingInterval (format : BinaryFormat) (significand : Nat) (exponent : Int) : Interval :=
  let unit := if 0 ≤ exponent then 2 ^ exponent.toNat else 1
  let denominator := if 0 ≤ exponent then 4 else 4 * 2 ^ (-exponent).toNat
  let narrow := significand = 2 ^ (format.precision - 1) && format.minExponent < exponent
  let below := if narrow then unit else 2 * unit
  ⟨4 * significand * unit - below, 4 * significand * unit, 4 * significand * unit + 2 * unit,
    denominator, significand % 2 == 0⟩

/-- Whether `digits * 10 ^ place` lies in the interval. -/
def Interval.contains (interval : Interval) (digits : Nat) (place : Int) : Bool :=
  let point := if 0 ≤ place then digits * 10 ^ place.toNat * interval.denominator
    else digits * interval.denominator
  let scale := if 0 ≤ place then 1 else 10 ^ (-place).toNat
  if interval.closed then interval.lower * scale ≤ point && point ≤ interval.upper * scale
  else interval.lower * scale < point && point < interval.upper * scale

/-- Of the two neighbours of the magnitude on the grid of a place, the nearest
one that lies in the interval, if one does. -/
def onGrid (interval : Interval) (place : Int) : Option Nat :=
  let scaled := perPowerOfTen interval.middle interval.denominator place
  let low := scaled.1 / scaled.2
  let nearest := roundHalfEven scaled.1 scaled.2
  let other := if nearest = low then low + 1 else low
  if interval.contains nearest place then some nearest
  else if interval.contains other place then some other
  else none

/-- The first count of digits, from `count` on, with a number in the interval. -/
def search (interval : Interval) (leading : Int) : (remaining count : Nat) → DecimalDigits
  | 0, count =>
    let place := leading - count + 1
    let scaled := perPowerOfTen interval.middle interval.denominator place
    ⟨roundHalfEven scaled.1 scaled.2, place⟩
  | remaining + 1, count =>
    let place := leading - count + 1
    match onGrid interval place with
    | some digits => ⟨digits, place⟩
    | none => search interval leading remaining (count + 1)

/-- The shortest digits of a positive magnitude. Seventeen digits always suffice
for a double, and fewer for the narrower formats. -/
def digits (format : BinaryFormat) (significand : Nat) (exponent : Int) : DecimalDigits :=
  let interval := roundingInterval format significand exponent
  search interval (leadingPlace interval.middle interval.denominator) 16 1

/-- The digits without trailing zeros, the place moved accordingly. -/
def trimZeros : (fuel : Nat) → DecimalDigits → DecimalDigits
  | 0, decimal => decimal
  | fuel + 1, decimal =>
    if decimal.digits ≠ 0 && decimal.digits % 10 = 0 then
      trimZeros fuel ⟨decimal.digits / 10, decimal.exponent + 1⟩
    else decimal

end Shortest

/-- How decimal digits are laid out. -/
structure DecimalLayout where
  /-- The least power of ten of a leading digit that is written without an exponent. -/
  leastPlain : Int
  /-- The first power of ten of a leading digit that is written with an exponent. -/
  firstScientific : Int
  /-- The least count of digits of an exponent. -/
  exponentDigits : Nat

/-- Numbers from 0.0001 up to below 10 ^ 16 are written plainly and always with
a fractional digit; an exponent has a sign and at least two digits. -/
def plainLayout : DecimalLayout := ⟨-4, 16, 2⟩

namespace DecimalLayout

/-- A positive decimal number in the layout. -/
def render (layout : DecimalLayout) (decimal : DecimalDigits) : List Char :=
  let characters := Nat.toDigits 10 decimal.digits
  let count := characters.length
  let leading := decimal.exponent + count - 1
  if layout.leastPlain ≤ leading && leading < layout.firstScientific then
    if 0 ≤ decimal.exponent then
      characters ++ List.replicate decimal.exponent.toNat '0' ++ ['.', '0']
    else if 0 ≤ leading then
      characters.take (leading.toNat + 1) ++ '.' :: characters.drop (leading.toNat + 1)
    else '0' :: '.' :: (List.replicate (-leading - 1).toNat '0' ++ characters)
  else
    let fraction := if count = 1 then [] else '.' :: characters.drop 1
    let sign := if leading < 0 then '-' else '+'
    let power := Nat.toDigits 10 leading.natAbs
    characters.take 1 ++ fraction ++
      'e' :: sign :: (List.replicate (layout.exponentDigits - power.length) '0' ++ power)

end DecimalLayout

namespace Double

/-- The shortest text that names the double among the numbers of a format. -/
def renderIn (format : BinaryFormat) : Double → List Char
  | .nan => ['n', 'a', 'n']
  | .infinite negative => if negative then ['-', 'i', 'n', 'f'] else ['i', 'n', 'f']
  | .finite value =>
    let sign := if value.negative then ['-'] else []
    if value.significand = 0 then sign ++ ['0', '.', '0']
    else
      let magnitude := value.quotient
      match format.roundQuotient magnitude.1 magnitude.2 with
      | some (significand, exponent) =>
        let decimal := Shortest.digits format significand exponent
        sign ++ plainLayout.render (Shortest.trimZeros 17 decimal)
      | none => sign ++ ['i', 'n', 'f']

/-- The shortest text that reads back as the double. -/
def render (number : Double) : String := String.ofList (number.renderIn .binary64)

end Double

end ChunkCodecs
