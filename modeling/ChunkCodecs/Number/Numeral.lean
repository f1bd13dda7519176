import ChunkCodecs.Number.Double
import ChunkCodecs.Text.Digit

/-!
# Numerals

Whole numbers and floating-point numbers are read from trimmed text. Digits may
be of any script, and a single underscore may stand between two digits. A whole
number is a run of digits after an optional sign; at most 4300 digits are
accepted, leading zeros counted. A floating-point number has digits before or
after an optional point and an optional exponent, or is the word for an infinity
or for not a number in any case of letters. It is rounded correctly whatever its
length.
-/

namespace ChunkCodecs.Numeral

/-- The most digits that a whole number may be written with. -/
def maxDigits : Nat := 4300

/-- An optional sign: whether it is minus, and the rest. -/
def takeSign : List Char → Bool × List Char
  | '-' :: rest => (true, rest)
  | '+' :: rest => (false, rest)
  | rest => (false, rest)

/-- Continue a run of digits: after a digit another digit may follow, or an
underscore and then a digit. Which characters are digits, and their values, is given.
The values come in order, then the rest. -/
def takeMoreDigits (value? : Char → Option Nat) : List Char → List Nat × List Char
  | [] => ([], [])
  | '_' :: c :: rest =>
    match value? c with
    | some value =>
      let (values, remaining) := takeMoreDigits value? rest
      (value :: values, remaining)
    | none => ([], '_' :: c :: rest)
  | c :: rest =>
    match value? c with
    | some value =>
      let (values, remaining) := takeMoreDigits value? rest
      (value :: values, remaining)
    | none => ([], c :: rest)

/-- A run of digits: empty, or beginning with a digit. -/
def takeDigitsOf (value? : Char → Option Nat) : List Char → List Nat × List Char
  | [] => ([], [])
  | c :: rest =>
    match value? c with
    | some value =>
      let (values, remaining) := takeMoreDigits value? rest
      (value :: values, remaining)
    | none => ([], c :: rest)

/-- A run of decimal digits of any script. -/
def takeDigits : List Char → List Nat × List Char := takeDigitsOf Text.digitValue?

/-- The number that digits stand for in a base, most significant digit first. -/
def valueOf (base : Nat) (digits : List Nat) : Nat :=
  digits.foldl (fun number digit => number * base + digit) 0

/-- The whole number that a text is the numeral of. -/
def readInt? (characters : List Char) : Option Int :=
  let (negative, unsigned) := takeSign characters
  match takeDigits unsigned with
  | ([], _) => none
  | (digits, []) =>
    if digits.length ≤ maxDigits then
      let magnitude : Int := valueOf 10 digits
      some (if negative then -magnitude else magnitude)
    else none
  | _ => none

/-- The double nearest to `digits * 10 ^ exponent`. Beyond 400 decimal places to
either side the outcome is an infinity or zero, whatever the digits. -/
def ofDecimal (negative : Bool) (digits : List Nat) (exponent : Int) : Double :=
  let significant := digits.dropWhile (· == 0)
  let leading : Int := exponent + significant.length
  if significant = [] || leading < -400 then .zero negative
  else if 400 < leading then .infinite negative
  else
    let number := valueOf 10 significant
    if 0 ≤ exponent then .ofQuotient negative (number * 10 ^ exponent.toNat) 1
    else .ofQuotient negative number (10 ^ (-exponent).toNat)

/-- An optional exponent: the letter, an optional sign and digits. -/
def takeExponent (characters : List Char) : Option (Int × List Char) :=
  match characters with
  | c :: rest =>
    if c = 'e' || c = 'E' then
      let (negative, unsigned) := takeSign rest
      match takeDigits unsigned with
      | ([], _) => none
      | (digits, remaining) =>
        let magnitude : Int := valueOf 10 digits
        some (if negative then -magnitude else magnitude, remaining)
    else some (0, characters)
  | [] => some (0, [])

/-- An unsigned decimal number with optional fraction and exponent. -/
def readDecimal? (negative : Bool) (characters : List Char) : Option Double :=
  let (whole, afterWhole) := takeDigits characters
  let (fraction, afterFraction) := match afterWhole with
    | '.' :: rest => takeDigits rest
    | rest => ([], rest)
  if whole = [] && fraction = [] then none
  else match takeExponent afterFraction with
    | some (exponent, []) => some (ofDecimal negative (whole ++ fraction) (exponent - fraction.length))
    | _ => none

/-- The floating-point number that a text is the numeral of. -/
def readDouble? (characters : List Char) : Option Double :=
  let (negative, unsigned) := takeSign characters
  let word := String.ofList (unsigned.map Char.toLower)
  if word = "inf" || word = "infinity" then some (.infinite negative)
  else if word = "nan" then some .nan
  else readDecimal? negative unsigned

end ChunkCodecs.Numeral
