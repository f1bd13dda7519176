import ChunkCodecs.Number.Numeral
import ChunkCodecs.Text.CharacterCode
import ChunkCodecs.Value

/-!
# Numerals in literals

A numeral is a whole number in base two, eight, ten or sixteen, a decimal number with
a fraction or an exponent, or an imaginary number. Single underscores may stand
between digits, and after the letter that marks a base. A whole number in base ten
does not begin with a zero unless it is zero, and has at most 4300 digits; in the
other bases any number of digits is read. No letter or digit follows a numeral
immediately.
-/

namespace ChunkCodecs.Literal

/-- Whether a character is taken for a part of a word: letters, digits, the underscore,
and everything outside ASCII, whether or not it is a letter in some script. -/
def isWordChar (c : Char) : Bool := c.isAlphanum || c = '_' || 0x80 ≤ c.toNat

/-- The value of a digit of a base. -/
def digitIn? (base : Nat) (c : Char) : Option Nat :=
  (Text.hexValue? c).filter fun value => value < base

/-- The base that a letter marks after a zero. -/
def base? : Char → Option Nat
  | 'x' | 'X' => some 16
  | 'o' | 'O' => some 8
  | 'b' | 'B' => some 2
  | _ => none

/-- Characters without one leading underscore. -/
def dropUnderscore : List Char → List Char
  | '_' :: rest => rest
  | rest => rest

/-- The whole number that is written in a marked base, after the mark. -/
def readBased? (base : Nat) (characters : List Char) : Option (Value × List Char) :=
  match Numeral.takeDigitsOf (digitIn? base) (dropUnderscore characters) with
  | ([], _) => none
  | (digits, rest) => some (.int (Numeral.valueOf base digits), rest)

/-- The whole number of decimal digits, unless they begin with a zero in vain or are
too many. -/
def wholeNumber? (digits : List Nat) : Option Value :=
  if digits.all (· == 0) then some (.int 0)
  else if digits.head? = some 0 || Numeral.maxDigits < digits.length then none
  else some (.int (Numeral.valueOf 10 digits))

/-- A fraction: whether there is a point, the digits after it, and the rest. -/
def takeFraction : List Char → Bool × List Nat × List Char
  | '.' :: rest => (true, Numeral.takeDigitsOf (digitIn? 10) rest)
  | rest => (false, [], rest)

/-- An exponent: the letter, an optional sign and at least one digit, or nothing. -/
def takeExponent : List Char → Option Int × List Char
  | c :: rest =>
    if c = 'e' || c = 'E' then
      let (negative, unsigned) := Numeral.takeSign rest
      match Numeral.takeDigitsOf (digitIn? 10) unsigned with
      | ([], _) => (none, c :: rest)
      | (digits, remaining) =>
        let magnitude : Int := Numeral.valueOf 10 digits
        (some (if negative then -magnitude else magnitude), remaining)
    else (none, c :: rest)
  | [] => (none, [])

/-- The mark of an imaginary number. -/
def takeImaginary : List Char → Bool × List Char
  | 'j' :: rest => (true, rest)
  | 'J' :: rest => (true, rest)
  | rest => (false, rest)

/-- The decimal number that leads. -/
def readDecimal? (characters : List Char) : Option (Value × List Char) :=
  let (whole, afterWhole) := Numeral.takeDigitsOf (digitIn? 10) characters
  let (pointed, fraction, afterFraction) := takeFraction afterWhole
  let (exponent, afterExponent) := takeExponent afterFraction
  let (imaginary, rest) := takeImaginary afterExponent
  let number :=
    Numeral.ofDecimal false (whole ++ fraction) (exponent.getD 0 - fraction.length)
  if whole.isEmpty && fraction.isEmpty then none
  else if imaginary then some (.complex (.zero false) number, rest)
  else if pointed || exponent.isSome then some (.float number, rest)
  else (wholeNumber? whole).map fun value => (value, rest)

/-- The numeral that leads, before it is checked what follows. -/
def readLeading? : List Char → Option (Value × List Char)
  | '0' :: mark :: rest =>
    match base? mark with
    | some base => readBased? base rest
    | none => readDecimal? ('0' :: mark :: rest)
  | characters => readDecimal? characters

/-- The numeral that leads. -/
def readNumeral? (characters : List Char) : Option (Value × List Char) :=
  match readLeading? characters with
  | some (value, c :: rest) => if isWordChar c then none else some (value, c :: rest)
  | outcome => outcome

end ChunkCodecs.Literal
