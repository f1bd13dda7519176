import ChunkCodecs.Journal
import ChunkCodecs.Number.Numeral
import ChunkCodecs.Properties
import ChunkCodecs.Text.Blank
import ChunkCodecs.Text.Lower

/-!
# Reading parameters

Each reader looks a parameter up in properties and accepts a small set of kinds:
the kind itself, and texts that spell it. A parameter that is missing or bound to
the absent value has its default, which the caller puts in. Everything else is
refused with a configuration fault that names the parameter.

A number is a whole number if it has no fractional part. A text is read as a
numeral of a whole number first, and as a floating-point numeral if that fails.
-/

namespace ChunkCodecs.Parameter

/-- What a reader makes of a present value. -/
abbrev Reading (α : Type) := Except Fault α

/-- Apply a reader to the value of a parameter; a missing one is none. -/
def readOptional {α : Type} (read : ParameterName → Value → Reading α) (properties : Properties)
    (parameter : ParameterName) : Reading (Option α) :=
  match properties.given? parameter.key with
  | none => .ok none
  | some value => (read parameter value).map some

/-- Refuse a value for a reason. -/
def refuse {α : Type} (cause : ConfigurationFault) : Reading α := .error (Fault.refuse cause)

/-- The double nearest to a whole number, if there is one. -/
def doubleOfInt (number : Int) : Except ForeignFault Double :=
  match Double.ofInt number with
  | .infinite _ => .error .integerTooLarge
  | rounded => .ok rounded

/-- The double nearest to a fraction, if there is one. -/
def doubleOfFraction (numerator : Int) (denominator : Nat) : Except ForeignFault Double :=
  match Double.ofQuotient (numerator < 0) numerator.natAbs denominator with
  | .infinite _ => .error .fractionTooLarge
  | rounded => .ok rounded

/-- Read a text as a whole number: as its numeral, else as the numeral of a
floating-point number that is whole. -/
def intOfText? (text : String) : Option Int :=
  let characters := Text.trimChars text.toList
  match Numeral.readInt? characters with
  | some number => some number
  | none =>
    match Numeral.readDouble? characters with
    | some number => number.toInt?
    | none => none

/-- Read a whole number. -/
def readInt (parameter : ParameterName) (value : Value) : Reading Int :=
  match value with
  | .bool _ => refuse (.truthForInteger parameter value)
  | .int number => .ok number
  | .element (.integer _ number) => .ok number
  | .float number | .element (.floating _ _ number) =>
    match number.toInt? with
    | some whole => .ok whole
    | none => refuse (.notWhole parameter value)
  | .fraction numerator denominator =>
    match doubleOfFraction numerator denominator with
    | .error cause => .error (.foreign cause)
    | .ok rounded =>
      match rounded.toInt? with
      | some _ => .ok (Int.tdiv numerator denominator)
      | none => refuse (.notWhole parameter value)
  | .text _ | .codec _ =>
    match value.text?.bind intOfText? with
    | some number => .ok number
    | none => refuse (.notIntegerNumeral parameter value)
  | _ => refuse (.notInteger parameter value)

/-- Read a floating-point number. -/
def readDouble (parameter : ParameterName) (value : Value) : Reading Double :=
  match value with
  | .bool _ => refuse (.truthForNumber parameter value)
  | .int number | .element (.integer _ number) =>
    (doubleOfInt number).mapError .foreign
  | .float number | .element (.floating _ _ number) => .ok number
  | .fraction numerator denominator => (doubleOfFraction numerator denominator).mapError .foreign
  | .text _ | .codec _ =>
    match value.text?.bind fun text => Numeral.readDouble? (Text.trimChars text.toList) with
    | some number => .ok number
    | none => refuse (.notNumeral parameter value)
  | _ => refuse (.notNumber parameter value)

/-- The words for true. -/
def wordsForTrue : List String := ["true", "yes", "on", "1"]

/-- The words for false. -/
def wordsForFalse : List String := ["false", "no", "off", "0"]

/-- Read a text as a truth value, blanks and case disregarded. -/
def truthOfText? (text : String) : Option Bool :=
  let word := Text.lower (Text.trim text)
  if wordsForTrue.contains word then some true
  else if wordsForFalse.contains word then some false
  else none

/-- Read a whole number as a truth value: zero or one. -/
def truthOfInt? (number : Int) : Option Bool :=
  if number = 0 then some false else if number = 1 then some true else none

/-- Read a truth value. -/
def readBool (parameter : ParameterName) (value : Value) : Reading Bool :=
  let found : Option Bool := match value with
    | .bool truth => some truth
    | .int number | .element (.integer _ number) => truthOfInt? number
    | .text _ | .codec _ => value.text?.bind truthOfText?
    | _ => none
  match found with
  | some truth => .ok truth
  | none => refuse (.notTruth parameter value)

/-- A text as a parameter holds it: a plain text, or a codec identifier, which is
the text that names it. -/
inductive Label where
  /-- A plain text. -/
  | plain (content : String)
  /-- A codec identifier. -/
  | codec (scheme : CodecId)
  deriving DecidableEq

/-- The text of a label. -/
def Label.content : Label → String
  | .plain content => content
  | .codec scheme => scheme.name

/-- The value that a label is. -/
def Label.toValue : Label → Value
  | .plain content => .text content
  | .codec scheme => .codec scheme

/-- Read a text. A byte string is taken as ASCII. -/
def readText (parameter : ParameterName) (value : Value) : Reading Label :=
  match value with
  | .text content => .ok (.plain content)
  | .codec scheme => .ok (.codec scheme)
  | .bytes content =>
    if content.all fun byte => byte.toNat < 128 then
      .ok (.plain (String.ofList (content.map fun byte => Char.ofNat byte.toNat)))
    else refuse (.notAscii parameter value)
  | _ => refuse (.notText parameter value)

/-- A compression level: from 0, no compression, to 9, the best. -/
abbrev CompressionLevel := Fin 10

/-- The compression level of a number, if it is in range. -/
def compressionLevel? (number : Int) : Option CompressionLevel :=
  if inRange : 0 ≤ number ∧ number ≤ 9 then some ⟨number.toNat, by omega⟩ else none

/-- The keys that a codec does not know, as they are shown, in the order of their
code points. The identifier is known to every codec. -/
def unknownKeys (properties : Properties) (known : List String) : List String :=
  let unused := properties.keys.filter fun key =>
    !(("id" :: known).any fun name => key.sameKey (.text name))
  (unused.map Value.display).mergeSort fun left right => decide (left ≤ right)

/-- Report the parameters that a codec does not know, if there are any. -/
def warnUnknown (properties : Properties) (known : List String) (codec : String) : Journal :=
  match unknownKeys properties known with
  | [] => []
  | names =>
    [⟨.warning, .parameters,
      codec ++ ": ignoring unknown parameter(s): " ++ ", ".intercalate names⟩]

end ChunkCodecs.Parameter
