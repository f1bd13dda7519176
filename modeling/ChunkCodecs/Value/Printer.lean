import ChunkCodecs.Number.Shortest
import ChunkCodecs.Text.Quoted
import ChunkCodecs.Value

/-!
# The text of a value

A value is shown as a literal that can be read back where its kind has literals:
texts and byte strings between quotes, lists in brackets, tuples in parentheses,
dictionaries and sets in braces. Plain texts, codec identifiers, fractions and
array elements have a second, plainer text that is used inside sentences.

A whole number of more than 4300 digits is refused a text.
-/

namespace ChunkCodecs.Value

/-- The decimal digits of a whole number, after a minus sign if it is negative. -/
def intChars (number : Int) : List Char :=
  let digits := Nat.toDigits 10 number.natAbs
  if number < 0 then '-' :: digits else digits

/-- The text of a double inside a complex number: a whole part stands alone. -/
def componentChars (number : Double) : List Char :=
  let characters := number.renderIn .binary64
  if [ '.', '0'].isSuffixOf characters then characters.take (characters.length - 2) else characters

/-- The text of a complex number; a real part of positive zero is left out. -/
def complexChars (real imaginary : Double) : List Char :=
  let tail := componentChars imaginary ++ ['j']
  if real = .zero false then tail
  else
    let signed := if tail.head? = some '-' then tail else '+' :: tail
    '(' :: (componentChars real ++ signed ++ [')'])

/-- The text of an array element without its type. -/
def elementChars : ArrayElement → List Char
  | .integer _ number => intChars number
  | .floating _ format number => number.renderIn format
  | .boolean truth => (if truth then "True" else "False").toList

/-- The literal of an array element, which names its type. -/
def elementLiteral : ArrayElement → List Char
  | .integer typeName number => "np.".toList ++ typeName.toList ++ '(' :: (intChars number ++ [')'])
  | .floating typeName format number =>
    "np.".toList ++ typeName.toList ++ '(' :: (number.renderIn format ++ [')'])
  | .boolean truth => (if truth then "np.True_" else "np.False_").toList

/-- Items one after another, a comma and a space between two. -/
def joinItems : List (List Char) → List Char
  | [] => []
  | [item] => item
  | item :: rest => item ++ ',' :: ' ' :: joinItems rest

mutual

/-- The literal of a value. -/
def literalChars : Value → List Char
  | none => "None".toList
  | bool truth => (if truth then "True" else "False").toList
  | int number => intChars number
  | float number => number.renderIn .binary64
  | text content => Text.quoteChars content.toList
  | bytes content => (Text.quotedBytes content).toList
  | codec scheme =>
    "<CodecId.".toList ++ (scheme.name.toList.map Char.toUpper) ++
      ':' :: ' ' :: (Text.quoteChars scheme.name.toList ++ ['>'])
  | element content => elementLiteral content
  | fraction numerator denominator =>
    "Fraction(".toList ++ intChars numerator ++ ',' :: ' ' :: (intChars denominator ++ [')'])
  | complex real imaginary => complexChars real imaginary
  | ellipsis => "Ellipsis".toList
  | list items => '[' :: (joinItems (literalsChars items) ++ [']'])
  | tuple items =>
    match literalsChars items with
    | [item] => '(' :: (item ++ [',', ')'])
    | several => '(' :: (joinItems several ++ [')'])
  | set items =>
    match literalsChars items with
    | [] => "set()".toList
    | several => '\x7b' :: (joinItems several ++ ['\x7d'])
  | dict entries => '\x7b' :: (joinItems (entriesChars entries) ++ ['\x7d'])

/-- The literals of several values. -/
def literalsChars : List Value → List (List Char)
  | [] => []
  | item :: rest => literalChars item :: literalsChars rest

/-- The literals of the entries of a dictionary. -/
def entriesChars : List (Value × Value) → List (List Char)
  | [] => []
  | (key, value) :: rest =>
    (literalChars key ++ ':' :: ' ' :: literalChars value) :: entriesChars rest

end

/-- The literal of a value. -/
def literal (value : Value) : String := String.ofList value.literalChars

/-- The text of a value inside a sentence. -/
def display : Value → String
  | text content => content
  | codec scheme => scheme.name
  | element content => String.ofList (elementChars content)
  | fraction numerator denominator =>
    if denominator = 1 then String.ofList (intChars numerator)
    else String.ofList (intChars numerator ++ '/' :: intChars denominator)
  | other => other.literal

/-- Whether a whole number may be shown: it has at most 4300 digits. -/
def intIsPrintable (number : Int) : Bool := number.natAbs < 10 ^ 4300

mutual

/-- Whether a value may be shown: so may every whole number inside it. -/
def isPrintable : Value → Bool
  | int number => intIsPrintable number
  | fraction numerator denominator => intIsPrintable numerator && intIsPrintable denominator
  | list items => arePrintable items
  | tuple items => arePrintable items
  | set items => arePrintable items
  | dict entries => entriesArePrintable entries
  | _ => true

/-- Whether several values may be shown. -/
def arePrintable : List Value → Bool
  | [] => true
  | item :: rest => isPrintable item && arePrintable rest

/-- Whether the entries of a dictionary may be shown. -/
def entriesArePrintable : List (Value × Value) → Bool
  | [] => true
  | (key, value) :: rest => isPrintable key && isPrintable value && entriesArePrintable rest

end

end ChunkCodecs.Value
