import ChunkCodecs.Bytes
import ChunkCodecs.CodecId
import ChunkCodecs.Number.Double

/-!
# Loosely typed values

Codec properties come from persisted metadata, from option texts and from
calling programs, so a property may hold a value of many kinds: what a JSON
document can hold, byte strings, tuples, sets and complex numbers, a codec
identifier, an element of a numeric array, or an exact fraction.

A dictionary lists its entries in the order in which their keys were first
inserted. Two values are the same key if they are equal as keys: numbers of all
kinds are compared by their exact value, and a codec identifier equals the text
that names it.
-/

namespace ChunkCodecs

/-- An element of a numeric array, outside its array. -/
inductive ArrayElement where
  /-- A whole number of a named fixed-width type. -/
  | integer (typeName : String) (number : Int)
  /-- A floating-point number of a named binary format. -/
  | floating (typeName : String) (format : BinaryFormat) (number : Double)
  /-- A truth value. -/
  | boolean (truth : Bool)
  deriving DecidableEq

/-- A value of any kind that a property may hold. -/
inductive Value where
  /-- The absent value. -/
  | none
  /-- A truth value. -/
  | bool (truth : Bool)
  /-- A whole number of any size. -/
  | int (number : Int)
  /-- A floating-point number. -/
  | float (number : Double)
  /-- A text. -/
  | text (content : String)
  /-- A byte string. -/
  | bytes (content : Bytes)
  /-- A codec identifier, which is also the text that names it. -/
  | codec (scheme : CodecId)
  /-- An element of a numeric array. -/
  | element (content : ArrayElement)
  /-- An exact fraction in lowest terms. -/
  | fraction (numerator : Int) (denominator : Nat)
  /-- A complex number. -/
  | complex (real imaginary : Double)
  /-- The ellipsis. -/
  | ellipsis
  /-- A list. -/
  | list (items : List Value)
  /-- A tuple. -/
  | tuple (items : List Value)
  /-- A set, in the order of insertion. -/
  | set (items : List Value)
  /-- A dictionary, in the order of insertion. -/
  | dict (entries : List (Value × Value))
  deriving Inhabited

namespace Value

/-- The number that a key stands for, by its exact value. -/
inductive KeyNumber where
  /-- A quotient with a positive denominator. -/
  | quotient (numerator : Int) (denominator : Nat)
  /-- An infinity. -/
  | infinite (negative : Bool)
  /-- Not a number, which is no other key. -/
  | nan

/-- The exact value of a double. -/
def KeyNumber.ofDouble : Double → KeyNumber
  | .nan => .nan
  | .infinite negative => .infinite negative
  | .finite value =>
    let magnitude := value.quotient
    .quotient (if value.negative then -magnitude.1 else magnitude.1) magnitude.2

/-- Equality of exact values. -/
def KeyNumber.equals : KeyNumber → KeyNumber → Bool
  | .quotient n d, .quotient m e => n * e == m * d
  | .infinite left, .infinite right => left == right
  | _, _ => false

/-- The number that a value is as a key, if it is a real number. -/
def keyNumber? : Value → Option KeyNumber
  | bool truth => some (.quotient truth.toInt 1)
  | int number => some (.quotient number 1)
  | float number => some (.ofDouble number)
  | element (.integer _ number) => some (.quotient number 1)
  | element (.floating _ _ number) => some (.ofDouble number)
  | element (.boolean truth) => some (.quotient truth.toInt 1)
  | fraction numerator denominator => some (.quotient numerator denominator)
  | complex real imaginary =>
    if imaginary.numericallyEqual (.zero false) then some (.ofDouble real) else Option.none
  | _ => Option.none

/-- The text that a value is, if it is one. -/
def text? : Value → Option String
  | text content => some content
  | codec scheme => some scheme.name
  | _ => Option.none

mutual

/-- Whether two values are the same key of a dictionary. -/
def sameKey : Value → Value → Bool
  | tuple left, tuple right => sameKeys left right
  | none, none => true
  | ellipsis, ellipsis => true
  | bytes left, bytes right => left == right
  | complex re im, complex re' im' => re.numericallyEqual re' && im.numericallyEqual im'
  | left, right =>
    match left.keyNumber?, right.keyNumber? with
    | some first, some second => first.equals second
    | _, _ =>
      match left.text?, right.text? with
      | some first, some second => first == second
      | _, _ => false

/-- Whether two lists of values are the same keys one by one. -/
def sameKeys : List Value → List Value → Bool
  | [], [] => true
  | left :: lefts, right :: rights => sameKey left right && sameKeys lefts rights
  | _, _ => false

end

mutual

/-- The first value inside, itself included, that no dictionary can have as key:
a list, a set or a dictionary. -/
def unhashable? : Value → Option Value
  | list items => some (list items)
  | set items => some (set items)
  | dict entries => some (dict entries)
  | tuple items => unhashableAmong? items
  | _ => Option.none

/-- The first value among several that no dictionary can have as key. -/
def unhashableAmong? : List Value → Option Value
  | [] => Option.none
  | item :: rest =>
    match unhashable? item with
    | some found => some found
    | Option.none => unhashableAmong? rest

end

/-- The name of the kind of a value, as messages give it. -/
def typeName : Value → String
  | none => "NoneType"
  | bool _ => "bool"
  | int _ => "int"
  | float _ => "float"
  | text _ => "str"
  | bytes _ => "bytes"
  | codec _ => "CodecId"
  | element (.integer typeName _) => typeName
  | element (.floating typeName _ _) => typeName
  | element (.boolean _) => "bool"
  | fraction _ _ => "Fraction"
  | complex _ _ => "complex"
  | ellipsis => "ellipsis"
  | list _ => "list"
  | tuple _ => "tuple"
  | set _ => "set"
  | dict _ => "dict"

/-- Whether a value counts as true where a truth value is wanted. -/
def isTruthy : Value → Bool
  | none => false
  | bool truth => truth
  | int number => number != 0
  | float number => !number.numericallyEqual (.zero false)
  | text content => content != ""
  | bytes content => content != []
  | codec _ => true
  | element (.integer _ number) => number != 0
  | element (.floating _ _ number) => !number.numericallyEqual (.zero false)
  | element (.boolean truth) => truth
  | fraction numerator _ => numerator != 0
  | complex real imaginary =>
    !(real.numericallyEqual (.zero false) && imaginary.numericallyEqual (.zero false))
  | ellipsis => true
  | list items => !items.isEmpty
  | tuple items => !items.isEmpty
  | set items => !items.isEmpty
  | dict entries => !entries.isEmpty

end Value

end ChunkCodecs
