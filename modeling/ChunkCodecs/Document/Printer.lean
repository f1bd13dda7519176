import ChunkCodecs.Document.Text
import ChunkCodecs.Value.Printer

/-!
# Writing documents

A value is written as a JSON document, on one line or with one item a line and two
spaces of indentation for each level. Doubles are written with the fewest digits that
read back, and with the words for infinities and for not a number. A codec identifier
is written as the text that names it, and a tuple as a list; kinds of values that
documents do not have are written as absent.
-/

namespace ChunkCodecs.Document

/-- How a document is laid out. -/
inductive Layout where
  /-- All on one line. -/
  | flat
  /-- One item a line, at the given level of indentation. -/
  | indented (level : Nat)
  deriving DecidableEq, Repr

namespace Layout

/-- The layout of what is inside brackets. -/
def deeper : Layout → Layout
  | flat => flat
  | indented level => indented (level + 1)

/-- What stands in front of an item. -/
def lead : Layout → List Char
  | flat => []
  | indented level => '\n' :: List.replicate (2 * level) ' '

/-- What stands between two items. -/
def between : Layout → List Char
  | flat => [',', ' ']
  | indented level => ',' :: lead (indented level)

end Layout

/-- The text of a double in a document. -/
def doubleChars : Double → List Char
  | .nan => "NaN".toList
  | .infinite negative => (if negative then "-Infinity" else "Infinity").toList
  | .finite value => Double.renderIn .binary64 (.finite value)

/-- The text that is the name of a value under a key. -/
def nameChars (key : Value) : List Char :=
  textChars (match key.text? with
    | some name => name.toList
    | none => key.literalChars)

/-- Items between brackets, laid out inside; nothing is laid out between brackets
that hold no item. -/
def bracket (layout : Layout) (opening closing : Char) (items : List (List Char)) : List Char :=
  match items with
  | [] => [opening, closing]
  | _ =>
    opening :: (layout.deeper.lead ++ layout.deeper.between.intercalate items ++ layout.lead ++
      [closing])

mutual

/-- The document of a value. -/
def chars (layout : Layout) : Value → List Char
  | .bool truth => (if truth then "true" else "false").toList
  | .int number => Value.intChars number
  | .float number => doubleChars number
  | .text content => textChars content.toList
  | .codec scheme => textChars scheme.name.toList
  | .list items => bracket layout '[' ']' (itemsChars layout.deeper items)
  | .tuple items => bracket layout '[' ']' (itemsChars layout.deeper items)
  | .dict entries => bracket layout '\x7b' '\x7d' (membersChars layout.deeper entries)
  | _ => "null".toList

/-- The documents of several values. -/
def itemsChars (layout : Layout) : List Value → List (List Char)
  | [] => []
  | item :: rest => chars layout item :: itemsChars layout rest

/-- The names and documents of the entries of a dictionary. -/
def membersChars (layout : Layout) : List (Value × Value) → List (List Char)
  | [] => []
  | (key, value) :: rest =>
    (nameChars key ++ ':' :: ' ' :: chars layout value) :: membersChars layout rest

end

/-- The document of a value on one line. -/
def write (value : Value) : String := String.ofList (chars .flat value)

/-- The document of a value with one item a line. -/
def writeIndented (value : Value) : String := String.ofList (chars (.indented 0) value)

end ChunkCodecs.Document
