import ChunkCodecs.Document.Text
import ChunkCodecs.Number.Numeral
import ChunkCodecs.Properties

/-!
# Reading documents

A document is one JSON value between blanks. Beside the standard forms, the words
for not a number and for the infinities are values; a name that occurs twice in a
dictionary keeps its first place and takes its last value. A numeral without
fraction and exponent is a whole number of at most 4300 digits; any other numeral is
rounded to the nearest double.

Lists and dictionaries may be nested 990 deep. The depth that is left is what the
reading of values recurses on; the items of one list are read one after another
while characters are left.
-/

namespace ChunkCodecs.Document

/-- What a reader of some kind of thing makes of characters: the thing at their front
and what follows it. -/
abbrev Outcome (α : Type) := Except Failure (α × List Char)

/-- Whether a character may stand between the parts of a document. -/
def isBlank (c : Char) : Bool := c = ' ' || c = '\t' || c = '\n' || c = '\r'

/-- The characters without the blanks that lead them. -/
def skipBlanks (characters : List Char) : List Char := characters.dropWhile isBlank

/-- The digits that lead, by their values, and the rest. -/
def takeDigits (characters : List Char) : List Nat × List Char :=
  ((characters.takeWhile Char.isDigit).map fun c => c.toNat - 48, characters.dropWhile Char.isDigit)

/-- The whole part of a numeral: a zero alone, or digits that begin with another. -/
def takeWhole : List Char → List Nat × List Char
  | '0' :: rest => ([0], rest)
  | characters => takeDigits characters

/-- The fraction of a numeral: a point and at least one digit, or nothing. -/
def takeFraction : List Char → List Nat × List Char
  | '.' :: rest =>
    match takeDigits rest with
    | ([], _) => ([], '.' :: rest)
    | found => found
  | characters => ([], characters)

/-- The exponent of a numeral: the letter, an optional sign and at least one digit,
or nothing. -/
def takeExponent : List Char → Option Int × List Char
  | c :: rest =>
    if c = 'e' || c = 'E' then
      let (negative, unsigned) := Numeral.takeSign rest
      match takeDigits unsigned with
      | ([], _) => (none, c :: rest)
      | (digits, remaining) =>
        let magnitude : Int := Numeral.valueOf 10 digits
        (some (if negative then -magnitude else magnitude), remaining)
    else (none, c :: rest)
  | [] => (none, [])

/-- An optional minus sign, and the rest. -/
def takeMinus : List Char → Bool × List Char
  | '-' :: rest => (true, rest)
  | rest => (false, rest)

/-- Read a numeral. -/
def readNumber (characters : List Char) : Outcome Value :=
  let (negative, unsigned) := takeMinus characters
  let (whole, afterWhole) := takeWhole unsigned
  let (fraction, afterFraction) := takeFraction afterWhole
  let (exponent, rest) := takeExponent afterFraction
  if whole.isEmpty then .error (.defective .missingValue characters.length)
  else if fraction.isEmpty && exponent.isNone then
    if whole.length ≤ Numeral.maxDigits then
      let magnitude : Int := Numeral.valueOf 10 whole
      .ok (.int (if negative then -magnitude else magnitude), rest)
    else .error (.longNumeral whole.length)
  else
    let number :=
      Numeral.ofDecimal negative (whole ++ fraction) (exponent.getD 0 - fraction.length)
    .ok (.float number, rest)

/-- The words that are values. -/
def words : List (List Char × Value) :=
  [("null".toList, .none), ("true".toList, .bool true), ("false".toList, .bool false),
    ("NaN".toList, .float .nan), ("Infinity".toList, .float (.infinite false)),
    ("-Infinity".toList, .float (.infinite true))]

/-- The value of the word that leads, and the rest. -/
def readWord? (characters : List Char) : Option (Value × List Char) :=
  words.findSome? fun (word, value) =>
    if word.isPrefixOf characters then some (value, characters.drop word.length) else none

/-- Read items between commas up to the closing bracket, at most as many as given. As
every item takes a character, one more than there are characters is enough. -/
def readItems (readItem : List Char → Outcome Value) :
    (most : Nat) → List Char → Outcome (List Value)
  | 0, characters => .error (.defective .missingComma characters.length)
  | most + 1, characters =>
    match readItem characters with
    | .error failure => .error failure
    | .ok (item, after) =>
      match skipBlanks after with
      | ']' :: rest => .ok ([item], rest)
      | ',' :: rest =>
        (readItems readItem most (skipBlanks rest)).map fun (items, remaining) =>
          (item :: items, remaining)
      | other => .error (.defective .missingComma other.length)

/-- Read a list after its opening bracket. -/
def readList (readItem : List Char → Outcome Value) (inside : List Char) : Outcome Value :=
  match skipBlanks inside with
  | ']' :: rest => .ok (.list [], rest)
  | first =>
    (readItems readItem (first.length + 1) first).map fun (items, rest) => (.list items, rest)

/-- Read a name and the colon after it. -/
def readName : List Char → Outcome String
  | '"' :: inside =>
    match readText inside with
    | .error failure => .error failure
    | .ok (name, after) =>
      match skipBlanks after with
      | ':' :: rest => .ok (name, skipBlanks rest)
      | other => .error (.defective .missingColon other.length)
  | other => .error (.defective .missingName other.length)

/-- Read names and values between commas up to the closing brace, at most as many as
given. -/
def readMembers (readItem : List Char → Outcome Value) :
    (most : Nat) → List Char → Outcome (List (Value × Value))
  | 0, characters => .error (.defective .missingComma characters.length)
  | most + 1, characters =>
    match readName characters with
    | .error failure => .error failure
    | .ok (name, afterName) =>
      match readItem afterName with
      | .error failure => .error failure
      | .ok (value, afterValue) =>
        match skipBlanks afterValue with
        | '\x7d' :: rest => .ok ([(.text name, value)], rest)
        | ',' :: rest =>
          (readMembers readItem most (skipBlanks rest)).map fun (members, remaining) =>
            ((.text name, value) :: members, remaining)
        | other => .error (.defective .missingComma other.length)

/-- Read a dictionary after its opening brace. -/
def readDictionary (readItem : List Char → Outcome Value) (inside : List Char) : Outcome Value :=
  match skipBlanks inside with
  | '\x7d' :: rest => .ok (.dict [], rest)
  | first =>
    (readMembers readItem (first.length + 1) first).map fun (members, rest) =>
      (.dict (Properties.ofEntries members), rest)

/-- Read a value inside which lists and dictionaries may be nested so deep. -/
def readValue : (room : Nat) → List Char → Outcome Value
  | _, '"' :: inside => (readText inside).map fun (content, rest) => (.text content, rest)
  | 0, '[' :: _ => .error (.deepNesting true)
  | room + 1, '[' :: inside => readList (readValue room) inside
  | 0, '\x7b' :: _ => .error (.deepNesting false)
  | room + 1, '\x7b' :: inside => readDictionary (readValue room) inside
  | _, characters =>
    match readWord? characters with
    | some found => .ok found
    | none => readNumber characters

/-- How deep lists and dictionaries may be nested. -/
def maxDepth : Nat := 990

/-- The value of a document. -/
def readChars (characters : List Char) : Except Failure Value :=
  if characters.head? = some '\uFEFF' then .error (.defective .byteOrderMark characters.length)
  else
    match readValue maxDepth (skipBlanks characters) with
    | .error failure => .error failure
    | .ok (value, after) =>
      match skipBlanks after with
      | [] => .ok value
      | further => .error (.defective .furtherText further.length)

/-- The value of a document. -/
def read (text : String) : Except Failure Value := readChars text.toList

/-- The wording of a defect with its place in the text: the line and the column, both
counted from one, and the number of characters before it. -/
def Defect.messageAt (defect : Defect) (characters : List Char) (left : Nat) : String :=
  let offset := characters.length - left
  let before := characters.take offset
  let line := before.count '\n' + 1
  let column := (before.reverse.takeWhile (· != '\n')).length + 1
  defect.message ++ s!": line {line} column {column} (char {offset})"

/-- The fault that a failure to read the text amounts to. -/
def Failure.toFault (failure : Failure) (text : String) : Fault :=
  .foreign <| match failure with
    | .defective defect left => .documentSyntax (defect.messageAt text.toList left)
    | .longNumeral digits => .longNumeral digits
    | .deepNesting inArray => .deepNesting inArray

end ChunkCodecs.Document
