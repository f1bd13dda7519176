import ChunkCodecs.Text.CharacterCode

/-!
# Texts in documents

A text stands between double quotes. Inside, the quote and the backslash are
escaped, control characters have to be, and any character may be given by its code
in four hexadecimal digits; a character beyond the first plane takes two such codes,
a high surrogate and a low one. A surrogate that stands alone is no character and is
read as the replacement character.

Writing escapes every character outside ASCII, so that what is written does not
depend on an encoding. Reading takes the inside of a text up to its closing quote
and tells what is wrong, and how many characters are left where it is wrong.
-/

namespace ChunkCodecs.Document

open Text

/-- What is wrong with a document. -/
inductive Defect where
  /-- The document begins with a byte order mark. -/
  | byteOrderMark
  /-- There is no value where one has to be. -/
  | missingValue
  /-- There is no name where one has to be. -/
  | missingName
  /-- A name is not followed by a colon. -/
  | missingColon
  /-- An item is followed neither by a comma nor by the end of its list. -/
  | missingComma
  /-- A text is not closed. -/
  | unterminatedText
  /-- A text holds a control character. -/
  | controlCharacter
  /-- A backslash is followed by a character that it does not escape. -/
  | badEscape
  /-- The code of a character does not have four hexadecimal digits. -/
  | badCode
  /-- The value is followed by more than blanks. -/
  | furtherText
  deriving DecidableEq, Repr

/-- The wording of a defect. -/
def Defect.message : Defect → String
  | byteOrderMark => "Unexpected UTF-8 BOM (decode using utf-8-sig)"
  | missingValue => "Expecting value"
  | missingName => "Expecting property name enclosed in double quotes"
  | missingColon => "Expecting ':' delimiter"
  | missingComma => "Expecting ',' delimiter"
  | unterminatedText => "Unterminated string starting at"
  | controlCharacter => "Invalid control character at"
  | badEscape => "Invalid \\escape"
  | badCode => "Invalid \\uXXXX escape"
  | furtherText => "Extra data"

/-- Why a text is not read as a document. -/
inductive Failure where
  /-- The text does not follow the grammar; so many characters are left from the
  place on where it does not. -/
  | defective (defect : Defect) (left : Nat)
  /-- A whole number has too many digits. -/
  | longNumeral (digits : Nat)
  /-- Lists or dictionaries are nested too deeply. -/
  | deepNesting (inArray : Bool)
  deriving DecidableEq, Repr

/-- Whether a code is that of a high surrogate. -/
def isHighSurrogate (code : Nat) : Bool := 0xD800 ≤ code && code < 0xDC00

/-- Whether a code is that of a low surrogate. -/
def isLowSurrogate (code : Nat) : Bool := 0xDC00 ≤ code && code < 0xE000

/-- The characters of a list of codes: a high surrogate and a low one that follows
it are one character. -/
def joinCodes : List Nat → List Char
  | high :: low :: rest =>
    if isHighSurrogate high && isLowSurrogate low then
      charOfCode (0x10000 + (high - 0xD800) * 0x400 + (low - 0xDC00)) :: joinCodes rest
    else charOfCode high :: joinCodes (low :: rest)
  | [code] => [charOfCode code]
  | [] => []

/-- The character that a letter stands for after a backslash. -/
def escaped? : Char → Option Char
  | '"' => some '"'
  | '\\' => some '\\'
  | '/' => some '/'
  | 'b' => some '\x08'
  | 'f' => some '\x0c'
  | 'n' => some '\n'
  | 'r' => some '\r'
  | 't' => some '\t'
  | _ => none

/-- Put a code in front of those that were read. -/
def consCode (code : Nat) (outcome : Except Failure (List Nat × List Char)) :
    Except Failure (List Nat × List Char) :=
  outcome.map fun (codes, rest) => (code :: codes, rest)

/-- Read the inside of a text up to its closing quote: the codes of its characters,
and what follows the quote. The characters from the opening quote on are given for
the case that there is no closing one. -/
def readCodes (whole : List Char) : List Char → Except Failure (List Nat × List Char)
  | [] => .error (.defective .unterminatedText whole.length)
  | '"' :: rest => .ok ([], rest)
  | ['\\'] => .error (.defective .unterminatedText whole.length)
  | '\\' :: 'u' :: a :: b :: c :: d :: rest =>
    match hexNumber? [a, b, c, d], rest with
    | some code, _ :: _ => consCode code (readCodes whole rest)
    | _, _ => .error (.defective .badCode (rest.length + 5))
  | '\\' :: c :: rest =>
    if c = 'u' then .error (.defective .badCode (rest.length + 1))
    else match escaped? c with
      | some meant => consCode meant.toNat (readCodes whole rest)
      | none => .error (.defective .badEscape (rest.length + 2))
  | c :: rest =>
    if c.toNat < 0x20 then .error (.defective .controlCharacter (rest.length + 1))
    else consCode c.toNat (readCodes whole rest)

/-- Read a text after its opening quote, and what follows its closing one. -/
def readText (inside : List Char) : Except Failure (String × List Char) :=
  (readCodes ('"' :: inside) inside).map fun (codes, rest) => (String.ofList (joinCodes codes), rest)

/-- The spelling of one character in a text. -/
def escapeChar (c : Char) : List Char :=
  if c = '"' || c = '\\' then ['\\', c]
  else if c = '\n' then ['\\', 'n']
  else if c = '\r' then ['\\', 'r']
  else if c = '\t' then ['\\', 't']
  else if c = '\x0c' then ['\\', 'f']
  else if c = '\x08' then ['\\', 'b']
  else if 0x20 ≤ c.toNat && c.toNat < 0x7F then [c]
  else if c.toNat < 0x10000 then '\\' :: 'u' :: Text.hexDigits 4 c.toNat
  else
    let above := c.toNat - 0x10000
    '\\' :: 'u' :: (Text.hexDigits 4 (0xD800 + above / 0x400) ++
      '\\' :: 'u' :: Text.hexDigits 4 (0xDC00 + above % 0x400))

/-- A text between its quotes. -/
def textChars (content : List Char) : List Char :=
  '"' :: (content.flatMap escapeChar ++ ['"'])

/-- A surrogate is not the code of a character, so a character is never mistaken for
half of a pair. -/
theorem not_isHighSurrogate_toNat (c : Char) : isHighSurrogate c.toNat = false := by
  have valid : c.toNat < 0xD800 ∨ 0xDFFF < c.toNat ∧ c.toNat < 0x110000 := c.valid
  simp only [isHighSurrogate, Bool.and_eq_false_iff, decide_eq_false_iff_not]
  omega

/-- Codes of characters are joined into these characters, one by one. -/
theorem joinCodes_map_toNat (characters : List Char) :
    joinCodes (characters.map Char.toNat) = characters := by
  induction characters with
  | nil => rfl
  | cons c rest inductionHypothesis =>
    cases rest with
    | nil => simp [joinCodes, charOfCode_toNat]
    | cons d further =>
      simp only [List.map_cons] at inductionHypothesis ⊢
      simp [joinCodes, not_isHighSurrogate_toNat, charOfCode_toNat, inductionHypothesis]

end ChunkCodecs.Document
