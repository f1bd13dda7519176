import ChunkCodecs.Text.CharacterCode
import ChunkCodecs.Text.CharacterName
import ChunkCodecs.Value

/-!
# Texts in literals

A text stands between single or double quotes, or between three of them; only then it
may run over several lines. Letters in front of it mark a byte string, or a text in
which backslashes mean themselves. Otherwise a backslash begins an escape: of a quote
or a backslash, of a line end, of a control character, or of a character by its octal
or hexadecimal code or by its name. A backslash before any other character means
itself. A byte string holds ASCII characters, and its escapes are those of single
bytes.
-/

namespace ChunkCodecs.Literal

open Text

/-- What the letters in front of a text say. -/
structure Marks where
  /-- Whether backslashes mean themselves. -/
  raw : Bool
  /-- Whether it is a byte string. -/
  binary : Bool
  deriving DecidableEq, Repr

/-- What the letters in front of a text say, in any case of letters. -/
def marks? (letters : List Char) : Option Marks :=
  match letters.map Char.toLower with
  | [] => some ⟨false, false⟩
  | ['u'] => some ⟨false, false⟩
  | ['r'] => some ⟨true, false⟩
  | ['b'] => some ⟨false, true⟩
  | ['b', 'r'] => some ⟨true, true⟩
  | ['r', 'b'] => some ⟨true, true⟩
  | _ => none

/-- The characters up to the closing quotes, and what follows these. A backslash takes
the next character with it; a line ends a text between single quotes. -/
def takeInside (closing : List Char) : List Char → Option (List Char × List Char)
  | [] => none
  | '\\' :: c :: rest =>
    (takeInside closing rest).map fun (inside, remaining) => ('\\' :: c :: inside, remaining)
  | c :: rest =>
    if closing.isPrefixOf (c :: rest) then some ([], (c :: rest).drop closing.length)
    else if c = '\n' && closing.length = 1 then none
    else (takeInside closing rest).map fun (inside, remaining) => (c :: inside, remaining)

/-- The inside of a text and what follows it, from the opening quotes on. -/
def takeQuoted (characters : List Char) : Option (List Char × List Char) :=
  match characters with
  | quote :: rest =>
    if [quote, quote].isPrefixOf rest then takeInside [quote, quote, quote] (rest.drop 2)
    else takeInside [quote] rest
  | [] => none

/-- Replace escapes by what they mean. Given what follows a backslash, `meaning?` says
what the escape means and how many characters it takes; characters that were taken
are skipped. -/
def unescape (meaning? : List Char → Option (List Char × Nat)) :
    (skip : Nat) → List Char → Option (List Char)
  | _, [] => some []
  | skip + 1, _ :: rest => unescape meaning? skip rest
  | 0, c :: rest =>
    if c = '\\' then
      match meaning? rest with
      | some (meant, taken) => (unescape meaning? taken rest).map (meant ++ ·)
      | none => none
    else (unescape meaning? 0 rest).map (c :: ·)

/-- The character that a letter stands for after a backslash. -/
def letterMeaning? : Char → Option Char
  | '\\' => some '\\'
  | '\'' => some '\''
  | '"' => some '"'
  | 'a' => some '\x07'
  | 'b' => some '\x08'
  | 'f' => some '\x0c'
  | 'n' => some '\n'
  | 'r' => some '\r'
  | 't' => some '\t'
  | 'v' => some '\x0b'
  | _ => none

/-- Whether a character is an octal digit. -/
def isOctalDigit (c : Char) : Bool := '0' ≤ c && c ≤ '7'

/-- The number that octal digits stand for. -/
def octalNumber (digits : List Char) : Nat :=
  digits.foldl (fun number c => number * 8 + (c.toNat - 48)) 0

/-- The meaning of a code of a fixed number of hexadecimal digits after its mark. -/
def codeMeaning? (width : Nat) (rest : List Char) : Option (List Char × Nat) :=
  if rest.length < width then none
  else
    match hexNumber? (rest.take width) with
    | some code => if code < 0x110000 then some ([charOfCode code], width + 1) else none
    | none => none

/-- The meaning of a name between braces after its mark. -/
def nameMeaning? : List Char → Option (List Char × Nat)
  | '\x7b' :: rest =>
    let name := rest.takeWhile (· != '\x7d')
    if name.length = rest.length then none
    else (codeNamed? name).map fun code => ([charOfCode code], name.length + 3)
  | _ => none

/-- The meanings that escapes have both in texts and in byte strings. -/
def plainMeaning? : List Char → Option (List Char × Nat)
  | [] => none
  | '\n' :: _ => some ([], 1)
  | c :: rest =>
    match letterMeaning? c with
    | some meant => some ([meant], 1)
    | none =>
      let digits := ((c :: rest).take 3).takeWhile isOctalDigit
      if digits.isEmpty then some (['\\', c], 1)
      else some ([charOfCode (octalNumber digits)], digits.length)

/-- The meaning of an escape in a text. -/
def textMeaning? : List Char → Option (List Char × Nat)
  | 'x' :: rest => codeMeaning? 2 rest
  | 'u' :: rest => codeMeaning? 4 rest
  | 'U' :: rest => codeMeaning? 8 rest
  | 'N' :: rest => nameMeaning? rest
  | other => plainMeaning? other

/-- The meaning of an escape in a byte string. -/
def byteMeaning? : List Char → Option (List Char × Nat)
  | 'x' :: rest => codeMeaning? 2 rest
  | other => plainMeaning? other

/-- The text or the byte string with the given marks and inside. -/
def contentOf? (marks : Marks) (inside : List Char) : Option Value :=
  if marks.binary then
    if inside.all fun c => c.toNat < 0x80 then
      let characters := if marks.raw then some inside else unescape byteMeaning? 0 inside
      characters.map fun meant => .bytes (meant.map fun c => UInt8.ofNat c.toNat)
    else none
  else
    let characters := if marks.raw then some inside else unescape textMeaning? 0 inside
    characters.map fun meant => .text (String.ofList meant)

/-- The text or the byte string that leads, and the rest. -/
def readQuoted? (characters : List Char) : Option (Value × List Char) :=
  let letters := characters.takeWhile Char.isAlpha
  match marks? letters, takeQuoted (characters.drop letters.length) with
  | some marks, some (inside, rest) => (contentOf? marks inside).map fun value => (value, rest)
  | _, _ => none

/-- Whether a text or a byte string leads: a quote, after letters or at once. -/
def isQuotedNext (characters : List Char) : Bool :=
  match characters.dropWhile Char.isAlpha with
  | c :: _ => c = '\'' || c = '"'
  | [] => false

/-- A text or a byte string continued by another one of its kind. -/
def join? : Value → Value → Option Value
  | .text left, .text right => some (.text (left ++ right))
  | .bytes left, .bytes right => some (.bytes (left ++ right))
  | _, _ => none

end ChunkCodecs.Literal
