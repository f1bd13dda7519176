import ChunkCodecs.Bytes
import ChunkCodecs.Text.CharacterCode
import ChunkCodecs.Text.Printable

/-!
# Quoted texts and byte strings

A text is shown between quotes so that it can be read back: between single
quotes, unless it holds a single quote and no double quote. The quote that is
used, and the backslash, are escaped; a character that is not printable is
shown by its code point in two, four or eight hexadecimal digits, whichever
suffices. A byte string is quoted alike after the letter `b`, and every byte
outside the printable range of ASCII takes two hexadecimal digits.
-/

namespace ChunkCodecs.Text

/-- The quote put around a text: a single one if that saves an escape. -/
def chooseQuote (hasSingle hasDouble : Bool) : Char :=
  if hasSingle && !hasDouble then '"' else '\''

/-- The spelling of one character inside the given quotes. -/
def quoteChar (quote c : Char) : List Char :=
  if c = quote || c = '\\' then ['\\', c]
  else if c = '\n' then ['\\', 'n']
  else if c = '\r' then ['\\', 'r']
  else if c = '\t' then ['\\', 't']
  else if isPrintable c then [c]
  else if c.toNat < 0x100 then '\\' :: 'x' :: hexDigits 2 c.toNat
  else if c.toNat < 0x10000 then '\\' :: 'u' :: hexDigits 4 c.toNat
  else '\\' :: 'U' :: hexDigits 8 c.toNat

/-- The text between quotes, every character in its spelling. -/
def quoteChars (characters : List Char) : List Char :=
  let quote := chooseQuote (characters.contains '\'') (characters.contains '"')
  quote :: (characters.flatMap (quoteChar quote) ++ [quote])

/-- The text between quotes. -/
def quoted (text : String) : String := String.ofList (quoteChars text.toList)

/-- The spelling of one byte inside the given quotes. -/
def quoteByte (quote : Char) (byte : UInt8) : List Char :=
  let c := Char.ofNat byte.toNat
  if c = quote || c = '\\' then ['\\', c]
  else if c = '\n' then ['\\', 'n']
  else if c = '\r' then ['\\', 'r']
  else if c = '\t' then ['\\', 't']
  else if 0x20 ≤ byte.toNat && byte.toNat < 0x7F then [c]
  else '\\' :: 'x' :: hexDigits 2 byte.toNat

/-- The byte string between quotes, after the letter that marks byte strings. -/
def quotedBytes (bytes : Bytes) : String :=
  let quote := chooseQuote (bytes.contains 0x27) (bytes.contains 0x22)
  String.ofList ('b' :: quote :: (bytes.flatMap (quoteByte quote) ++ [quote]))

end ChunkCodecs.Text
