/-!
# Blank characters

A text is trimmed of the white space of every script before it is read: the
control characters that separate lines, fields and records, and the spaces of
the Unicode standard. The zero-width space is not among them.
-/

namespace ChunkCodecs.Text

/-- White space: line and field separators, and the spaces of every script. -/
def isBlank (c : Char) : Bool :=
  let code := c.toNat
  (0x09 ≤ code && code ≤ 0x0D) || (0x1C ≤ code && code ≤ 0x20) || code == 0x85 || code == 0xA0 ||
    code == 0x1680 || (0x2000 ≤ code && code ≤ 0x200A) || code == 0x2028 || code == 0x2029 ||
    code == 0x202F || code == 0x205F || code == 0x3000

/-- The characters without the blanks that lead them and the blanks that trail them. -/
def trimChars (characters : List Char) : List Char :=
  ((characters.dropWhile isBlank).reverse.dropWhile isBlank).reverse

/-- The text without the blanks that lead it and the blanks that trail it. -/
def trim (text : String) : String := String.ofList (trimChars text.toList)

end ChunkCodecs.Text
