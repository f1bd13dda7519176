/-!
# Lower case for comparison with ASCII words

Identifiers and the words for true and false are compared without regard to
case. Those words consist of ASCII characters, so only letters whose lower case
contains an ASCII letter matter: the ASCII capitals, the Kelvin sign, and the
dotted capital I, which becomes an i followed by a combining dot. All other
characters stay as they are.
-/

namespace ChunkCodecs.Text

/-- The lower case of one character, as far as it contains an ASCII letter. -/
def lowerChar (c : Char) : List Char :=
  if c.toNat = 0x212A then ['k']
  else if c.toNat = 0x130 then ['i', Char.ofNat 0x307]
  else [c.toLower]

/-- The text with its letters in lower case. -/
def lower (text : String) : String := String.ofList (text.toList.flatMap lowerChar)

end ChunkCodecs.Text
