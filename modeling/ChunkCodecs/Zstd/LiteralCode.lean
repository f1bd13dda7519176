import ChunkCodecs.Zstd.StateCode

/-!
# The prefix code of literals

Literals of a zstd block may be coded with a prefix code that gives each symbol a
weight; a symbol of weight w greater than zero has a code word that is one bit
longer than that of weight w + 1. The weights are described by four bits each, or
by a code of finite state with two interleaved rows of states. The weight of the
last symbol is not described: it is the one that makes the code complete.

Code words are looked up in a table over all patterns of the greatest length. The
symbols take their places in the table by ascending weight.
-/

namespace ChunkCodecs.Zstd

/-- A prefix code as a table of symbols and lengths over all bit patterns. -/
structure LiteralCode where
  /-- The greatest length of a code word. -/
  maxLength : Nat
  /-- The symbol and the length of the code word that a pattern begins with. -/
  entries : Array (UInt8 × Nat)
  deriving Inhabited

namespace LiteralCode

/-- The longest code word that is allowed. -/
def lengthLimit : Nat := 12

/-- The share of the table that a weight claims. -/
def share (weight : Nat) : Nat := if weight = 0 then 0 else 2 ^ (weight - 1)

/-- The code of described weights, to which the last one is added. -/
def ofWeights? (described : List Nat) : Option LiteralCode :=
  let total := described.foldl (fun total weight => total + share weight) 0
  let maxLength := total.log2 + 1
  let rest := 2 ^ maxLength - total
  if described.any (lengthLimit < ·) || total = 0 || lengthLimit < maxLength then none
  else if rest ≠ 2 ^ rest.log2 || 255 < described.length then none
  else
    let weights := described ++ [rest.log2 + 1]
    let shortest := weights.count 1
    if shortest < 2 || shortest % 2 = 1 then none
    else
      let ofWeight (weight : Nat) : List (UInt8 × Nat) :=
        (weights.zipIdx.filter (·.1 == weight)).flatMap fun entry =>
          List.replicate (share weight) (UInt8.ofNat entry.2, maxLength + 1 - weight)
      some ⟨maxLength, ((List.range' 1 maxLength).flatMap ofWeight).toArray⟩

/-- The weights that two rows of states give in turn, until the bits of one are
used up; then the other one gives its last weight. -/
def alternate (code : StateCode) :
    (fuel current other : Nat) → BackwardBits → List Nat → Option (List Nat)
  | 0, _, _, _, _ => none
  | fuel + 1, current, other, bits, weights =>
    let state := code.stateAt current
    let (low, rest) := bits.read state.width
    if rest.overdrawn then some ((code.stateAt other).symbol :: state.symbol :: weights).reverse
    else alternate code fuel other (state.base + low) rest (state.symbol :: weights)

/-- The weights that a part coded with finite states gives. -/
def readStates (bytes : Array UInt8) : Option (List Nat) := do
  let (code, taken) ← StateCode.read? bytes 6 256
  let bits ← BackwardBits.open? (bytes.extract taken bytes.size)
  let (first, afterFirst) := bits.read code.accuracy
  let (second, afterSecond) := afterFirst.read code.accuracy
  if afterSecond.overdrawn then none
  else alternate code 254 first second afterSecond []

/-- The weights of four bits each, the upper half of a byte first. -/
def readHalves (bytes : List UInt8) (count : Nat) : List Nat :=
  (bytes.flatMap fun byte => [byte.toNat / 16, byte.toNat % 16]).take count

/-- The code that a byte string describes at its start, with how many bytes the
description takes. -/
def read? (bytes : Array UInt8) : Option (LiteralCode × Nat) := do
  let lead ← bytes[0]?
  let coded := lead.toNat < 128
  let count := lead.toNat - 127
  let taken := 1 + if coded then lead.toNat else (count + 1) / 2
  if bytes.size < taken then none
  else
    let described := bytes.extract 1 taken
    let weights ← if coded then readStates described else some (readHalves described.toList count)
    let code ← ofWeights? weights
    return (code, taken)

/-- Decode a count of symbols. -/
def decodeSymbols (code : LiteralCode) :
    (count : Nat) → BackwardBits → Array UInt8 → Array UInt8 × BackwardBits
  | 0, bits, output => (output, bits)
  | count + 1, bits, output =>
    let (symbol, length) := code.entries.getD (bits.peek code.maxLength) (0, 0)
    decodeSymbols code count (bits.skip length) (output.push symbol)

/-- Decode one stream, which has to hold exactly a count of symbols. -/
def decodeStream (code : LiteralCode) (stream : Array UInt8) (count : Nat) (output : Array UInt8) :
    Option (Array UInt8) := do
  let bits ← BackwardBits.open? stream
  let (decoded, rest) := decodeSymbols code count bits output
  if rest.isExhausted then return decoded else none

/-- Decode four streams, which follow the sizes of the first three and hold a
quarter of the symbols each, the last one what is left. -/
def decodeFour (code : LiteralCode) (bytes : Array UInt8) (count : Nat) : Option (Array UInt8) :=
  let sizeAt (place : Nat) : Nat := littleEndianValue (bytes.extract place (place + 2)).toList
  let first := 6 + sizeAt 0
  let second := first + sizeAt 2
  let third := second + sizeAt 4
  let quarter := (count + 3) / 4
  if bytes.size < 10 || bytes.size < third || count < 6 || count < 3 * quarter then none
  else do
    let one ← code.decodeStream (bytes.extract 6 first) quarter #[]
    let two ← code.decodeStream (bytes.extract first second) quarter one
    let three ← code.decodeStream (bytes.extract second third) quarter two
    code.decodeStream (bytes.extract third bytes.size) (count - 3 * quarter) three

end LiteralCode

end ChunkCodecs.Zstd
