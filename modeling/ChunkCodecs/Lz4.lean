import ChunkCodecs.Matching

/-!
# LZ4 blocks

A block is a row of sequences. Each begins with a byte that gives the counts of
its literals and of its match in four bits each; a count of fifteen is extended by
further bytes, of which each 255 calls for another one. The literals follow, then
how far back the match begins, two bytes, and the extension of the match. The last
sequence ends after its literals.

A reader tells the last sequence by where it stands: the literals end too near to
the end of the block or of the content for another match. A match must leave
five bytes of the content to literals, except where a short sequence stands far
enough from both ends. A block is read for a content of known size.
-/

namespace ChunkCodecs.Lz4

open Matching

/-- The shortest match. -/
def minMatch : Nat := 4

/-- The bytes that extend a count, and where they end. After each of them at least
`reserve` bytes of the block must be left. -/
def readExtension (block : Array UInt8) (reserve : Nat) : (fuel place : Nat) → Option (Nat × Nat)
  | 0, _ => none
  | fuel + 1, place =>
    match block[place]? with
    | none => none
    | some byte =>
      if block.size < place + 1 + reserve then none
      else if byte = 255 then
        (readExtension block reserve fuel (place + 1)).map fun (more, next) => (255 + more, next)
      else some (byte.toNat, place + 1)

/-- A count of four bits with its extension, if it has one. -/
def readCount (block : Array UInt8) (reserve count place : Nat) : Option (Nat × Nat) :=
  if count < 15 then some (count, place)
  else (readExtension block reserve block.size place).map fun (more, next) => (15 + more, next)

/-- The count of literals of a sequence; its extension may not begin in the last
fifteen bytes of a block. -/
def readLiteralCount (block : Array UInt8) (count place : Nat) : Option (Nat × Nat) :=
  if count = 15 && block.size ≤ place + 15 then none else readCount block 15 count place

/-- The sequences of a block from a place on, with how much of the content they
have given and the steps found so far, the last one first. -/
def readSequences (block : Array UInt8) (size : Nat) :
    (fuel place given : Nat) → (found : List Step) → Option Plan
  | 0, _, _, _ => none
  | fuel + 1, place, given, found => do
    let token ← block[place]?
    let (literalCount, start) ← readLiteralCount block (token.toNat / 16) (place + 1)
    let stop := start + literalCount
    let reached := given + literalCount
    let literals := between block start stop
    let roomy := literalCount < 15 && start + 16 < block.size && given + 32 ≤ size
    if roomy || (reached + 12 ≤ size && stop + 8 ≤ block.size) then
      let low ← block[stop]?
      let high ← block[stop + 1]?
      let distance := littleEndianValue [low, high]
      let (matchCount, next) ← readCount block 4 (token.toNat % 16) (stop + 2)
      let length := matchCount + minMatch
      let relaxed := roomy && matchCount < 15 && 8 ≤ distance
      if reached < distance || (!relaxed && size < reached + length + 5) then none
      else readSequences block size fuel next (reached + length) (⟨literals, distance, length⟩ :: found)
    else if stop = block.size && reached ≤ size then some ⟨found.reverse, literals⟩
    else none

/-- The content of a block, if it is one of a content of the given size at most. -/
def decode (block : Bytes) (size : Nat) : Option Bytes :=
  let array := block.toArray
  (readSequences array size (array.size + 1) 0 0 []).map Plan.play

/-- The extension of a count. -/
def extension (excess : Nat) : Bytes :=
  List.replicate (excess / 255) 255 ++ [UInt8.ofNat (excess % 255)]

/-- The four bits of a count, and its extension. -/
def splitCount (count : Nat) : Nat × Bytes :=
  if count < 15 then (count, []) else (15, extension (count - 15))

/-- The bytes of a sequence with a match. -/
def writeStep (step : Step) : Bytes :=
  let (literalBits, literalMore) := splitCount step.literals.length
  let (matchBits, matchMore) := splitCount (step.length - minMatch)
  UInt8.ofNat (16 * literalBits + matchBits) ::
    (literalMore ++ step.literals ++ littleEndian 2 step.distance ++ matchMore)

/-- The bytes of the last sequence. -/
def writeTail (literals : Bytes) : Bytes :=
  let (literalBits, literalMore) := splitCount literals.length
  UInt8.ofNat (16 * literalBits) :: (literalMore ++ literals)

/-- The bytes of a plan. -/
def write (plan : Plan) : Bytes := plan.steps.flatMap writeStep ++ writeTail plan.tail

/-- What a match of a block can be. -/
def limits (size : Nat) : Limits := ⟨minMatch, size, 65535, 5, 12⟩

/-- A block of a content. -/
def encode (content : Bytes) : Bytes := write (plan (limits content.length) content)

end ChunkCodecs.Lz4
