import ChunkCodecs.Checksum
import ChunkCodecs.Deflate.Inflater
import ChunkCodecs.Matching

/-!
# Making deflate containers

A container is a header that tells the class of the level, blocks, and the
Adler-32 checksum of the content, most significant byte first. Level zero stores
the content in blocks of at most 65535 bytes, of which the last one is marked; an
empty content is one empty block. The other levels code the content in one block
with the fixed prefix codes, unless storing it is shorter.

A library that makes containers is fed piece by piece, and is free in what it gives
when. The standard one keeps what it is fed and gives the whole container at the end.
-/

namespace ChunkCodecs.Deflate

/-- The two header bytes of a level. -/
def headerOf (level : Nat) : Bytes :=
  if level ≤ 1 then [0x78, 0x01]
  else if level ≤ 5 then [0x78, 0x5E]
  else if level = 6 then [0x78, 0x9C]
  else [0x78, 0xDA]

/-- The largest stored block. -/
def maxStored : Nat := 65535

/-- One stored block: its mark, its length, the complement of the length, its bytes. -/
def storedBlock (last : Bool) (content : Bytes) : Bytes :=
  (if last then 1 else 0) ::
    (littleEndian 2 content.length ++ littleEndian 2 (65535 - content.length) ++ content)

/-- A content in stored blocks. -/
def storedBlocks (content : Bytes) : Bytes :=
  if content.length ≤ maxStored then storedBlock true content
  else storedBlock false (content.take maxStored) ++ storedBlocks (content.drop maxStored)
termination_by content.length
decreasing_by simp only [maxStored, List.length_drop] at *; omega

/-- Bits in the order in which they are sent: a value and its width, the least
significant bit first. -/
abbrev BitPiece := Nat × Nat

/-- The bits of a code word, which is sent from its most significant bit on. -/
def codeWordPiece (word : Nat) : (width : Nat) → BitPiece
  | 0 => (0, 0)
  | width + 1 =>
    let rest := codeWordPiece (word % 2 ^ width) width
    (word / 2 ^ width % 2 + 2 * rest.1, width + 1)

/-- The fixed code word of a literal, length or end-of-block symbol. -/
def fixedLiteral (symbol : Nat) : BitPiece :=
  if symbol < 144 then codeWordPiece (0x30 + symbol) 8
  else if symbol < 256 then codeWordPiece (0x190 + (symbol - 144)) 9
  else if symbol < 280 then codeWordPiece (symbol - 256) 7
  else codeWordPiece (0xC0 + (symbol - 280)) 8

/-- The symbol whose base is the greatest one that is no greater than a number,
with the number of extra bits and what is added to the base. -/
def classify (bases : List (Nat × Nat)) (number : Nat) : Nat × Nat × Nat :=
  (bases.zipIdx.foldl (fun best entry =>
    if entry.1.1 ≤ number then (entry.2, entry.1.2, number - entry.1.1) else best) (0, 0, 0))

/-- The bits of a match. -/
def matchPieces (length distance : Nat) : List BitPiece :=
  let (lengthSymbol, lengthWidth, lengthExtra) := classify Inflater.lengthBases length
  let (distanceSymbol, distanceWidth, distanceExtra) := classify Inflater.distanceBases distance
  [fixedLiteral (257 + lengthSymbol), (lengthExtra, lengthWidth), codeWordPiece distanceSymbol 5,
    (distanceExtra, distanceWidth)]

/-- The bits of a run of literals. -/
def literalPieces (run : Bytes) : List BitPiece := run.map fun byte => fixedLiteral byte.toNat

/-- Bits gathered into bytes: the bytes so far, and the bits of the next one. -/
structure BitSink where
  /-- The full bytes. -/
  bytes : Array UInt8
  /-- The value of the bits that wait. -/
  value : Nat
  /-- How many bits wait, fewer than eight after each piece. -/
  width : Nat

namespace BitSink

/-- Move full bytes out of the waiting bits. -/
def flush : (fuel : Nat) → BitSink → BitSink
  | 0, sink => sink
  | fuel + 1, sink =>
    if sink.width < 8 then sink
    else flush fuel ⟨sink.bytes.push (UInt8.ofNat sink.value), sink.value / 256, sink.width - 8⟩

/-- Add a piece. -/
def add (sink : BitSink) (piece : BitPiece) : BitSink :=
  flush (piece.2 + 1) ⟨sink.bytes, sink.value + piece.1 * 2 ^ sink.width, sink.width + piece.2⟩

/-- The bytes, the last one filled up with zero bits. -/
def close (sink : BitSink) : Bytes :=
  let closed := if sink.width = 0 then sink.bytes else sink.bytes.push (UInt8.ofNat sink.value)
  closed.toList

end BitSink

/-- What a match of a deflate block can be. -/
def matchLimits : Matching.Limits := ⟨4, 258, 32768, 0, 0⟩

/-- A content as one last block with the fixed codes. -/
def codedBlock (content : Bytes) : Bytes :=
  let plan := Matching.plan matchLimits content
  let opened : BitSink := BitSink.add ⟨#[], 0, 0⟩ (3, 3)
  let addAll (sink : BitSink) (pieces : List BitPiece) := pieces.foldl BitSink.add sink
  let stepped := plan.steps.foldl (fun sink step =>
    addAll (addAll sink (literalPieces step.literals)) (matchPieces step.length step.distance)) opened
  ((addAll stepped (literalPieces plan.tail)).add (fixedLiteral 256)).close

/-- The blocks of a content at a level. -/
def blocksOf (level : Nat) (content : Bytes) : Bytes :=
  let stored := storedBlocks content
  if level = 0 then stored
  else
    let coded := codedBlock content
    if coded.length < stored.length then coded else stored

/-- The container of a content at a level. -/
def container (level : Nat) (content : Bytes) : Bytes :=
  headerOf level ++ (blocksOf level content ++ bigEndian 4 (Checksum.adler32 content))

/-- A container in the making. -/
structure Deflater where
  /-- The level. -/
  level : Nat
  /-- The pieces that were fed, the last one first. -/
  pieces : List Bytes

/-- A library that makes containers piece by piece. What it gives depends on the level
and on all that it was fed. -/
class Library where
  /-- What can be written at once when a piece is fed. -/
  given : Deflater → Bytes → Bytes
  /-- What is left to write once everything was fed. -/
  left : Deflater → Bytes

/-- The library that gives the whole container at the end. -/
instance Library.standard : Library where
  given _ _ := []
  left deflater := container deflater.level deflater.pieces.reverse.flatten

namespace Deflater

/-- A deflater that was fed nothing. -/
def start (level : Nat) : Deflater := ⟨level, []⟩

/-- The deflater that was fed one more piece. -/
def feed (deflater : Deflater) (piece : Bytes) : Deflater :=
  ⟨deflater.level, piece :: deflater.pieces⟩

end Deflater

end ChunkCodecs.Deflate
