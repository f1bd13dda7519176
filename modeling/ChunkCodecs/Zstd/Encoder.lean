import ChunkCodecs.Deflate.Deflater
import ChunkCodecs.Zstd.Frame

/-!
# Making zstd frames

A content becomes one frame that tells its size and has one block for each
131072 bytes. A block is stored, or compressed if that is shorter: its literals
are stored, and its sequences are coded with the codes that need no description.

The decoder reads the sequences from the end of their bits, so the bits are
collected in the order in which they will be read and written in reverse. A state
is chosen after the one that follows it.
-/

namespace ChunkCodecs.Zstd

open Deflate (BitPiece BitSink)
open Matching

/-- The symbol of a number, with its extra bits. -/
def classify (kind : SymbolKind) (number : Nat) : Nat × BitPiece :=
  let (symbol, base, width) := kind.meanings.zipIdx.foldl (fun best ((base, width), symbol) =>
    if base ≤ number then (symbol, base, width) else best) (0, 0, 0)
  (symbol, number - base, width)

/-- The symbols and extra bits of a step: count of literals, offset and length. A
distance is always written out. -/
structure CodedStep where
  /-- The symbol of the count of literals. -/
  count : Nat
  /-- The symbol of the offset. -/
  offset : Nat
  /-- The symbol of the length. -/
  length : Nat
  /-- The extra bits, in the order in which they are read. -/
  extra : List BitPiece

/-- The symbols and extra bits of a step. -/
def codeStep (step : Step) : CodedStep :=
  let (count, countExtra) := classify literalCounts step.literals.length
  let (offset, offsetExtra) := classify offsets (step.distance + 3)
  let (length, lengthExtra) := classify matchLengths step.length
  ⟨count, offset, length, [offsetExtra, lengthExtra, countExtra]⟩

/-- The states that start a row of steps, and its bits in the order in which they
are read. The last step starts in any state of its symbols. -/
def codeSteps : List CodedStep → Option (SequenceStates × List BitPiece)
  | [] => none
  | [last] => do
    let count ← literalCounts.predefined.anyState? last.count
    let offset ← offsets.predefined.anyState? last.offset
    let length ← matchLengths.predefined.anyState? last.length
    return (⟨count, offset, length⟩, last.extra)
  | step :: rest => do
    let (following, bits) ← codeSteps rest
    let (count, countBits) ← literalCounts.predefined.precede? step.count following.count
    let (offset, offsetBits) ← offsets.predefined.precede? step.offset following.offset
    let (length, lengthBits) ← matchLengths.predefined.precede? step.length following.length
    return (⟨count, offset, length⟩, step.extra ++ countBits :: lengthBits :: offsetBits :: bits)

/-- Bits in the order in which they are read, as bytes that are read backwards. -/
def writeBackwards (pieces : List BitPiece) : Bytes :=
  ((pieces.reverse.foldl BitSink.add ⟨#[], 0, 0⟩).add (1, 1)).close

/-- The header of stored literals. -/
def literalsHeader (count : Nat) : Bytes := littleEndian 3 (16 * count + 12)

/-- The count of sequences. -/
def sequenceCount (count : Nat) : Bytes :=
  if count < 128 then [UInt8.ofNat count]
  else if count < 0x7F00 then [UInt8.ofNat (128 + count / 256), UInt8.ofNat count]
  else 255 :: littleEndian 2 (count - 0x7F00)

/-- A content as the inside of a compressed block, if it has matches. -/
def compressBlock? (content : Bytes) : Option Bytes := do
  let limits : Limits := ⟨4, 65538, maxBlockSize, 0, 0⟩
  let found := plan limits content
  let (states, bits) ← codeSteps (found.steps.map codeStep)
  let literals := found.steps.flatMap Step.literals ++ found.tail
  let opening : List BitPiece := [(states.count, literalCounts.predefined.accuracy),
    (states.offset, offsets.predefined.accuracy), (states.length, matchLengths.predefined.accuracy)]
  return literalsHeader literals.length ++ literals ++ sequenceCount found.steps.length ++
    (0 :: writeBackwards (opening ++ bits))

/-- A block with its header. -/
def writeBlock (last : Bool) (content : Bytes) : Bytes :=
  let header (kind size : Nat) : Bytes := littleEndian 3 (8 * size + 2 * kind + last.toNat)
  let stored := header 0 content.length ++ content
  match compressBlock? content with
  | none => stored
  | some inside =>
    if inside.length < content.length then header 2 inside.length ++ inside else stored

/-- The blocks of a content. -/
def writeBlocks (content : Bytes) : Bytes :=
  if content.length ≤ maxBlockSize then writeBlock true content
  else writeBlock false (content.take maxBlockSize) ++ writeBlocks (content.drop maxBlockSize)
termination_by content.length
decreasing_by simp only [maxBlockSize, List.length_drop] at *; omega

/-- The frame of a content. -/
def encode (content : Bytes) : Bytes :=
  littleEndian 4 magic ++ (0xA0 :: (littleEndian 4 content.length ++ writeBlocks content))

end ChunkCodecs.Zstd
