import ChunkCodecs.Blosc.Filter
import ChunkCodecs.Blosc.Format
import ChunkCodecs.Blosc.Header

/-!
# Taking blosc frames apart

After its header a frame holds the content as it is, or the places of its blocks
and the blocks in any order. All blocks but the last one have the size that the
header gives. A block is one part, or as many parts as an element has bytes; a part
is its size and its bytes, compressed unless they fill the part. At last the filter
of the block is undone.

A frame that cannot be taken apart is refused with a number that tells roughly why.
An empty content is refused as well, since there is nothing to give.
-/

namespace ChunkCodecs.Blosc

/-- The number that stands for a failure. -/
inductive Refusal where
  /-- There is no content. -/
  | empty
  /-- The frame is not sound. -/
  | unsound
  /-- The format of the parts is unknown. -/
  | unknownFormat
  /-- The version of that format is unknown. -/
  | unknownVersion
  deriving DecidableEq, Repr

/-- The number of a refusal. -/
def Refusal.code : Refusal → Int
  | empty => 0
  | unsound => -1
  | unknownFormat => -5
  | unknownVersion => -9

/-- The largest block. -/
def maxBlockSize : Nat := (2 ^ 31 - 1 - 255 * 4) / 3

/-- The most parts of a block. -/
def maxParts : Nat := 16

/-- The smallest part that a block is divided into. -/
def minPartSize : Nat := 128

namespace Header

/-- Whether blocks are never divided into parts. -/
def isUndivided (header : Header) : Bool := header.flags &&& 0x10 != 0

/-- The count of blocks. -/
def blockCount (header : Header) : Nat :=
  (header.contentSize.toNat + header.blockSize.toNat - 1) / header.blockSize.toNat

/-- The size of the block of a number. -/
def sizeOfBlock (header : Header) (number : Nat) : Nat :=
  min header.blockSize.toNat (header.contentSize.toNat - number * header.blockSize.toNat)

/-- The count of parts of a block of a size. A block that is smaller than the others is not
divided. -/
def partCount (header : Header) (size : Nat) : Nat :=
  let width := header.elementSize.toNat
  if !header.isUndivided && width ≤ maxParts && minPartSize ≤ size / width &&
      size = header.blockSize.toNat then width
  else 1

/-- Undo the filter of a block. -/
def unfilter (header : Header) (block : Array UInt8) : Array UInt8 :=
  let width := header.elementSize.toNat
  if header.flags &&& 1 ≠ 0 && 1 < width then unshuffleBytes width block
  else if header.flags &&& 4 ≠ 0 && width ≤ block.size then unshuffleBits width block
  else block

end Header

/-- A 32-bit number of a frame, which counts as absent if it is negative. -/
def wordAt (frame : Array UInt8) (place : Nat) : Option Nat :=
  let word := littleEndianValue (frame.extract place (place + 4)).toList
  if word < 2 ^ 31 then some word else none

/-- The parts of a block from a place on, each of a size. -/
def readParts (format : Format) (frame : Array UInt8) (size : Nat) :
    (count place : Nat) → Option Bytes
  | 0, _ => some []
  | count + 1, place =>
    if frame.size < place + 4 then none
    else do
      let stored ← wordAt frame place
      let stop := place + 4 + stored
      if frame.size < stop then none
      else
        let bytes := (frame.extract (place + 4) stop).toList
        let part ← if stored = size then some bytes else format.decode bytes size
        let others ← readParts format frame size count stop
        return part ++ others

/-- The block of a number. -/
def readBlock (header : Header) (format : Format) (frame : Array UInt8) (number : Nat) :
    Option Bytes := do
  let size := header.sizeOfBlock number
  let place ← wordAt frame (headerSize + 4 * number)
  let parts := header.partCount size
  let joined ← readParts format frame (size / parts) parts place
  let filled := joined ++ List.replicate (size - joined.length) 0
  return (header.unfilter filled.toArray).toList

/-- The content of a frame. -/
def unpack (frame : Bytes) : Except Refusal Bytes :=
  match Header.parse? frame with
  | none => .error .unsound
  | some header =>
    let size := header.contentSize.toNat
    let block := header.blockSize.toNat
    if size = 0 then .error .empty
    else if block = 0 || size < block || maxBlockSize < block || header.elementSize = 0 then
      .error .unsound
    else if header.version ≠ 2 || header.flags &&& 0x08 ≠ 0 then .error .unsound
    else if header.isStored then
      if size + headerSize = header.frameSize.toNat then .ok (slice frame headerSize size)
      else .error .unsound
    else match Format.ofCode? header.formatCode with
      | none => .error .unknownFormat
      | some format =>
        if header.compressorVersion ≠ 1 then .error .unknownVersion
        else if (header.frameSize.toNat - headerSize) / 4 < header.blockCount then .error .unsound
        else
          match (List.range header.blockCount).mapM (readBlock header format frame.toArray) with
          | some blocks => .ok blocks.flatten
          | none => .error .unsound

end ChunkCodecs.Blosc
