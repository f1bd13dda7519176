import ChunkCodecs.Checksum
import ChunkCodecs.Zstd.Block

/-!
# Zstd frames

A frame begins with a magic number and a header that may tell the size of the
content; blocks follow, each stored, one byte repeated, or compressed, and a
checksum may follow the last one. Frames stand one after another, and frames that
carry no content may stand between them.

The content of all frames together is bounded from the start, so that a few bytes
cannot ask for more than the reader expects.
-/

namespace ChunkCodecs.Zstd

/-- What the header of a frame tells. -/
structure FrameHeader where
  /-- The size of the content, if it is told. -/
  contentSize : Option Nat
  /-- Whether a checksum follows the last block. -/
  checked : Bool
  /-- Where the first block begins. -/
  stop : Nat

/-- The header of the frame whose magic number ends at a place. A frame that needs
a dictionary is refused. -/
def readHeader (bytes : Array UInt8) (place : Nat) : Option FrameHeader := do
  let flags := (← bytes[place]?).toNat
  let single := flags / 32 % 2 = 1
  let windowSize := if single then 0 else 1
  let window := (bytes.getD (place + 1) 0).toNat
  let dictionarySize := [0, 1, 2, 4].getD (flags % 4) 0
  let dictionaryPlace := place + 1 + windowSize
  let sizePlace := dictionaryPlace + dictionarySize
  let sizeWidth := [if single then 1 else 0, 2, 4, 8].getD (flags / 64) 0
  let stop := sizePlace + sizeWidth
  let declared := numberAt bytes sizePlace sizeWidth + (if flags / 64 = 1 then 256 else 0)
  if bytes.size < stop || flags / 8 % 2 = 1 then none
  else if numberAt bytes dictionaryPlace dictionarySize ≠ 0 then none
  else if !single && 21 < window / 8 then none
  else
    return ⟨if sizeWidth = 0 then none else some declared, flags / 4 % 2 = 1, stop⟩

/-- The content of the blocks from a place on, after what the frame has given so
far, and where the last block ends. -/
def readBlocks (bytes : Array UInt8) (limit : Nat) :
    (fuel place : Nat) → Memory → Array UInt8 → Option (Array UInt8 × Nat)
  | 0, _, _, _ => none
  | fuel + 1, place, memory, output => do
    let header := numberAt bytes place 3
    let start := place + 3
    let kind := header / 2 % 4
    let size := header / 8
    let stop := start + if kind = 1 then 1 else size
    if bytes.size < stop then none
    else
      let (given, next) ← match kind with
        | 0 => some (output ++ bytes.extract start stop, memory)
        | 1 =>
          if limit < output.size + size then none
          else some (output ++ Array.replicate size (bytes.getD start 0), memory)
        | 2 =>
          if maxBlockSize < size then none else decodeBlock (bytes.extract start stop) memory output
        | _ => none
      if limit < given.size then none
      else if header % 2 = 1 then return (given, stop)
      else readBlocks bytes limit fuel stop next given

/-- The content of the frame whose magic number ends at a place, and where the
frame ends. -/
def readFrame (bytes : Array UInt8) (limit place : Nat) : Option (Array UInt8 × Nat) := do
  let header ← readHeader bytes place
  let (content, stop) ← readBlocks bytes limit (bytes.size + 1) header.stop .start #[]
  let finish := stop + if header.checked then 4 else 0
  if bytes.size < finish then none
  else if (header.contentSize.getD content.size) ≠ content.size then none
  else if header.checked &&
      numberAt bytes stop 4 ≠ (Checksum.xxHash64 content.toList).toNat % 2 ^ 32 then none
  else return (content, finish)

/-- The number that a frame begins with. -/
def magic : Nat := 0xFD2FB528

/-- The content of all frames from a place on, after a content. -/
def readFrames (bytes : Array UInt8) (limit : Nat) :
    (fuel place : Nat) → Array UInt8 → Option (Array UInt8)
  | 0, _, _ => none
  | fuel + 1, place, output => do
    if place = bytes.size then return output
    else if bytes.size < place + 5 then none
    else
      let lead := numberAt bytes place 4
      if lead = magic then
        let (content, next) ← readFrame bytes (limit - output.size) (place + 4)
        readFrames bytes limit fuel next (output ++ content)
      else if lead / 16 = 0x184D2A5 && place + 8 + numberAt bytes (place + 4) 4 ≤ bytes.size then
        readFrames bytes limit fuel (place + 8 + numberAt bytes (place + 4) 4) output
      else none

/-- The content of a row of frames, if it has at most the given size. -/
def decode (bytes : Bytes) (limit : Nat) : Option Bytes :=
  let array := bytes.toArray
  (readFrames array limit (array.size + 1) 0 #[]).map Array.toList

end ChunkCodecs.Zstd
