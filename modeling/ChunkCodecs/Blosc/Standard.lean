import ChunkCodecs.Blosc.Library
import ChunkCodecs.Blosc.Pack

/-!
# The standard blosc library

The library that is used unless another one is given. Its calls take a block size
as a machine number, and they report what the format cannot express. It does not
read the sizes of frames for its callers; the sizes that it would tell are those of
the header, taken as signed numbers, and zero for a format of another version.
-/

namespace ChunkCodecs.Blosc

/-- A signed 32-bit number as an unsigned one of 64 bits. -/
def widened (word : UInt32) : Nat :=
  if word.toNat < 2 ^ 31 then word.toNat else word.toNat + (2 ^ 64 - 2 ^ 32)

/-- The sizes that the library itself reads from a frame. -/
def nativeSizes (frame : Bytes) : FrameSizes :=
  match Header.parse? frame with
  | none => ⟨0, 0, 0⟩
  | some header =>
    if header.version = 2 then
      ⟨widened header.contentSize, widened header.frameSize, widened header.blockSize⟩
    else ⟨0, 0, 0⟩

/-- Make a frame; a block size beyond 32 bits cannot be passed on. -/
def compressStandard (settings : Settings) (content : Bytes) : Except Alarm Bytes :=
  if 2 ^ 63 ≤ settings.blockSize then .error (.escaped .blockSizeBeyondLong)
  else if 2 ^ 31 ≤ settings.blockSize then .error (.escaped .blockSizeBeyondInt)
  else .ok (pack settings content)

/-- Fill a destination of a size from the start, the rest with zeros. -/
def fill (size : Nat) (content : Bytes) : { filled : Bytes // filled.length = size } :=
  ⟨(content ++ List.replicate (size - content.length) 0).take size, by simp; omega⟩

/-- Take a frame apart into a destination of a size. -/
def decompressStandard (frame : Bytes) (size : Nat) :
    Except Alarm { content : Bytes // content.length = size } :=
  let needed := (nativeSizes frame).content
  if size < needed then
    .error (.reported s!"destination buffer too small; expected at least {needed}, got {size}")
  else
    match unpack frame with
    | .ok content => .ok (fill size content)
    | .error refusal => .error (.reported s!"error during blosc decompression: {refusal.code}")

/-- The standard library. -/
def Library.standard : Library where
  lacking := []
  overhead := headerSize
  version := "1.21.7.dev"
  compressors := ["blosclz", "lz4", "lz4hc", "zlib", "zstd"]
  frameSizes? := none
  compress := compressStandard
  decompress := decompressStandard

end ChunkCodecs.Blosc
