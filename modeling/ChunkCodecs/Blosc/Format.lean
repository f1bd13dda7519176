import ChunkCodecs.Blosc.Settings
import ChunkCodecs.BloscLz
import ChunkCodecs.Deflate.Deflater
import ChunkCodecs.Lz4
import ChunkCodecs.Zstd.Encoder

/-!
# The formats inside blosc frames

The parts of a frame are compressed in one of four formats, which a code in the
frame's header names. Two of the internal compressors write the same format, with
more or less effort.
-/

namespace ChunkCodecs.Blosc

/-- The format of compressed parts. -/
inductive Format where
  | blosclz
  | lz4
  | zlib
  | zstd
  deriving DecidableEq, Repr

namespace Format

/-- The code of a format in a header. -/
def code : Format → Nat
  | blosclz => 0
  | lz4 => 1
  | zlib => 3
  | zstd => 4

/-- The format of a code. -/
def ofCode? (code : Nat) : Option Format := [blosclz, lz4, zlib, zstd].find? (·.code == code)

/-- The content of a deflate container, if it is complete. -/
def inflate (part : Bytes) : Option Bytes :=
  match Deflate.Inflater.start.feed part with
  | .error _ => none
  | .ok inflater => if inflater.unused?.isSome then some inflater.output.toList else none

/-- The content of a part, which is expected to have a size. -/
def decode (format : Format) (part : Bytes) (size : Nat) : Option Bytes :=
  let content := match format with
    | blosclz => BloscLz.decode part size
    | lz4 => Lz4.decode part size
    | zlib => inflate part
    | zstd => Zstd.decode part size
  content.filter fun found => found.length = size

/-- Compress a part. -/
def encode (format : Format) (level : Nat) (content : Bytes) : Bytes :=
  match format with
  | blosclz => BloscLz.encode content
  | lz4 => Lz4.encode content
  | zlib => Deflate.container level content
  | zstd => Zstd.encode content

end Format

/-- The format that an internal compressor writes. -/
def Compressor.format : Compressor → Format
  | .zstd => .zstd
  | .blosclz => .blosclz
  | .lz4 => .lz4
  | .lz4hc => .lz4
  | .zlib => .zlib

end ChunkCodecs.Blosc
