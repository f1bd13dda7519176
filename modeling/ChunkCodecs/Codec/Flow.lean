import ChunkCodecs.Blosc.Chunk
import ChunkCodecs.Codec.Create
import ChunkCodecs.Deflate.Chunk
import ChunkCodecs.Raster.Chunk

/-!
# Moving chunks through codecs

A codec moves a chunk from a source: it compresses all that the source holds, or
takes one compressed chunk from it. What the libraries behind the codecs do is a
parameter. Chunks in memory are moved in the same way, from a source that grants
every read in full; the result is given only if nothing went wrong.
-/

namespace ChunkCodecs

/-- The libraries behind the codecs; one that is absent cannot be loaded. -/
structure Backing where
  /-- The library that makes blosc frames. -/
  blosc : Option Blosc.Library
  /-- The service that encodes images. -/
  raster : Option Raster.Service
  /-- The library that makes deflate containers, which is never absent. -/
  [deflate : Deflate.Library]

namespace Codec

/-- Compress all that a source holds. -/
def compress (backing : Backing) (codec : Codec) (source : Source) : Transfer :=
  match codec with
  | identity => copyThrough source
  | deflate settings => Deflate.compress backing.deflate settings source
  | blosc settings => Blosc.compress backing.blosc settings source
  | raster settings => Raster.compress backing.raster settings source

/-- Take the compressed chunk that a source begins with. How the chunk was made
does not matter, except for the layout of images. -/
def uncompress (backing : Backing) (codec : Codec) (source : Source) : Transfer :=
  match codec with
  | identity => copyThrough source
  | deflate _ => Deflate.uncompress source
  | blosc _ => Blosc.uncompress backing.blosc source
  | raster settings => Raster.uncompress backing.raster settings source

/-- Compress a chunk in memory. -/
def encode (backing : Backing) (codec : Codec) (chunk : Bytes) : Logged Bytes :=
  let transfer := codec.compress backing (.ofBytes chunk)
  ⟨transfer.journal, transfer.result⟩

/-- Uncompress a chunk in memory. -/
def decode (backing : Backing) (codec : Codec) (encoded : Bytes) : Logged Bytes :=
  let transfer := codec.uncompress backing (.ofBytes encoded)
  ⟨transfer.journal, transfer.result⟩

end Codec

end ChunkCodecs
