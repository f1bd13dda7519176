import ChunkCodecs.Bytes
import ChunkCodecs.Shape

/-!
# Images

An image is an array of samples of one type, listed in the order in which the last
axis runs fastest. Its shape is that of rows and columns, with the channels of a
pixel as a last axis if there are several; but a service may give an image of any
shape and any type, so neither is taken for granted.
-/

namespace ChunkCodecs.Raster

/-- The type of a sample: a whole number of a count of bytes. -/
structure SampleType where
  /-- The bytes of a sample. -/
  bytes : Nat
  /-- Whether samples may be negative. -/
  signed : Bool
  deriving DecidableEq, Repr

/-- An array of samples. -/
structure Image where
  /-- The type of the samples. -/
  sampleType : SampleType
  /-- The extents. -/
  shape : Shape
  /-- The samples, the last axis running fastest. -/
  samples : List Int
  /-- There are as many samples as the shape has places. -/
  samples_length : samples.length = shape.volume

/-- A number in the bytes of a sample, modulo their range. -/
def writeSample (littleEndian : Bool) (width : Nat) (sample : Int) : Bytes :=
  let number := (sample % (256 ^ width : Nat)).toNat
  if littleEndian then ChunkCodecs.littleEndian width number else bigEndian width number

/-- The unsigned number in the bytes of a sample. -/
def readSample (littleEndian : Bool) (bytes : Bytes) : Nat :=
  if littleEndian then littleEndianValue bytes else bigEndianValue bytes

/-- A sample takes its width. -/
@[simp] theorem writeSample_length (littleEndian : Bool) (width : Nat) (sample : Int) :
    (writeSample littleEndian width sample).length = width := by
  cases littleEndian <;> simp [writeSample, bigEndian]

/-- The samples of a chunk, in their order there. -/
def readSamples (littleEndian : Bool) (width : Nat) (chunk : Bytes) : List Int :=
  (pieces width chunk).map fun piece => (readSample littleEndian piece : Int)

/-- A chunk that a count of samples fills holds that many. -/
theorem length_readSamples (littleEndian : Bool) {width count : Nat} {chunk : Bytes}
    (positive : 0 < width) (filled : chunk.length = count * width) :
    (readSamples littleEndian width chunk).length = count := by
  simp [readSamples, length_pieces positive filled]

/-- The chunk of some samples. -/
def writeSamples (littleEndian : Bool) (width : Nat) (samples : List Int) : Bytes :=
  samples.flatMap (writeSample littleEndian width)

end ChunkCodecs.Raster
