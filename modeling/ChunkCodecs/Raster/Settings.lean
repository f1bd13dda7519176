import ChunkCodecs.Parameter

/-!
# Settings of the raster codec

A raster codec knows how the samples of a chunk are laid out: the size of the
image, the count of channels, the width of a sample and its byte order, and
whether the channels of a pixel stand together. A side of the image may be
unknown, which is written as minus one; both sides must be known to compress.

Compression is lossless or aims at a quality in decibels. A negative quality is
unset, and unless it is asked for otherwise compression is lossless exactly then.
-/

namespace ChunkCodecs.Raster

/-- The supported widths of a sample. -/
inductive SampleWidth where
  /-- One byte. -/
  | single
  /-- Two bytes. -/
  | double
  deriving DecidableEq, Repr

namespace SampleWidth

/-- The bytes of a sample. -/
def bytes : SampleWidth → Nat
  | single => 1
  | double => 2

/-- The bits of a sample. -/
def bits (width : SampleWidth) : Nat := 8 * width.bytes

/-- The width of a count of bits. -/
def ofBits? (bits : Int) : Option SampleWidth :=
  if bits = 8 then some single else if bits = 16 then some double else none

end SampleWidth

/-- A side of an image is known and positive, or unknown. -/
def IsSide (length : Int) : Prop := length = -1 ∨ 0 < length

instance (length : Int) : Decidable (IsSide length) := inferInstanceAs (Decidable (_ ∨ _))

/-- The settings of a raster codec. -/
structure Settings where
  /-- Whether the least significant byte of a sample comes first. -/
  littleEndian : Bool := false
  /-- Whether the channels of a pixel stand together. -/
  interleaved : Bool := false
  /-- Columns of the image, or minus one. -/
  width : Int := -1
  /-- Rows of the image, or minus one. -/
  height : Int := -1
  /-- The width of a sample. -/
  sampleWidth : SampleWidth := .single
  /-- Samples of a pixel. -/
  channels : Nat := 1
  /-- Whether compression is lossless. -/
  lossless : Bool := true
  /-- The quality aimed at, in decibels; negative if unset. -/
  quality : Double := .minusOne
  /-- The width is a side. -/
  width_isSide : IsSide width := by decide
  /-- The height is a side. -/
  height_isSide : IsSide height := by decide
  /-- A pixel has samples. -/
  channels_pos : 0 < channels := by decide
  deriving DecidableEq

namespace Settings

/-- The parameters that a raster codec knows. -/
def knownKeys : List String :=
  ["littleEndian", "interleaved", "lossless", "imageWidth", "imageHeight", "bitsPerSample",
    "channels", "quality"]

/-- Settings of the given parts, if all are in range. They are checked in the
order of the width of a sample, the channels, the width and the height. -/
def ofParts (littleEndian interleaved : Bool) (width height bits channels : Int) (lossless : Bool)
    (quality : Double) : Except ConfigurationFault Settings :=
  match SampleWidth.ofBits? bits with
  | none => .error (.sampleBits bits)
  | some sampleWidth =>
    if positive : 0 < channels then
      if widthIsSide : IsSide width then
        if heightIsSide : IsSide height then
          .ok ⟨littleEndian, interleaved, width, height, sampleWidth, channels.toNat, lossless,
            quality, widthIsSide, heightIsSide, by omega⟩
        else .error (.imageSide "imageHeight" height)
      else .error (.imageSide "imageWidth" width)
    else .error (.channelCount channels)

/-- Settings as properties give them. The quality is read first, since
losslessness depends on it. -/
def ofProperties (properties : Properties) : Except Fault Settings := do
  let named (key : String) : ParameterName := ⟨"j2k: ", key⟩
  let truth (key : String) := Parameter.readOptional Parameter.readBool properties (named key)
  let number (key : String) := Parameter.readOptional Parameter.readInt properties (named key)
  let asked ← Parameter.readOptional Parameter.readDouble properties (named "quality")
  let quality := asked.getD .minusOne
  let littleEndian ← truth "littleEndian"
  let interleaved ← truth "interleaved"
  let width ← number "imageWidth"
  let height ← number "imageHeight"
  let bits ← number "bitsPerSample"
  let channels ← number "channels"
  let lossless ← truth "lossless"
  (ofParts (littleEndian.getD false) (interleaved.getD false) (width.getD (-1)) (height.getD (-1))
    (bits.getD 8) (channels.getD 1) (lossless.getD quality.isNegative) quality).mapError
      Fault.refuse

/-- The settings as properties. An unset quality is left out. -/
def toProperties (settings : Settings) : Properties :=
  [(.text "littleEndian", .bool settings.littleEndian),
    (.text "interleaved", .bool settings.interleaved),
    (.text "imageWidth", .int settings.width), (.text "imageHeight", .int settings.height),
    (.text "bitsPerSample", .int settings.sampleWidth.bits),
    (.text "channels", .int settings.channels), (.text "lossless", .bool settings.lossless)] ++
  if settings.quality.isNonnegative then [(.text "quality", .float settings.quality)] else []

/-- Whether two settings are equal: qualities are compared as numbers. -/
def agrees (left right : Settings) : Bool :=
  left.littleEndian == right.littleEndian && left.interleaved == right.interleaved &&
    left.width == right.width && left.height == right.height &&
    left.sampleWidth == right.sampleWidth && left.channels == right.channels &&
    left.lossless == right.lossless && left.quality.numericallyEqual right.quality

end Settings

end ChunkCodecs.Raster
