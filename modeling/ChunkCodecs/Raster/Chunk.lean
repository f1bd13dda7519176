import ChunkCodecs.Raster.Service
import ChunkCodecs.Raster.Settings
import ChunkCodecs.Transfer
import ChunkCodecs.Transposition

/-!
# Chunks as raster images

A chunk is the samples of an image: pixel by pixel if the channels are interleaved,
else channel by channel. The service is given the image pixel by pixel, without a
channel axis if there is one channel, and samples in no particular byte order. So
what it is given depends on the samples alone and not on how the chunk is laid out.

To take a chunk apart the samples of the image are laid out as the settings say and
written in their width, modulo its range, whatever the image is like; only an image
that has no three axes cannot be laid out channel by channel.
-/

namespace ChunkCodecs.Raster

namespace Settings

/-- The count of pixels of an image whose size is known. -/
def pixels (settings : Settings) : Nat := settings.height.toNat * settings.width.toNat

/-- The count of samples of an image whose size is known. -/
def sampleCount (settings : Settings) : Nat := settings.pixels * settings.channels

/-- The bytes of a chunk of an image whose size is known. -/
def chunkSize (settings : Settings) : Nat := settings.sampleCount * settings.sampleWidth.bytes

/-- Whether the size of the image is known. -/
def isSized (settings : Settings) : Bool := 0 ≤ settings.width && 0 ≤ settings.height

/-- How a chunk is to be encoded. A quality counts only if something may be lost. -/
def encoding (settings : Settings) : Encoding :=
  ⟨settings.lossless,
    if settings.lossless || !settings.quality.isPositive then none else some settings.quality⟩

/-- The type of the samples. -/
def sampleType (settings : Settings) : SampleType := ⟨settings.sampleWidth.bytes, false⟩

/-- The shape of the image. -/
def imageShape (settings : Settings) : Shape :=
  let sides := [settings.height.toNat, settings.width.toNat]
  if settings.channels = 1 then sides else sides ++ [settings.channels]

/-- The shape of an image has a place for each sample. -/
theorem volume_imageShape (settings : Settings) :
    settings.imageShape.volume = settings.sampleCount := by
  by_cases single : settings.channels = 1
  · simp [imageShape, sampleCount, pixels, Shape.volume, single]
  · simp [imageShape, sampleCount, pixels, Shape.volume, single, Nat.mul_assoc]

/-- The samples of a chunk pixel by pixel. -/
def toPixels (settings : Settings) (chunk : Bytes) : List Int :=
  let samples := readSamples settings.littleEndian settings.sampleWidth.bytes chunk
  if settings.interleaved then samples
  else transpose settings.channels settings.pixels samples

/-- The samples of a chunk of the right size fill the image. -/
theorem length_toPixels {settings : Settings} {chunk : Bytes}
    (filled : chunk.length = settings.chunkSize) :
    (settings.toPixels chunk).length = settings.imageShape.volume := by
  have positive : 0 < settings.sampleWidth.bytes := by cases settings.sampleWidth <;> decide
  have samples := length_readSamples settings.littleEndian positive filled
  rw [volume_imageShape, toPixels]
  split
  · exact samples
  · simp [sampleCount, Nat.mul_comm]

/-- The chunk of the samples of an image, pixel by pixel, with the given count of
pixels and channels. -/
def ofPixels (settings : Settings) (pixels channels : Nat) (samples : List Int) : Bytes :=
  writeSamples settings.littleEndian settings.sampleWidth.bytes
    (if settings.interleaved then samples else transpose pixels channels samples)

end Settings

/-- The image of a chunk, which has to be of the right size. -/
def imageOf (settings : Settings) (chunk : Bytes) : Except Fault Image :=
  if filled : chunk.length = settings.chunkSize then
    .ok ⟨settings.sampleType, settings.imageShape, settings.toPixels chunk,
      Settings.length_toPixels filled⟩
  else if Value.intIsPrintable settings.chunkSize then
    .error (.malformed (.imageBytes settings.chunkSize settings.height settings.width
      settings.channels chunk.length))
  else .error (.foreign .unprintableNumber)

/-- The chunk that an image holds. -/
def chunkOf (settings : Settings) (image : Image) : Except Fault Bytes :=
  match image.shape with
  | [rows, columns] => .ok (settings.ofPixels (rows * columns) 1 image.samples)
  | [rows, columns, channels] => .ok (settings.ofPixels (rows * columns) channels image.samples)
  | _ =>
    if settings.interleaved then
      .ok (writeSamples settings.littleEndian settings.sampleWidth.bytes image.samples)
    else .error (.foreign .axes)

/-- Compress all that a source holds into one codestream. A chunk whose image size
is unknown is refused before anything is read. -/
def compress (service : Option Service) (settings : Settings) (source : Source) : Transfer :=
  if !settings.isSized then .failed (.configuration .imageSizeRequired) source []
  else
    let (chunk, after) := source.readAll
    let made := do
      let image ← imageOf settings chunk
      let loaded ← Service.load service
      (loaded.encode image settings.encoding).mapError (Alarm.toFault · .rasterEncoding)
    .conclude after [] made

/-- Take apart the codestream that all of a source is. -/
def uncompress (service : Option Service) (settings : Settings) (source : Source) : Transfer :=
  let (codestream, after) := source.readAll
  let made := do
    let loaded ← Service.load service
    let image ← (loaded.decode codestream).mapError (Alarm.toFault · .rasterDecoding)
    chunkOf settings image
  .conclude after [] made

end ChunkCodecs.Raster
