import ChunkCodecs.Codec.Flow
import ChunkCodecs.Proofs.Raster.Samples
import ChunkCodecs.Raster.Transparent

/-!
# Transcoding between layouts of an image

What a raster service is handed depends on the samples of a chunk alone: on the number that
stands at each row, column and channel, and not on where and in which byte order it stands.
So a chunk that was compressed by one codec can be taken apart by another one that lays the
same image out in another way, and has the same samples then.

All that is required of the service is that it gives back an array that equals the one it was
handed, at least where nothing is to be lost; the type of its samples may be another one.
-/

namespace ChunkCodecs

namespace Raster

namespace Settings

/-- Two settings are for images of one size and samples of one width. The layout of their
chunks may differ, and so may what is asked of the service. -/
structure SameImage (left right : Settings) : Prop where
  /-- There are as many columns. -/
  width_eq : left.width = right.width
  /-- There are as many rows. -/
  height_eq : left.height = right.height
  /-- Samples have one width. -/
  sampleWidth_eq : left.sampleWidth = right.sampleWidth
  /-- There are as many channels. -/
  channels_eq : left.channels = right.channels

/-- Two chunks, each laid out by settings of its own, have the same sample at each row, column
and channel. -/
def SameSamples (left : Settings) (chunk : Bytes) (right : Settings) (other : Bytes) : Prop :=
  ∀ row column channel, left.Contains row column channel →
    right.sampleAt other row column channel = left.sampleAt chunk row column channel

variable {settings left right : Settings} {chunk other : Bytes}

/-- Both have the same rows, columns and channels. -/
theorem SameImage.contains (same : left.SameImage right) {row column channel : Nat}
    (contains : left.Contains row column channel) : right.Contains row column channel := by
  obtain ⟨row_lt, column_lt, channel_lt⟩ := contains
  exact ⟨same.height_eq ▸ row_lt, same.width_eq ▸ column_lt, same.channels_eq ▸ channel_lt⟩

/-- Settings are for the images that they are for. -/
theorem SameImage.refl (settings : Settings) : settings.SameImage settings :=
  ⟨rfl, rfl, rfl, rfl⟩

/-- It does not matter which settings come first. -/
theorem SameImage.symm (same : left.SameImage right) : right.SameImage left :=
  ⟨same.width_eq.symm, same.height_eq.symm, same.sampleWidth_eq.symm, same.channels_eq.symm⟩

/-- Both have as many pixels. -/
theorem SameImage.pixels_eq (same : left.SameImage right) : left.pixels = right.pixels := by
  rw [pixels, pixels, same.width_eq, same.height_eq]

/-- Both have as many samples. -/
theorem SameImage.sampleCount_eq (same : left.SameImage right) :
    left.sampleCount = right.sampleCount := by
  rw [sampleCount, sampleCount, same.pixels_eq, same.channels_eq]

/-- Their images are of one shape. -/
theorem SameImage.imageShape_eq (same : left.SameImage right) :
    left.imageShape = right.imageShape := by
  rw [imageShape, imageShape, same.width_eq, same.height_eq, same.channels_eq]

/-- A sample stands at the same place of both lists of samples. -/
theorem SameImage.pixelPlace_eq (same : left.SameImage right) (row column channel : Nat) :
    left.pixelPlace row column channel = right.pixelPlace row column channel := by
  rw [pixelPlace, pixelPlace, same.width_eq, same.channels_eq]

/-- The image with a sample for each row, column and channel. Of the settings only the sizes
and the width of a sample matter. -/
def imageOfSamples (settings : Settings) (sample : Nat → Nat → Nat → Nat) : Image where
  sampleType := settings.sampleType
  shape := settings.imageShape
  samples := (List.range settings.sampleCount).map fun place =>
    (sample (place / settings.channels / settings.width.toNat)
      (place / settings.channels % settings.width.toNat) (place % settings.channels) : Int)
  samples_length := by
    rw [List.length_map, List.length_range, volume_imageShape]

/-- Images of one size that agree on every sample are the same. -/
theorem imageOfSamples_congr {sample other : Nat → Nat → Nat → Nat} (same : left.SameImage right)
    (alike : ∀ row column channel, left.Contains row column channel →
      other row column channel = sample row column channel) :
    right.imageOfSamples other = left.imageOfSamples sample := by
  have type : right.sampleType = left.sampleType := by
    rw [sampleType, sampleType, same.sampleWidth_eq]
  simp only [imageOfSamples, Image.mk.injEq]
  refine ⟨type, same.imageShape_eq.symm, ?_⟩
  rw [← same.sampleCount_eq, ← same.channels_eq, ← same.width_eq]
  apply List.map_congr_left
  intro place member
  have contains := (exists_pixelPlace_eq (List.mem_range.mp member)).1
  exact congrArg Int.ofNat (alike _ _ _ contains)

/-- The samples of a chunk pixel by pixel are those of the image with its samples. -/
theorem toPixels_eq (filled : chunk.length = settings.chunkSize) :
    settings.toPixels chunk = (settings.imageOfSamples (settings.sampleAt chunk)).samples := by
  apply List.ext_getElem?
  intro place
  by_cases inside : place < settings.sampleCount
  · obtain ⟨contains, there⟩ := exists_pixelPlace_eq inside
    have read := getElem?_toPixels filled contains
    rw [there] at read
    rw [read, imageOfSamples, List.getElem?_map, List.getElem?_range inside]
    rfl
  · rw [List.getElem?_eq_none, List.getElem?_eq_none]
    · rw [(settings.imageOfSamples _).samples_length]
      exact (volume_imageShape settings).le.trans (Nat.le_of_not_lt inside)
    · rw [length_toPixels_eq filled]
      exact Nat.le_of_not_lt inside

/-- The image of a chunk of the right size is the one with its samples. -/
theorem imageOf_eq (filled : chunk.length = settings.chunkSize) :
    imageOf settings chunk = .ok (settings.imageOfSamples (settings.sampleAt chunk)) := by
  rw [imageOf, dif_pos filled]
  apply congrArg Except.ok
  rw [Image.mk.injEq]
  exact ⟨rfl, rfl, toPixels_eq filled⟩

/-- Of three chunks the second and the third one have the same samples if both have those of
the first one. -/
theorem SameSamples.along {further : Settings} {another : Bytes} (same : left.SameImage right)
    (alike : left.SameSamples chunk right other)
    (alike_too : left.SameSamples chunk further another) :
    right.SameSamples other further another := by
  intro row column channel contains
  have first := same.symm.contains contains
  rw [alike _ _ _ first, alike_too _ _ _ first]

/-- Chunks with the same samples have the same image, however each is laid out. -/
theorem SameSamples.image_eq (same : left.SameImage right)
    (alike : left.SameSamples chunk right other) :
    right.imageOfSamples (right.sampleAt other) = left.imageOfSamples (left.sampleAt chunk) :=
  imageOfSamples_congr same alike

/-- Chunks with the same samples have them in the same order, pixel by pixel. -/
theorem SameSamples.toPixels_eq (same : left.SameImage right)
    (alike : left.SameSamples chunk right other) (filled : chunk.length = left.chunkSize)
    (filled_too : other.length = right.chunkSize) :
    right.toPixels other = left.toPixels chunk := by
  rw [Settings.toPixels_eq filled_too, alike.image_eq same, Settings.toPixels_eq filled]

/-- Chunks of one layout with the same samples are the same. -/
theorem eq_of_sameSamples (alike : settings.SameSamples chunk settings other)
    (filled : chunk.length = settings.chunkSize) (filled_too : other.length = settings.chunkSize) :
    other = chunk := by
  have pixels := alike.toPixels_eq (.refl settings) filled filled_too
  rw [← ofPixels_toPixels filled, ← pixels, ofPixels_toPixels filled_too]

/-- The chunk in another layout. -/
def transcoded (left right : Settings) (chunk : Bytes) : Bytes :=
  right.ofPixels right.pixels right.channels (left.toPixels chunk)

/-- The chunk in its own layout is the chunk. -/
theorem transcoded_self (filled : chunk.length = settings.chunkSize) :
    settings.transcoded settings chunk = chunk :=
  ofPixels_toPixels filled

/-- The chunk in another layout is of the size of a chunk. -/
theorem length_transcoded (same : left.SameImage right) (filled : chunk.length = left.chunkSize) :
    (left.transcoded right chunk).length = right.chunkSize :=
  length_ofPixels ((length_toPixels_eq filled).trans same.sampleCount_eq)

/-- The chunk in another layout has the same samples. -/
theorem sameSamples_transcoded (same : left.SameImage right)
    (filled : chunk.length = left.chunkSize) :
    left.SameSamples chunk right (left.transcoded right chunk) := by
  intro row column channel contains
  have count := (length_toPixels_eq filled).trans same.sampleCount_eq
  have inRange : ∀ sample ∈ left.toPixels chunk, InRange right.sampleWidth.bytes sample := by
    intro sample member
    rw [← same.sampleWidth_eq]
    exact inRange_of_mem_toPixels filled member
  have ours := getElem?_toPixels filled contains
  have theirs := getElem?_toPixels (length_transcoded same filled) (same.contains contains)
  rw [transcoded, toPixels_ofPixels count inRange, ← same.pixelPlace_eq, ours] at theirs
  exact (Int.ofNat.inj (Option.some.inj theirs)).symm

end Settings

/-- A service makes a codestream of an image, and of this an image that equals the first one:
of its shape and with its samples. Their type may be another one. -/
def Service.GivesEqual (service : Service) (encoding : Encoding) (image : Image) : Prop :=
  ∃ codestream decoded, service.encode image encoding = .ok codestream ∧
    service.decode codestream = .ok decoded ∧ decoded.shape = image.shape ∧
    decoded.samples = image.samples

/-- A service gives an equal image if running it says so. -/
theorem Service.givesEqual_of_run {service : Service} {encoding : Encoding} {image : Image}
    (run : ((service.encode image encoding).toOption.bind fun codestream =>
      (service.decode codestream).toOption.map fun decoded => (decoded.shape, decoded.samples)) =
        some (image.shape, image.samples)) :
    service.GivesEqual encoding image := by
  cases encoded : service.encode image encoding with
  | error alarm =>
    rw [encoded] at run
    cases run
  | ok codestream =>
    rw [encoded] at run
    cases decoded : service.decode codestream with
    | error alarm =>
      simp only [Except.toOption, Option.bind_some, decoded, Option.map_none] at run
      cases run
    | ok given =>
      simp only [Except.toOption, Option.bind_some, decoded, Option.map_some] at run
      obtain ⟨shape, samples⟩ := Prod.mk.inj (Option.some.inj run)
      exact ⟨codestream, given, encoded, decoded, shape, samples⟩

variable {backing : Backing} {service : Service} {settings left right : Settings}
  {chunk raw codestream : Bytes}

/-- What comes of encoding a chunk of the right size is up to the service, which is handed the
image with the samples of the chunk. -/
theorem result_encode (loads : Service.load backing.raster = .ok service)
    (wide : 0 < settings.width) (high : 0 < settings.height)
    (filled : chunk.length = settings.chunkSize) :
    ((Codec.raster settings).encode backing chunk).result =
      (service.encode (settings.imageOfSamples (settings.sampleAt chunk))
        settings.encoding).mapError (Alarm.toFault · .rasterEncoding) := by
  have sized : settings.isSized = true := by
    simp only [Settings.isSized, Bool.and_eq_true, decide_eq_true_eq]
    constructor
    · exact wide.le
    · exact high.le
  have read : (Source.ofBytes chunk).rest = chunk := rfl
  simp only [Codec.encode, Codec.compress, compress, sized, Source.readAll, read,
    Settings.imageOf_eq filled, loads, bind, Except.bind, Bool.not_true, Bool.false_eq_true,
    if_false, Transfer.result_conclude]

/-- A codestream of which the service makes an image of the expected shape is decoded into the
chunk that has the samples of that image, pixel by pixel. -/
theorem result_decode {image : Image} (loads : Service.load backing.raster = .ok service)
    (decoded : service.decode codestream = .ok image) (shape : image.shape = settings.imageShape) :
    ((Codec.raster settings).decode backing codestream).result =
      .ok (settings.ofPixels settings.pixels settings.channels image.samples) := by
  have read : (Source.ofBytes codestream).rest = codestream := rfl
  simp only [Codec.decode, Codec.uncompress, uncompress, Source.readAll, read, loads, decoded,
    chunkOf_of_shape shape, bind, Except.bind, Except.mapError, Transfer.result_conclude]

/-- An image with the shape and the samples of a chunk gives the chunk in another layout. -/
theorem decode_of_equal {image : Image} (loads : Service.load backing.raster = .ok service)
    (decoded : service.decode codestream = .ok image) (same : left.SameImage right)
    (shape : image.shape = left.imageShape) (samples : image.samples = left.toPixels raw) :
    ((Codec.raster right).decode backing codestream).result = .ok (left.transcoded right raw) := by
  rw [result_decode loads decoded (shape.trans same.imageShape_eq), samples]
  rfl

end Raster

namespace Codec

open Raster

/-- Settings for images of one size and samples of one width lay the same images out, each in
its own way.

The service is handed the same image for any two chunks with the same samples, so it makes
the same codestream of them unless it is asked for something else. If it gives back an array
that equals the image of a chunk, a codec with other settings takes the codestream apart into
the one chunk of its layout that has the samples of the first one at each row, column and
channel; and a codec with the same settings gets the chunk itself. -/
theorem raster_transcodes {backing : Backing} {service : Service} {left : Settings} {raw : Bytes}
    (loads : Service.load backing.raster = .ok service)
    (wide : 0 < left.width) (high : 0 < left.height) (filled : raw.length = left.chunkSize) :
    (∀ (settings : Settings) (chunk : Bytes), left.SameImage settings →
      chunk.length = settings.chunkSize → left.SameSamples raw settings chunk →
      ((raster settings).encode backing chunk).result =
        (service.encode (left.imageOfSamples (left.sampleAt raw))
          settings.encoding).mapError (Alarm.toFault · .rasterEncoding)) ∧
    (service.GivesEqual left.encoding (left.imageOfSamples (left.sampleAt raw)) →
      ∃ codestream, ((raster left).encode backing raw).result = .ok codestream ∧
        ((raster left).decode backing codestream).result = .ok raw ∧
        ∀ right : Settings, left.SameImage right →
          ∃ chunk, ((raster right).decode backing codestream).result = .ok chunk ∧
            chunk.length = right.chunkSize ∧ left.SameSamples raw right chunk ∧
            ∀ other : Bytes, other.length = right.chunkSize →
              left.SameSamples raw right other → other = chunk) := by
  constructor
  · intro settings chunk same full alike
    have wide_too : 0 < settings.width := same.width_eq ▸ wide
    have high_too : 0 < settings.height := same.height_eq ▸ high
    rw [result_encode loads wide_too high_too full, alike.image_eq same]
  · rintro ⟨codestream, image, encoded, decoded, shape, samples⟩
    rw [← Settings.toPixels_eq filled] at samples
    refine ⟨codestream, ?_, ?_, ?_⟩
    · rw [result_encode loads wide high filled, encoded]
      rfl
    · have kept := decode_of_equal loads decoded (.refl left) shape samples
      rwa [Settings.transcoded_self filled] at kept
    · intro right same
      have count := Settings.length_transcoded same filled
      have alike := Settings.sameSamples_transcoded same filled
      refine ⟨left.transcoded right raw, ?_, count, alike, ?_⟩
      · exact decode_of_equal loads decoded same shape samples
      · intro other full alike_too
        exact Settings.eq_of_sameSamples (alike.along same alike_too) count full

/-- Two rows of three pixels with two channels of two bytes, channel by channel, the least
significant byte first. -/
def planarSettings : Settings where
  littleEndian := true
  width := 3
  height := 2
  sampleWidth := .double
  channels := 2

/-- The same image with its channels together, the most significant byte first. -/
def pixelSettings : Settings where
  interleaved := true
  width := 3
  height := 2
  sampleWidth := .double
  channels := 2

/-- The numbers from one in the first channel, and more by 256 in the second one. -/
def planarChunk : Bytes :=
  [1, 0, 2, 0, 3, 0, 4, 0, 5, 0, 6, 0, 1, 1, 2, 1, 3, 1, 4, 1, 5, 1, 6, 1]

/-- The same samples with the channels together, the most significant byte first. -/
def pixelChunk : Bytes :=
  [0, 1, 1, 1, 0, 2, 1, 2, 0, 3, 1, 3, 0, 4, 1, 4, 0, 5, 1, 5, 0, 6, 1, 6]

/-- A raster service that does not compress, and no other library. -/
def transparentBacking : Backing := ⟨none, some (.transparent "2.5.0")⟩

/-- The two chunks have the same samples. -/
theorem sameSamples_pixelChunk : planarSettings.SameSamples planarChunk pixelSettings pixelChunk := by
  have each : ∀ row < 2, ∀ column < 3, ∀ channel < 2,
      pixelSettings.sampleAt pixelChunk row column channel =
        planarSettings.sampleAt planarChunk row column channel := by decide +kernel
  rintro row column channel ⟨row_lt, column_lt, channel_lt⟩
  exact each row row_lt column column_lt channel channel_lt

/-- The chunk is taken apart in its own layout into itself and in the other one into the chunk
with the same samples, of which the same codestream is made. -/
theorem planarChunk_transcoded :
    ∃ codestream,
      ((raster planarSettings).encode transparentBacking planarChunk).result = .ok codestream ∧
      ((raster pixelSettings).encode transparentBacking pixelChunk).result = .ok codestream ∧
      ((raster planarSettings).decode transparentBacking codestream).result = .ok planarChunk ∧
      ((raster pixelSettings).decode transparentBacking codestream).result = .ok pixelChunk := by
  have recent : isRecent "2.5.0" = true := by decide +kernel
  have loads : Service.load transparentBacking.raster = .ok (.transparent "2.5.0") := by
    simp only [transparentBacking, Service.load, Service.transparent, recent, if_true]
  have same : planarSettings.SameImage pixelSettings := ⟨rfl, rfl, rfl, rfl⟩
  have givesEqual : (Service.transparent "2.5.0").GivesEqual planarSettings.encoding
      (planarSettings.imageOfSamples (planarSettings.sampleAt planarChunk)) :=
    Service.givesEqual_of_run (by decide +kernel)
  obtain ⟨handed, given⟩ := raster_transcodes loads (by decide) (by decide)
    (show planarChunk.length = planarSettings.chunkSize by decide)
  obtain ⟨codestream, encoded, kept, elsewhere⟩ := given givesEqual
  obtain ⟨chunk, decoded, _, _, unique⟩ := elsewhere pixelSettings same
  obtain rfl := unique pixelChunk (by decide) sameSamples_pixelChunk
  have handed_same := handed pixelSettings pixelChunk same (by decide) sameSamples_pixelChunk
  have handed_own := handed planarSettings planarChunk (.refl planarSettings) (by decide)
    fun _ _ _ _ => rfl
  refine ⟨codestream, encoded, ?_, kept, decoded⟩
  rw [handed_same, ← encoded, handed_own]
  rfl

end Codec

end ChunkCodecs
