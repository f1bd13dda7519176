import ChunkCodecs.Proofs.Raster.Samples
import ChunkCodecs.Raster.Transparent

/-!
# Images that are taken for what they are not

What a service makes of a codestream is up to the codestream, so it may be an image of any shape
with samples of any type. A chunk holds the image if every sample stands unchanged at its place.
This is so exactly if the image has the shape that the settings say and its samples are in the
range of their width. Any other image is written all the same, as many bytes as it has samples of
that width, unless it has no axes that could be put in the order of the chunk; and this is not
noticed as a fault of the codestream either.
-/

namespace ChunkCodecs.Raster

namespace Settings

/-- An image is one that the settings describe: it has their shape, where a channel axis may stand
for a single channel as well, and its samples are in the range of their width. -/
structure Fits (settings : Settings) (image : Image) : Prop where
  /-- The image has the rows, the columns and the channels. -/
  shape_eq : image.shape = settings.imageShape ∨
    image.shape = [settings.height.toNat, settings.width.toNat, settings.channels]
  /-- The samples can be written in their width. -/
  inRange : ∀ sample ∈ image.samples, InRange settings.sampleWidth.bytes sample

/-- A chunk is of the right size and has every sample of an image at its place. -/
structure Holds (settings : Settings) (image : Image) (chunk : Bytes) : Prop where
  /-- The chunk has the bytes of the samples and no more. -/
  length_eq : chunk.length = settings.chunkSize
  /-- The samples are those of the image. -/
  sample_eq : ∀ row column channel, settings.Contains row column channel →
    image.samples[settings.pixelPlace row column channel]? =
      some (settings.sampleAt chunk row column channel : Int)

/-- How taking a codestream apart should end if the service makes an image of it: with a fault of
the transfer, or with a chunk that holds the image, which is one that the settings describe. -/
inductive IsFaithful (settings : Settings) (image : Image) : Transfer → Prop
  /-- A fault is reported, as one that arises while bytes are flowing. -/
  | failed {transfer : Transfer} {fault : Fault} (failure : transfer.failure = some fault)
      (transferring : fault.isTransfer = true) : IsFaithful settings image transfer
  /-- The chunk holds the image. -/
  | held {transfer : Transfer} (succeeded : transfer.failure = none) (fits : settings.Fits image)
      (holds : settings.Holds image transfer.written) : IsFaithful settings image transfer

variable {settings : Settings} {image : Image}

/-- An image that the settings describe has as many samples as they say. -/
theorem Fits.length_samples (fits : settings.Fits image) :
    image.samples.length = settings.sampleCount := by
  rw [image.samples_length]
  obtain shape | shape := fits.shape_eq
  · rw [shape, volume_imageShape]
  · simp only [shape, Shape.volume, sampleCount, pixels, Nat.mul_one, Nat.mul_assoc]

/-- An image that the settings describe is laid out as they say. -/
theorem Fits.chunkOf_eq (fits : settings.Fits image) :
    chunkOf settings image =
      .ok (settings.ofPixels settings.pixels settings.channels image.samples) := by
  obtain shape | shape := fits.shape_eq
  · exact chunkOf_of_shape shape
  · simp only [chunkOf, shape]
    rfl

/-- The chunk of an image that the settings describe holds the image. -/
theorem Fits.holds (fits : settings.Fits image) :
    settings.Holds image (settings.ofPixels settings.pixels settings.channels image.samples) where
  length_eq := length_ofPixels fits.length_samples
  sample_eq := by
    intro row column channel contains
    have filled := length_ofPixels fits.length_samples
    have sample := getElem?_toPixels filled contains
    rwa [toPixels_ofPixels fits.length_samples fits.inRange] at sample

/-- Samples take their width each, however they are laid out. -/
theorem length_ofPixels_of_count (settings : Settings) {pixels channels : Nat} {samples : List Int}
    (count : samples.length = pixels * channels) :
    (settings.ofPixels pixels channels samples).length =
      samples.length * settings.sampleWidth.bytes := by
  rw [ofPixels, length_writeSamples]
  split
  · rfl
  · rw [length_transpose, count]

end Settings

variable {settings : Settings} {image : Image}

/-- Every image is laid out with all of its samples, unless it has neither two nor three axes and
the channels would have to be put apart. -/
theorem chunkOf_cases (settings : Settings) (image : Image) :
    (∃ chunk, chunkOf settings image = .ok chunk ∧
        chunk.length = image.shape.volume * settings.sampleWidth.bytes) ∨
      (chunkOf settings image = .error (.foreign .axes) ∧ settings.interleaved = false ∧
        image.shape.length ≠ 2 ∧ image.shape.length ≠ 3) := by
  have counted := image.samples_length
  rw [chunkOf]
  split
  · next rows columns shape =>
    left
    have count : image.samples.length = rows * columns * 1 := by
      rw [counted, shape, Shape.volume, Shape.volume, Shape.volume, Nat.mul_one, Nat.mul_one]
    exact ⟨_, rfl, (settings.length_ofPixels_of_count count).trans (by rw [counted, shape])⟩
  · next rows columns channels shape =>
    left
    have count : image.samples.length = rows * columns * channels := by
      rw [counted, shape, Shape.volume, Shape.volume, Shape.volume, Shape.volume, Nat.mul_one,
        Nat.mul_assoc]
    exact ⟨_, rfl, (settings.length_ofPixels_of_count count).trans (by rw [counted, shape])⟩
  · next not_two not_three =>
    cases together : settings.interleaved with
    | true =>
      left
      refine ⟨_, rfl, ?_⟩
      rw [length_writeSamples, counted]
    | false =>
      right
      refine ⟨rfl, rfl, ?_, ?_⟩
      · intro two
        obtain ⟨rows, columns, shape⟩ := List.length_eq_two.mp two
        exact not_two rows columns shape
      · intro three
        obtain ⟨rows, columns, channels, shape⟩ := List.length_eq_three.mp three
        exact not_three rows columns channels shape

/-- What is written of an image that a service makes is what the image is laid out as. -/
theorem uncompress_decoded {found : Option Service} {service : Service} {source : Source}
    (usable : Service.load found = .ok service)
    (decodes : service.decode source.rest = .ok image) :
    uncompress found settings source = .conclude source.readAll.2 [] (chunkOf settings image) := by
  simp only [uncompress, Source.readAll, usable, bind, Except.bind, decodes, Except.mapError]

/-- A codestream of which the service makes an image is taken apart faithfully exactly if the
settings describe the image. Whatever the image is, its samples are written one and all, or it
is refused for its axes, and that is no fault of a transfer.

Proof: an image that the settings describe is laid out as its pixels and channels say, and the
chunk holds it. For any other image there is no fault of a transfer, since nothing is checked. -/
theorem uncompress_isFaithful_iff {found : Option Service} {service : Service} {source : Source}
    (usable : Service.load found = .ok service)
    (decodes : service.decode source.rest = .ok image) :
    (settings.IsFaithful image (uncompress found settings source) ↔ settings.Fits image) ∧
      (((uncompress found settings source).failure = none ∧
          (uncompress found settings source).written.length =
            image.shape.volume * settings.sampleWidth.bytes) ∨
        ((uncompress found settings source).failure = some (.foreign .axes) ∧
          settings.interleaved = false ∧ image.shape.length ≠ 2 ∧ image.shape.length ≠ 3)) := by
  rw [uncompress_decoded usable decodes]
  have outcomes := chunkOf_cases settings image
  refine ⟨⟨?_, ?_⟩, ?_⟩
  · intro faithful
    cases faithful with
    | held succeeded fits holds => exact fits
    | failed failure transferring =>
      obtain ⟨chunk, laid_out, _⟩ | ⟨refused, _⟩ := outcomes
      · rw [laid_out] at failure
        cases failure
      · rw [refused] at failure
        obtain rfl := Option.some.inj failure
        cases transferring
  · intro fits
    rw [fits.chunkOf_eq]
    exact .held rfl fits fits.holds
  · obtain ⟨chunk, laid_out, length⟩ | ⟨refused, apart⟩ := outcomes
    · rw [laid_out]
      exact .inl ⟨rfl, length⟩
    · rw [refused]
      exact .inr ⟨rfl, apart⟩

/-- What the transparent service makes of a codestream is found by running it. -/
theorem Transparent.decode_of_run {codestream : Bytes} {sampleType : SampleType} {shape : Shape}
    {samples : List Int} (filled : samples.length = shape.volume)
    (run : (decode codestream).toOption.map (fun image =>
      (image.sampleType, image.shape, image.samples)) = some (sampleType, shape, samples)) :
    decode codestream = .ok ⟨sampleType, shape, samples, filled⟩ := by
  cases decoded : decode codestream with
  | error alarm =>
    rw [decoded] at run
    cases run
  | ok image =>
    rw [decoded] at run
    obtain ⟨foundType, foundShape, foundSamples, foundFilled⟩ := image
    simp only [Except.toOption, Option.map_some, Option.some.injEq, Prod.mk.injEq] at run
    obtain ⟨rfl, rfl, rfl⟩ := run
    rfl

/-- The codestream of an image of two rows of two columns. -/
def squareStream : Bytes := "FAKEJ2K u1 2x2\n".toUTF8.toList ++ [1, 2, 3, 4]

/-- The image that it is the codestream of. -/
def squareImage : Image := ⟨⟨1, false⟩, [2, 2], [1, 2, 3, 4], rfl⟩

/-- The transparent service can be used. -/
theorem load_transparent :
    Service.load (some (.transparent "2.5.0")) = .ok (.transparent "2.5.0") := by
  have recent : isRecent "2.5.0" = true := by decide +kernel
  simp only [Service.load, Service.transparent, recent, if_true]

/-- The transparent service makes the image of its codestream. -/
theorem decode_squareStream : (Service.transparent "2.5.0").decode squareStream = .ok squareImage :=
  Transparent.decode_of_run _ (by decide +kernel)

/-- An image of the size that the settings say is given as it is. -/
theorem squareImage_held :
    Settings.IsFaithful { width := 2, height := 2 } squareImage
      (uncompress (some (.transparent "2.5.0")) { width := 2, height := 2 }
        (.ofBytes squareStream)) := by
  refine (uncompress_isFaithful_iff load_transparent decode_squareStream).1.mpr ⟨.inl rfl, ?_⟩
  simp only [squareImage, InRange]
  decide

/-- Four bytes are written of a codestream where the chunk has one, and no fault is reported. -/
theorem squareImage_overflows :
    (uncompress (some (.transparent "2.5.0")) { width := 1, height := 1 }
        (.ofBytes squareStream)).result = .ok [1, 2, 3, 4] ∧
      ¬ Settings.IsFaithful { width := 1, height := 1 } squareImage
        (uncompress (some (.transparent "2.5.0")) { width := 1, height := 1 }
          (.ofBytes squareStream)) := by
  rw [uncompress_decoded load_transparent decode_squareStream]
  refine ⟨rfl, ?_⟩
  intro faithful
  cases faithful with
  | failed failure transferring => cases failure
  | held succeeded fits holds => exact absurd holds.length_eq (by decide)

end ChunkCodecs.Raster
