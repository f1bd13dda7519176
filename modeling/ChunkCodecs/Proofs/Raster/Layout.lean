import Mathlib
import ChunkCodecs.Raster.Chunk

/-!
# Images keep the chunks that they are made of

A chunk of the right size is laid out as an image and the image as a chunk again: the
samples are read from their bytes and written to them, and where the channels are apart
the matrix of pixels and channels is transposed and transposed back. Nothing is lost on
the way, so a service that gives images back gives chunks back.
-/

namespace ChunkCodecs

/-- The pieces of a byte string make it up. -/
theorem flatten_pieces {size : Nat} (positive : 0 < size) (bytes : Bytes) :
    (pieces size bytes).flatten = bytes := by
  fun_induction pieces size bytes with
  | case1 bytes ended =>
    have empty : bytes = [] := by simpa [Nat.ne_of_gt positive] using ended
    rw [empty]
    rfl
  | case2 bytes remaining inductionHypothesis =>
    rw [List.flatten_cons, inductionHypothesis, List.take_append_drop]

/-- A byte string that is long enough begins with a piece. -/
theorem pieces_of_le {size : Nat} {bytes : Bytes} (positive : 0 < size)
    (long : size ≤ bytes.length) :
    pieces size bytes = bytes.take size :: pieces size (bytes.drop size) := by
  have nonempty : bytes.isEmpty = false := by
    cases bytes with
    | nil => simp only [List.length_nil] at long; omega
    | cons byte rest => rfl
  rw [pieces]
  simp [nonempty, Nat.ne_of_gt positive]

/-- If pieces of a size fill a byte string, all of them have the size. -/
theorem length_of_mem_pieces {size count : Nat} {bytes piece : Bytes} (positive : 0 < size)
    (filled : bytes.length = count * size) (member : piece ∈ pieces size bytes) :
    piece.length = size := by
  induction count generalizing bytes with
  | zero =>
    have empty : bytes = [] := List.eq_nil_of_length_eq_zero (by simpa using filled)
    simp [empty, pieces] at member
  | succ count inductionHypothesis =>
    have long : size ≤ bytes.length := by rw [filled, Nat.succ_mul]; omega
    have shorter : (bytes.drop size).length = count * size := by
      rw [List.length_drop, filled, Nat.succ_mul]; omega
    rw [pieces_of_le positive long] at member
    rcases List.mem_cons.mp member with rfl | later
    · rw [List.length_take, Nat.min_eq_left long]
    · exact inductionHypothesis shorter later

/-- A place of a transposed matrix holds what the matrix holds at the transposed place. -/
theorem getElem?_transpose {α : Type} [Inhabited α] {rows columns : Nat} {elements : List α}
    (filled : elements.length = rows * columns) {position : Nat}
    (inside : position < rows * columns) :
    (transpose rows columns elements)[position]? =
      elements[transposedPosition rows columns position]? := by
  have there : transposedPosition rows columns position < elements.length := by
    rw [filled]
    exact transposedPosition_lt inside
  simp [transpose, there, inside]

/-- Transposing twice, with rows and columns exchanged, gives a matrix back. -/
theorem transpose_transpose {α : Type} [Inhabited α] {rows columns : Nat} {elements : List α}
    (filled : elements.length = rows * columns) :
    transpose columns rows (transpose rows columns elements) = elements := by
  have transposed : (transpose rows columns elements).length = columns * rows := by
    rw [length_transpose, Nat.mul_comm]
  apply List.ext_getElem?
  intro position
  by_cases inside : position < columns * rows
  · have back := transposedPosition_transposedPosition inside
    have across : transposedPosition columns rows position < rows * columns := by
      rw [Nat.mul_comm]
      exact transposedPosition_lt inside
    rw [getElem?_transpose transposed inside, getElem?_transpose filled across, back]
  · rw [List.getElem?_eq_none, List.getElem?_eq_none]
    · rw [filled, Nat.mul_comm]
      exact Nat.le_of_not_lt inside
    · rw [length_transpose]
      exact Nat.le_of_not_lt inside

namespace Raster

/-- The bytes of a sample hold the number that is read from them. -/
theorem writeSample_readSample (littleEndian : Bool) (bytes : Bytes) :
    writeSample littleEndian bytes.length (readSample littleEndian bytes) = bytes := by
  have range (ordered : Bytes) (same : ordered.length = bytes.length) :
      ((littleEndianValue ordered : Int) % (256 ^ bytes.length : Nat)).toNat =
        littleEndianValue ordered := by
    have small := littleEndianValue_lt ordered
    rw [same] at small
    rw [← Int.natCast_emod, Int.toNat_natCast, Nat.mod_eq_of_lt small]
  cases littleEndian with
  | true =>
    simp only [writeSample, readSample, if_true, range bytes rfl, littleEndian_littleEndianValue]
  | false =>
    have length := bytes.length_reverse
    simp only [writeSample, readSample, bigEndianValue, bigEndian, Bool.false_eq_true, if_false,
      range bytes.reverse length]
    rw [← length, littleEndian_littleEndianValue, List.reverse_reverse]

/-- A chunk that samples fill holds the samples that are read from it. -/
theorem writeSamples_readSamples (littleEndian : Bool) {width count : Nat} {chunk : Bytes}
    (positive : 0 < width) (filled : chunk.length = count * width) :
    writeSamples littleEndian width (readSamples littleEndian width chunk) = chunk := by
  have each : ∀ piece ∈ pieces width chunk,
      writeSample littleEndian width (readSample littleEndian piece) = piece := by
    intro piece member
    have length := length_of_mem_pieces positive filled member
    have written := writeSample_readSample littleEndian piece
    rwa [length] at written
  rw [writeSamples, readSamples, List.flatMap_map, List.flatMap_def, List.map_congr_left each,
    List.map_id', flatten_pieces positive]

/-- A sample takes some bytes. -/
theorem SampleWidth.bytes_pos (width : SampleWidth) : 0 < width.bytes := by
  cases width <;> decide

/-- The samples of a chunk, pixel by pixel, make the chunk again. -/
theorem Settings.ofPixels_toPixels {settings : Settings} {chunk : Bytes}
    (filled : chunk.length = settings.chunkSize) :
    settings.ofPixels settings.pixels settings.channels (settings.toPixels chunk) = chunk := by
  have positive := settings.sampleWidth.bytes_pos
  have samples := length_readSamples settings.littleEndian positive filled
  have written := writeSamples_readSamples settings.littleEndian positive filled
  rw [ofPixels, toPixels]
  by_cases together : settings.interleaved = true
  · simp only [together, if_true]
    exact written
  · simp only [together, Bool.false_eq_true, if_false]
    rw [transpose_transpose (samples.trans (Nat.mul_comm _ _))]
    exact written

/-- What an image of the expected shape holds is laid out as its pixels and channels say, and
its type does not matter. -/
theorem chunkOf_of_shape {settings : Settings} {image : Image}
    (shape : image.shape = settings.imageShape) :
    chunkOf settings image =
      .ok (settings.ofPixels settings.pixels settings.channels image.samples) := by
  by_cases single : settings.channels = 1
  · simp only [chunkOf, shape, Settings.imageShape, single, if_true]
    rfl
  · simp only [chunkOf, shape, Settings.imageShape, single, if_false, List.cons_append,
      List.nil_append]
    rfl

/-- The image that is made of a chunk holds the chunk. -/
theorem chunkOf_imageOf {settings : Settings} {chunk : Bytes} {image : Image}
    (made : imageOf settings chunk = .ok image) : chunkOf settings image = .ok chunk := by
  unfold imageOf at made
  split at made
  · rename_i filled
    obtain rfl := Except.ok.inj made
    rw [chunkOf_of_shape rfl, Settings.ofPixels_toPixels filled]
  · split at made <;> cases made

/-- A service gives an image back that it encoded in some way. -/
def Service.GivesBack (service : Service) (encoding : Encoding) (image : Image) : Prop :=
  ∀ codestream, service.encode image encoding = .ok codestream →
    service.decode codestream = .ok image

/-- Loading gives the service that was found, if it gives one. -/
theorem eq_of_load {found loaded : Service} (usable : Service.load (some found) = .ok loaded) :
    loaded = found := by
  simp only [Service.load] at usable
  split at usable
  · exact (Except.ok.inj usable).symm
  · cases usable

/-- A codestream that was made of a chunk is taken apart into the chunk by a codec with the
same layout, whatever quality it has, if the service gives back the image of the chunk. -/
theorem uncompress_compressed {service : Service} {settings : Settings} (quality : Double)
    {writer reader : Source} {chunk codestream : Bytes} (read : writer.rest = chunk)
    (givesBack : ∀ image, imageOf settings chunk = .ok image →
      service.GivesBack settings.encoding image)
    (made : (compress (some service) settings writer).result = .ok codestream)
    (held : reader.rest = codestream) :
    ∃ after, uncompress (some service) { settings with quality } reader =
        .complete chunk after [] ∧ after.rest = [] := by
  unfold compress at made
  split at made
  · cases made
  · simp only [Source.readAll, read, Transfer.result_conclude] at made
    cases laid_out : imageOf settings chunk with
    | error fault =>
      rw [laid_out] at made
      cases made
    | ok image =>
      rw [laid_out] at made
      cases usable : Service.load (some service) with
      | error fault =>
        rw [usable] at made
        cases made
      | ok loaded =>
        rw [usable] at made
        obtain rfl := eq_of_load usable
        cases encoded : loaded.encode image settings.encoding with
        | error alarm =>
          simp only [bind, Except.bind, encoded] at made
          cases made
        | ok found =>
          simp only [bind, Except.bind, encoded] at made
          obtain rfl := Except.ok.inj made
          have decoded := givesBack image laid_out found encoded
          refine ⟨reader.readAll.2, ?_, rfl⟩
          simp only [uncompress, Source.readAll, held, usable, bind, Except.bind, decoded,
            Except.mapError]
          have kept : chunkOf { settings with quality } image = .ok chunk := chunkOf_imageOf laid_out
          rw [kept]
          rfl

end Raster

end ChunkCodecs
