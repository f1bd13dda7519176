import Mathlib
import ChunkCodecs.Proofs.Raster.Layout

/-!
# Samples of a chunk by row, column and channel

A chunk has a sample for every row, column and channel of its image. Where the sample stands
depends on whether channels are interleaved, and how its bytes are read on their order; the
list of samples pixel by pixel has it at a place that depends on neither.

Two chunks of one layout that have the same samples are the same chunk, and every list of
samples in the range of their width is that of some chunk.
-/

namespace ChunkCodecs

/-- If pieces of a size fill a byte string, each one is the slice at its place. -/
theorem getElem?_pieces {size count place : Nat} {bytes : Bytes} (positive : 0 < size)
    (filled : bytes.length = count * size) (inside : place < count) :
    (pieces size bytes)[place]? = some (slice bytes (place * size) size) := by
  induction count generalizing bytes place with
  | zero => exact absurd inside (Nat.not_lt_zero place)
  | succ count inductionHypothesis =>
    have long : size ≤ bytes.length := by
      rw [filled, Nat.succ_mul]
      exact Nat.le_add_left size _
    have shorter : (bytes.drop size).length = count * size := by
      rw [List.length_drop, filled, Nat.succ_mul, Nat.add_sub_cancel]
    rw [pieces_of_le positive long]
    cases place with
    | zero => simp [slice]
    | succ place =>
      have further := inductionHypothesis shorter (Nat.lt_of_succ_lt_succ inside)
      rw [List.getElem?_cons_succ, further, slice, slice, List.drop_drop, Nat.succ_mul,
        Nat.add_comm size]

/-- Pieces of a size that are put together are the pieces of what they make. -/
theorem pieces_flatten {size : Nat} {parts : List Bytes} (positive : 0 < size)
    (each : ∀ part ∈ parts, part.length = size) : pieces size parts.flatten = parts := by
  induction parts with
  | nil => simp [pieces]
  | cons part others inductionHypothesis =>
    have first : part.length = size := each part List.mem_cons_self
    have remaining := inductionHypothesis fun other member =>
      each other (List.mem_cons_of_mem part member)
    have long : size ≤ (part :: others).flatten.length := by
      rw [List.flatten_cons, List.length_append, first]
      exact Nat.le_add_right size _
    rw [pieces_of_le positive long, List.flatten_cons, ← first, List.take_left, List.drop_left,
      first, remaining]

/-- What a transposed matrix lists is listed in the matrix. -/
theorem mem_of_mem_transpose {α : Type} [Inhabited α] {rows columns : Nat} {elements : List α}
    (filled : elements.length = rows * columns) {element : α}
    (member : element ∈ transpose rows columns elements) : element ∈ elements := by
  obtain ⟨position, there⟩ := List.mem_iff_getElem?.mp member
  have inside : position < rows * columns := by
    rw [← length_transpose rows columns elements]
    exact (List.getElem?_eq_some_iff.mp there).1
  rw [getElem?_transpose filled inside] at there
  exact List.mem_of_getElem? there

/-- A row and a column of a matrix make a place in the list of its elements. -/
theorem rowMajor_lt {rows columns row column : Nat} (in_rows : row < rows)
    (in_columns : column < columns) : row * columns + column < rows * columns := by
  calc row * columns + column
      < row * columns + columns := Nat.add_lt_add_left in_columns _
    _ = (row + 1) * columns := (Nat.succ_mul _ _).symm
    _ ≤ rows * columns := Nat.mul_le_mul_right _ in_rows

/-- The column of a place is its remainder. -/
theorem rowMajor_mod {columns row column : Nat} (in_columns : column < columns) :
    (row * columns + column) % columns = column := by
  rw [Nat.add_comm, Nat.add_mul_mod_self_right, Nat.mod_eq_of_lt in_columns]

/-- The row of a place is its quotient. -/
theorem rowMajor_div {columns row column : Nat} (in_columns : column < columns) :
    (row * columns + column) / columns = row := by
  have positive : 0 < columns := Nat.zero_lt_of_lt in_columns
  rw [Nat.add_comm, Nat.add_mul_div_right _ _ positive, Nat.div_eq_of_lt in_columns, Nat.zero_add]

namespace Raster

/-- A sample is in the range of a width. -/
def InRange (width : Nat) (sample : Int) : Prop := 0 ≤ sample ∧ sample < (256 ^ width : Nat)

/-- Bytes are read as a number in the range of their width. -/
theorem inRange_readSample (littleEndian : Bool) (bytes : Bytes) :
    InRange bytes.length (readSample littleEndian bytes : Int) := by
  refine ⟨Int.natCast_nonneg _, Int.ofNat_lt.mpr ?_⟩
  cases littleEndian with
  | true => exact littleEndianValue_lt bytes
  | false =>
    have small := littleEndianValue_lt bytes.reverse
    rwa [List.length_reverse] at small

/-- A sample in the range of its width is read from the bytes in which it is written. -/
theorem readSample_writeSample (littleEndian : Bool) {width : Nat} {sample : Int}
    (inRange : InRange width sample) :
    (readSample littleEndian (writeSample littleEndian width sample) : Int) = sample := by
  obtain ⟨nonnegative, small⟩ := inRange
  have number : ((sample % (256 ^ width : Nat)).toNat : Int) = sample := by
    rw [Int.emod_eq_of_lt nonnegative small, Int.toNat_of_nonneg nonnegative]
  have fits : (sample % (256 ^ width : Nat)).toNat < 256 ^ width := by omega
  have read := littleEndianValue_littleEndian width _ fits
  cases littleEndian with
  | true => simp only [readSample, writeSample, if_true, read, number]
  | false =>
    simp only [readSample, writeSample, bigEndian, bigEndianValue, Bool.false_eq_true, if_false,
      List.reverse_reverse, read, number]

/-- A sample of a chunk is read from the slice at its place. -/
theorem getElem?_readSamples (littleEndian : Bool) {width count place : Nat} {chunk : Bytes}
    (positive : 0 < width) (filled : chunk.length = count * width) (inside : place < count) :
    (readSamples littleEndian width chunk)[place]? =
      some (readSample littleEndian (slice chunk (place * width) width) : Int) := by
  rw [readSamples, List.getElem?_map, getElem?_pieces positive filled inside]
  rfl

/-- The samples of a chunk that they fill are in range. -/
theorem inRange_of_mem_readSamples {littleEndian : Bool} {width count : Nat} {chunk : Bytes}
    (positive : 0 < width) (filled : chunk.length = count * width) {sample : Int}
    (member : sample ∈ readSamples littleEndian width chunk) : InRange width sample := by
  obtain ⟨piece, there, rfl⟩ := List.mem_map.mp member
  have length := length_of_mem_pieces positive filled there
  exact length ▸ inRange_readSample littleEndian piece

/-- Written samples are read back if they are in range. -/
theorem readSamples_writeSamples (littleEndian : Bool) {width : Nat} {samples : List Int}
    (positive : 0 < width) (inRange : ∀ sample ∈ samples, InRange width sample) :
    readSamples littleEndian width (writeSamples littleEndian width samples) = samples := by
  have each : ∀ part ∈ samples.map (writeSample littleEndian width), part.length = width := by
    intro part member
    obtain ⟨sample, _, rfl⟩ := List.mem_map.mp member
    exact writeSample_length littleEndian width sample
  have back : ∀ sample ∈ samples,
      (readSample littleEndian (writeSample littleEndian width sample) : Int) = sample :=
    fun sample member => readSample_writeSample littleEndian (inRange sample member)
  rw [readSamples, writeSamples, List.flatMap_def, pieces_flatten positive each, List.map_map]
  exact (List.map_congr_left back).trans (List.map_id' samples)

/-- Written samples take their width each. -/
theorem length_writeSamples (littleEndian : Bool) (width : Nat) (samples : List Int) :
    (writeSamples littleEndian width samples).length = samples.length * width := by
  induction samples with
  | nil => simp [writeSamples]
  | cons sample others inductionHypothesis =>
    rw [writeSamples, List.flatMap_cons, List.length_append, writeSample_length,
      ← writeSamples, inductionHypothesis, List.length_cons, Nat.succ_mul, Nat.add_comm]

namespace Settings

/-- A row, a column and a channel are those of a sample of the image. -/
structure Contains (settings : Settings) (row column channel : Nat) : Prop where
  /-- The row is one of the image. -/
  row_lt : row < settings.height.toNat
  /-- The column is one of the image. -/
  column_lt : column < settings.width.toNat
  /-- The channel is one of a pixel. -/
  channel_lt : channel < settings.channels

/-- The place of a sample in a chunk: rows of columns of channels if these are interleaved,
else channels of rows of columns. -/
def samplePlace (settings : Settings) (row column channel : Nat) : Nat :=
  if settings.interleaved then
    (row * settings.width.toNat + column) * settings.channels + channel
  else (channel * settings.height.toNat + row) * settings.width.toNat + column

/-- The unsigned number in the bytes of a chunk at the place of a sample. -/
def sampleAt (settings : Settings) (chunk : Bytes) (row column channel : Nat) : Nat :=
  let width := settings.sampleWidth.bytes
  readSample settings.littleEndian
    (slice chunk (settings.samplePlace row column channel * width) width)

/-- The place of a sample in the list of samples pixel by pixel. -/
def pixelPlace (settings : Settings) (row column channel : Nat) : Nat :=
  (row * settings.width.toNat + column) * settings.channels + channel

variable {settings : Settings} {chunk : Bytes} {row column channel : Nat}

/-- The samples of an image have places in the list of samples. -/
theorem pixelPlace_lt (contains : settings.Contains row column channel) :
    settings.pixelPlace row column channel < settings.sampleCount :=
  rowMajor_lt (rowMajor_lt contains.row_lt contains.column_lt) contains.channel_lt

/-- Each place in the list of samples is that of one sample. -/
theorem exists_pixelPlace_eq {place : Nat} (inside : place < settings.sampleCount) :
    settings.Contains (place / settings.channels / settings.width.toNat)
        (place / settings.channels % settings.width.toNat) (place % settings.channels) ∧
      settings.pixelPlace (place / settings.channels / settings.width.toNat)
        (place / settings.channels % settings.width.toNat) (place % settings.channels) = place := by
  have pixel : place / settings.channels < settings.height.toNat * settings.width.toNat := by
    apply Nat.div_lt_of_lt_mul
    rw [Nat.mul_comm]
    exact inside
  have columns : 0 < settings.width.toNat := by
    apply Nat.pos_of_ne_zero
    intro none_there
    rw [none_there, Nat.mul_zero] at pixel
    exact absurd pixel (Nat.not_lt_zero _)
  refine ⟨⟨?_, Nat.mod_lt _ columns, Nat.mod_lt _ settings.channels_pos⟩, ?_⟩
  · apply Nat.div_lt_of_lt_mul
    rw [Nat.mul_comm]
    exact pixel
  · rw [pixelPlace, Nat.mul_comm _ settings.width.toNat, Nat.div_add_mod, Nat.mul_comm,
      Nat.div_add_mod]

/-- The list of samples pixel by pixel has a sample of the chunk at its place there.

Proof: with interleaved channels the list is that of the chunk. Else it is the transpose of
it, whose rows are the channels, and transposing exchanges pixel and channel. -/
theorem getElem?_toPixels (filled : chunk.length = settings.chunkSize)
    (contains : settings.Contains row column channel) :
    (settings.toPixels chunk)[settings.pixelPlace row column channel]? =
      some (settings.sampleAt chunk row column channel : Int) := by
  have positive := settings.sampleWidth.bytes_pos
  have inside := pixelPlace_lt contains
  by_cases together : settings.interleaved = true
  · simp only [toPixels, sampleAt, samplePlace, together, if_true]
    exact getElem?_readSamples settings.littleEndian positive filled inside
  · have matrix : (readSamples settings.littleEndian settings.sampleWidth.bytes chunk).length =
        settings.channels * settings.pixels := by
      rw [length_readSamples settings.littleEndian positive filled, sampleCount, Nat.mul_comm]
    have place : transposedPosition settings.channels settings.pixels
        (settings.pixelPlace row column channel) =
          (channel * settings.height.toNat + row) * settings.width.toNat + column := by
      rw [transposedPosition, pixelPlace, rowMajor_mod contains.channel_lt,
        rowMajor_div contains.channel_lt, pixels]
      ring
    have there : (channel * settings.height.toNat + row) * settings.width.toNat + column <
        settings.sampleCount := by
      rw [← place, sampleCount, Nat.mul_comm]
      apply transposedPosition_lt
      rw [Nat.mul_comm]
      exact inside
    have within : settings.pixelPlace row column channel < settings.channels * settings.pixels := by
      rw [Nat.mul_comm]
      exact inside
    simp only [toPixels, sampleAt, samplePlace, together, Bool.false_eq_true, if_false]
    rw [getElem?_transpose matrix within, place]
    exact getElem?_readSamples settings.littleEndian positive filled there

/-- The samples of a chunk pixel by pixel are as many as the image has. -/
theorem length_toPixels_eq (filled : chunk.length = settings.chunkSize) :
    (settings.toPixels chunk).length = settings.sampleCount := by
  have samples := length_readSamples settings.littleEndian settings.sampleWidth.bytes_pos filled
  rw [toPixels]
  split
  · exact samples
  · rw [length_transpose, sampleCount, Nat.mul_comm]

/-- The samples of a chunk pixel by pixel are in range. -/
theorem inRange_of_mem_toPixels (filled : chunk.length = settings.chunkSize) {sample : Int}
    (member : sample ∈ settings.toPixels chunk) : InRange settings.sampleWidth.bytes sample := by
  have positive := settings.sampleWidth.bytes_pos
  have samples := length_readSamples settings.littleEndian positive filled
  rw [toPixels] at member
  split at member
  · exact inRange_of_mem_readSamples positive filled member
  · have matrix := samples.trans (Nat.mul_comm settings.pixels settings.channels)
    exact inRange_of_mem_readSamples positive filled (mem_of_mem_transpose matrix member)

/-- The chunk of as many samples as the image has is of the right size. -/
theorem length_ofPixels {samples : List Int} (count : samples.length = settings.sampleCount) :
    (settings.ofPixels settings.pixels settings.channels samples).length = settings.chunkSize := by
  rw [ofPixels, length_writeSamples, chunkSize]
  split
  · rw [count]
  · rw [length_transpose, sampleCount]

/-- The chunk of some samples, which are in range, has these samples. -/
theorem toPixels_ofPixels {samples : List Int} (count : samples.length = settings.sampleCount)
    (inRange : ∀ sample ∈ samples, InRange settings.sampleWidth.bytes sample) :
    settings.toPixels (settings.ofPixels settings.pixels settings.channels samples) = samples := by
  have positive := settings.sampleWidth.bytes_pos
  rw [toPixels, ofPixels]
  by_cases together : settings.interleaved = true
  · simp only [together, if_true]
    exact readSamples_writeSamples settings.littleEndian positive inRange
  · have still : ∀ sample ∈ transpose settings.pixels settings.channels samples,
        InRange settings.sampleWidth.bytes sample :=
      fun sample member => inRange sample (mem_of_mem_transpose count member)
    simp only [together, Bool.false_eq_true, if_false]
    rw [readSamples_writeSamples settings.littleEndian positive still, transpose_transpose count]

end Settings

end Raster

end ChunkCodecs
