import Mathlib
import ChunkCodecs.Codec.Flow
import ChunkCodecs.Proofs.Blosc.Framing
import ChunkCodecs.Proofs.Blosc.Storing

/-!
# Frames one after another

A frame tells its own size, so frames can be stored one after another without anything
between them. Taking as many frames from such a source as it holds gives the chunks in
their order and leaves whatever follows, though neither the frames nor the reads of the
source are marked in any way.

Of the library it is required that it gives back what it compressed, once the frame has
been cut from the buffer where the sizes say that are read from its header. The standard library does so at least
for contents that it stores as they are.
-/

namespace ChunkCodecs

namespace Blosc

/-- In front of the frame of a chunk the decoder gives the chunk and leaves what follows. -/
theorem uncompress_encoded {library : Library} {settings : Settings} {content frame tail : Bytes}
    {writer reader : Source}
    (read : writer.rest = content)
    (made : (compress (some library) settings writer).result = .ok frame)
    (givesBack : content ≠ [] → library.GivesBack settings content)
    (held : reader.rest = frame ++ tail) :
    ∃ ended journal, uncompress (some library) reader = .complete content ended journal ∧
      ended.rest = tail := by
  obtain ⟨⟨journal, usable⟩, encoded⟩ := usable_and_encode_of_compress made
  rw [read] at encoded
  obtain ⟨sizes, buffer, delimited, declared, _, returned, looked, cut⟩ := encode_delimits encoded
  obtain ⟨ended, left, _, taken⟩ :=
    uncompressIn_frame (m := Id) Library.decompress usable delimited held
  refine ⟨ended, journal, ?_, left⟩
  have outcome : uncompress (some library) reader =
      .conclude ended journal
        (library.decodeIn (m := Id) Library.decompress frame content.length) := by
    rw [← declared]
    exact taken
  by_cases empty : content = []
  · rw [outcome, empty]
    rfl
  · have some_bytes : content.length ≠ 0 := by simpa using empty
    have given := givesBack empty buffer sizes returned looked
    rw [← cut] at given
    rw [outcome, Library.decodeIn, if_neg some_bytes, given]
    rfl

end Blosc

namespace Codec

/-- Take one chunk after another from a source, each with a codec of its own, as long as
nothing goes wrong. -/
def uncompressEach (backing : Backing) : List Codec → Source → Except Fault (List Bytes) × Source
  | [], source => (.ok [], source)
  | codec :: codecs, source =>
    let transfer := codec.uncompress backing source
    match transfer.failure with
    | some fault => (.error fault, transfer.source)
    | none =>
      let (others, after) := uncompressEach backing codecs transfer.source
      (others.map (transfer.written :: ·), after)

/-- A codec that completes a chunk passes what it leaves to the next codec. -/
theorem uncompressEach_complete {backing : Backing} {codec : Codec} {codecs : List Codec}
    {source after ended : Source} {chunk : Bytes} {chunks : List Bytes} {journal : Journal}
    (first : codec.uncompress backing source = .complete chunk after journal)
    (others : uncompressEach backing codecs after = (.ok chunks, ended)) :
    uncompressEach backing (codec :: codecs) source = (.ok (chunk :: chunks), ended) := by
  simp only [uncompressEach, first, Transfer.complete, others]
  rfl

end Codec

/-- A chunk, the settings with which it was compressed, and the frame that was made. -/
structure Packed where
  /-- The settings of the codec. -/
  settings : Blosc.Settings
  /-- The chunk. -/
  chunk : Bytes
  /-- The frame. -/
  frame : Bytes

/-- A blosc codec with the settings made the frame of the chunk, read from some source. -/
def Packed.IsMade (packed : Packed) (backing : Backing) : Prop :=
  ∃ source : Source, source.rest = packed.chunk ∧
    ((Codec.blosc packed.settings).compress backing source).result = .ok packed.frame

/-- Frames that stand one after another are taken apart into their chunks, in their
order, by as many blosc codecs as there are frames, whatever their settings are and
however the source is read; what follows the last frame is left. Chunks may be empty,
and each frame may have been made by a codec with settings of its own.

Proof: induction on the frames. The decoder takes the first frame and nothing beyond it,
so the source that it leaves begins with the second frame. -/
theorem uncompressEach_frames {backing : Backing} {library : Blosc.Library}
    (provided : backing.blosc = some library)
    {packed : List Packed} (made : ∀ one ∈ packed, one.IsMade backing)
    (givesBack : ∀ one ∈ packed, one.chunk ≠ [] → library.GivesBack one.settings one.chunk)
    {readers : List Codec} (alike : ∀ reader ∈ readers, reader.scheme = .blosc)
    (count : readers.length = packed.length) {source : Source} {tail : Bytes}
    (held : source.rest = (packed.map Packed.frame).flatten ++ tail) :
    ∃ after, Codec.uncompressEach backing readers source =
        (.ok (packed.map Packed.chunk), after) ∧ after.rest = tail := by
  induction packed generalizing readers source with
  | nil =>
    obtain rfl : readers = [] := List.eq_nil_of_length_eq_zero count
    exact ⟨source, rfl, held⟩
  | cons first others inductionHypothesis =>
    cases readers with
    | nil => cases count
    | cons reader readers =>
      obtain ⟨settings, rfl⟩ : ∃ settings, reader = .blosc settings := by
        have scheme := alike reader List.mem_cons_self
        cases reader <;> simp [Codec.scheme] at scheme ⊢
      obtain ⟨writer, read, compressed⟩ := made first List.mem_cons_self
      have source_held : source.rest =
          first.frame ++ ((others.map Packed.frame).flatten ++ tail) := by
        rw [held, List.map_cons, List.flatten_cons, List.append_assoc]
      rw [Codec.compress, provided] at compressed
      obtain ⟨after, journal, taken, left⟩ :=
        Blosc.uncompress_encoded read compressed (givesBack first List.mem_cons_self)
          source_held
      rw [← provided] at taken
      obtain ⟨ended, rest, remaining⟩ := inductionHypothesis
        (fun one member => made one (List.mem_cons_of_mem first member))
        (fun one member => givesBack one (List.mem_cons_of_mem first member))
        (fun other member => alike other (List.mem_cons_of_mem _ member))
        (Nat.succ.inj count) left
      exact ⟨ended, Codec.uncompressEach_complete taken rest, remaining⟩

/-- Settings that ask for another compressor and no filter. -/
def Blosc.Settings.unfiltered : Blosc.Settings :=
  ⟨.zstd, .plain "zstd", rfl, standard.level, .none, 0⟩

/-- What the standard library makes of a chunk. -/
def Packed.standard (settings : Blosc.Settings) (chunk : Bytes) : Packed :=
  ⟨settings, chunk, Blosc.pack settings chunk⟩

/-- Three frames of the standard library, the second one of an empty chunk. -/
def Packed.three : List Packed :=
  [.standard .standard [1, 2, 3], .standard .unfiltered [], .standard .unfiltered [9]]

/-- Three frames, read five bytes at a time by codecs with other settings: the chunks
come back, and two bytes are left. -/
theorem three_frames_uncompressed :
    ∃ after, Codec.uncompressEach ⟨some .standard, none⟩
        [.blosc .unfiltered, .blosc .standard, .blosc .standard]
        (.limited ((Packed.three.map Packed.frame).flatten ++ [7, 7]) 5) =
      (.ok (Packed.three.map Packed.chunk), after) ∧ after.rest = [7, 7] := by
  have members : ∀ one ∈ Packed.three, one = .standard .standard [1, 2, 3] ∨
      one = .standard .unfiltered [] ∨ one = .standard .unfiltered [9] := by
    simp [Packed.three]
  have provided : (⟨some .standard, none⟩ : Backing).blosc = some .standard := rfl
  refine uncompressEach_frames provided ?_ ?_ ?_ rfl rfl
  · intro one member
    obtain rfl | rfl | rfl := members one member <;> exact ⟨.ofBytes _, rfl, rfl⟩
  · intro one member nonempty
    obtain rfl | rfl | rfl := members one member <;>
      exact Blosc.standard_givesBack (by decide) nonempty (by decide)
  · intro reader member
    simp only [List.mem_cons, List.not_mem_nil, or_false] at member
    obtain rfl | rfl | rfl := member <;> rfl

end ChunkCodecs
