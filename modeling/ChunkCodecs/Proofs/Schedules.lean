import ChunkCodecs.Codec.Flow
import ChunkCodecs.Proofs.Deflate.Delimiting

/-!
# Independence of the schedule

How much each read of a source is granted does not matter to a codec. Chunks that are read
to the end, parts of known size and the whole of a source are the same under every schedule;
only the deflate codec sees the pieces that it reads. Its decoder is a machine that takes
bytes one after the other, so wherever the pieces are cut it comes to the same end, and what
it has written when it meets a defect is what it puts out for a front of the source.

The deflate encoder is left out here: what its library gives for a piece is up to the library.
-/

namespace ChunkCodecs

/-- Copying has the same verdict under every schedule. -/
theorem sameVerdict_copyThrough {left right : Source} (same : left.rest = right.rest) :
    (copyThrough left).SameVerdict (copyThrough right) := by
  obtain ⟨_, copied, exhausted⟩ := copyThrough_complete left
  obtain ⟨_, again, exhausted_too⟩ := copyThrough_complete right
  rw [copied, again, same]
  exact .of_eq (exhausted.trans exhausted_too.symm)

/-- Taking a deflate container apart has the same verdict under every schedule.

Proof: what the inflater comes to when it is fed all of the content decides. If it meets a
defect, each of the two outputs is what it puts out for a front of the content. Of two fronts
one begins with the other, and the output only grows. -/
theorem Deflate.sameVerdict_uncompress {left right : Source} (same : left.rest = right.rest) :
    (uncompress left).SameVerdict (uncompress right) := by
  cases fed : Inflater.start.feed left.rest with
  | ok full =>
    have fed_too : Inflater.start.feed right.rest = .ok full := same ▸ fed
    cases ended : full.unused? with
    | none =>
      obtain ⟨_, refused, exhausted⟩ := uncompress_of_feed_unfinished fed ended
      obtain ⟨_, again, exhausted_too⟩ := uncompress_of_feed_unfinished fed_too ended
      rw [refused, again]
      exact .of_eq (exhausted.trans exhausted_too.symm)
    | some unused =>
      obtain ⟨_, completed, exhausted⟩ := uncompress_of_feed fed ended
      obtain ⟨_, again, exhausted_too⟩ := uncompress_of_feed fed_too ended
      rw [completed, again]
      exact .of_eq (exhausted.trans exhausted_too.symm)
  | error defect =>
    have fed_too : Inflater.start.feed right.rest = .error defect := same ▸ fed
    obtain ⟨front, part, _, begins, clean, refused⟩ := uncompress_of_feed_error fed
    obtain ⟨other, further, _, begins_too, clean_too, again⟩ := uncompress_of_feed_error fed_too
    rw [refused, again]
    refine ⟨rfl, rfl, nofun, nofun, ?_⟩
    rw [← same] at begins_too
    rcases List.prefix_or_prefix_of_prefix begins begins_too with shorter | longer
    · exact ⟨_, Inflater.grows_of_front shorter clean clean_too, List.prefix_refl _⟩
    · exact ⟨_, List.prefix_refl _, Inflater.grows_of_front longer clean_too clean⟩

/-- Taking a frame has the same verdict under every schedule, whatever the library does.

Proof: the steps of the decoder one after the other. Each of the two parts that it reads is
the same under both schedules, and so is what is left behind it; all else is asked of these
bytes. -/
theorem Blosc.sameVerdict_uncompress (library : Option Library) {left right : Source}
    (same : left.rest = right.rest) :
    (uncompress library left).SameVerdict (uncompress library right) := by
  obtain ⟨header, after, other, front, front_too, behind⟩ :=
    readPart_congr same headerSize "blosc header"
  rw [uncompress, uncompressIn, uncompressToldIn, uncompressToldIn, front, front_too]
  cases header with
  | error fault => exact .failed fault after other []
  | ok header =>
    rcases Library.load library with ⟨loaded, journal⟩
    cases loaded with
    | error fault => exact .failed fault after other journal
    | ok loaded =>
      simp only [Library.takeToldIn]
      cases loaded.introspect header with
      | error fault =>
        exact .failed fault after other journal
      | ok sizes =>
        by_cases small : sizes.frame < headerSize
        · simp only [small, if_true]
          exact .failed _ after other journal
        · obtain ⟨payload, ended, ended_too, read, read_too, left_over⟩ :=
            readPart_congr behind (sizes.frame - headerSize) "blosc payload"
          simp only [small, if_false, read, read_too]
          cases payload with
          | error fault => exact .failed fault ended ended_too journal
          | ok payload =>
            exact .conclude left_over journal
              (loaded.decodeIn (m := Id) Library.decompress (header ++ payload) sizes.content)

/-- Making a frame has the same verdict under every schedule, whatever the library does. -/
theorem Blosc.sameVerdict_compress (library : Option Library) (settings : Settings)
    {left right : Source} (same : left.rest = right.rest) :
    (compress library settings left).SameVerdict (compress library settings right) := by
  have drained : left.readAll.2.rest = right.readAll.2.rest := rfl
  simp only [compress, compressTold, Source.readAll, same]
  rcases Library.load library with ⟨loaded, journal⟩
  cases loaded with
  | error fault => exact .failed fault left.readAll.2 right.readAll.2 journal
  | ok loaded => exact .conclude drained journal (loaded.encode settings right.rest)

/-- Taking a codestream apart has the same verdict under every schedule, whatever the service
does. -/
theorem Raster.sameVerdict_uncompress (service : Option Service) (settings : Settings)
    {left right : Source} (same : left.rest = right.rest) :
    (uncompress service settings left).SameVerdict (uncompress service settings right) := by
  have drained : left.readAll.2.rest = right.readAll.2.rest := rfl
  simp only [uncompress, Source.readAll, same]
  exact .conclude drained [] _

/-- Making a codestream has the same verdict under every schedule, whatever the service does. -/
theorem Raster.sameVerdict_compress (service : Option Service) (settings : Settings)
    {left right : Source} (same : left.rest = right.rest) :
    (compress service settings left).SameVerdict (compress service settings right) := by
  have drained : left.readAll.2.rest = right.readAll.2.rest := rfl
  unfold compress
  split
  · exact .failed _ left right []
  · simp only [Source.readAll, same]
    exact .conclude drained [] _

/-- However the reads of two sources with the same content are granted, every codec takes the
same chunk from them or fails for the same reason; and every codec but deflate compresses them
alike. -/
theorem Codec.sameVerdict_of_schedules (backing : Backing) (codec : Codec) {left right : Source}
    (same : left.rest = right.rest) :
    (codec.uncompress backing left).SameVerdict (codec.uncompress backing right) ∧
      (codec.scheme ≠ .zlib →
        (codec.compress backing left).SameVerdict (codec.compress backing right)) := by
  cases codec with
  | identity => exact ⟨sameVerdict_copyThrough same, fun _ => sameVerdict_copyThrough same⟩
  | deflate settings =>
    refine ⟨Deflate.sameVerdict_uncompress same, ?_⟩
    intro other
    exact absurd rfl other
  | blosc settings =>
    exact ⟨Blosc.sameVerdict_uncompress backing.blosc same,
      fun _ => Blosc.sameVerdict_compress backing.blosc settings same⟩
  | raster settings =>
    exact ⟨Raster.sameVerdict_uncompress backing.raster settings same,
      fun _ => Raster.sameVerdict_compress backing.raster settings same⟩

/-- A container of ten letters whose checksum has a wrong last byte. -/
def damagedContainer : Bytes :=
  [0x78, 0xDA, 0x4B, 0x4C, 0x84, 0x01, 0x00, 0x14, 0xE1, 0x03, 0xCC]

/-- Read byte by byte the letters are written before the checksum is found wrong, read at once
nothing is; the verdict is the same. Storing these bytes as they are has the same verdict too. -/
theorem damagedContainer_sameVerdict :
    (Deflate.uncompress (.limited damagedContainer 1)).written = List.replicate 10 97 ∧
      (Deflate.uncompress (.ofBytes damagedContainer)).written = [] ∧
      (Codec.uncompress ⟨none, none⟩ (.deflate {}) (.limited damagedContainer 1)).SameVerdict
        (Codec.uncompress ⟨none, none⟩ (.deflate {}) (.ofBytes damagedContainer)) ∧
      (Codec.compress ⟨none, none⟩ .identity (.limited damagedContainer 1)).SameVerdict
        (Codec.compress ⟨none, none⟩ .identity (.ofBytes damagedContainer)) := by
  have same : (Source.limited damagedContainer 1).rest = (Source.ofBytes damagedContainer).rest :=
    rfl
  refine ⟨by decide +kernel, by decide +kernel, ?_, ?_⟩
  · exact (Codec.sameVerdict_of_schedules _ _ same).1
  · exact (Codec.sameVerdict_of_schedules _ _ same).2 (by decide)

end ChunkCodecs
