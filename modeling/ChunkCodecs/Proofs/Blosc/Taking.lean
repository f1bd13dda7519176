import ChunkCodecs.Blosc.Standard
import ChunkCodecs.Proofs.Blosc.Framing
import ChunkCodecs.Proofs.Transfers

/-!
# Which sources the decoder accepts

The decoder completes exactly on the sources that begin with one frame which the library
takes apart, and then it has read this frame and nothing beyond it. A source that ends
inside the frame is refused: the part in which it ends is named, with the number of
bytes that there were of it, and nothing is written.

So where the sizes are read from the fixed layout, the header alone decides how much is
read and how much is written.
-/

namespace ChunkCodecs.Blosc

/-- A library takes a byte string apart: it begins with one frame, of which the library
gives a content, and something follows. -/
def Library.Takes (library : Library) (bytes content tail : Bytes) : Prop :=
  ∃ sizes frame, library.Delimits sizes frame ∧ bytes = frame ++ tail ∧
    library.decodeIn (m := Id) Library.decompress frame sizes.content = .ok content

/-- The content of a frame has the size that was asked for. -/
theorem length_of_decodeIn {library : Library} {frame content : Bytes} {size : Nat}
    (given : library.decodeIn (m := Id) Library.decompress frame size = .ok content) :
    content.length = size := by
  by_cases empty : size = 0
  · simp only [Library.decodeIn, empty, if_true] at given
    obtain rfl : [] = content := Except.ok.inj given
    exact empty.symm
  · simp only [Library.decodeIn, empty, if_false] at given
    cases returned : library.decompress frame size with
    | error alarm =>
      rw [returned] at given
      cases given
    | ok found =>
      rw [returned] at given
      obtain rfl : found.val = content := Except.ok.inj given
      exact found.property

/-- A source that is shorter than a header is refused with what there is of the header. -/
theorem uncompress_short_header (library : Option Library) {source : Source}
    (short : source.rest.length < headerSize) :
    ∃ after, uncompress library source =
      .failed (.truncated (.endedEarly headerSize "blosc header" source.rest.length)) after [] := by
  obtain ⟨after, refused, _, _⟩ := readPart_of_lt "blosc header" short
  refine ⟨after, ?_⟩
  rw [uncompress, uncompressIn, uncompressToldIn, refused]
  rfl

/-- A source that is shorter than the frame that its header declares is refused with what
there is of the payload. -/
theorem uncompress_short_payload {library : Library} {journal : Journal}
    (usable : library.IsUsable journal) {source : Source} {sizes : FrameSizes}
    (long : headerSize ≤ source.rest.length)
    (introspected : library.introspect (source.rest.take headerSize) = .ok sizes)
    (short : source.rest.length < sizes.frame) :
    ∃ after, uncompress (some library) source =
      .failed (.truncated (.endedEarly (sizes.frame - headerSize) "blosc payload"
        (source.rest.length - headerSize))) after journal := by
  obtain ⟨behind, remaining, _, taken⟩ :=
    uncompressToldIn_of_usable (m := Id) Library.introspect Library.decompress usable long
  have available : behind.rest.length = source.rest.length - headerSize := by
    rw [remaining, List.length_drop]
  have missing : behind.rest.length < sizes.frame - headerSize := by omega
  have large : ¬ sizes.frame < headerSize := by omega
  obtain ⟨after, refused, _, _⟩ := readPart_of_lt "blosc payload" missing
  refine ⟨after, ?_⟩
  rw [uncompress, uncompressIn, taken, Library.takeToldIn]
  simp only [introspected, large, if_false, refused, available]
  rfl

/-- Either the decoder fails before it has a frame, or the library is usable and the source
begins with one frame, of which the library is then asked for the content.

Proof: the steps of the decoder one after the other. What it has read once none has failed
is the header, which gives the sizes, and as many bytes as they say. -/
theorem uncompress_fails_or_asks (library : Library) (source : Source) :
    (∃ fault after journal, uncompress (some library) source = .failed fault after journal) ∨
      ∃ journal sizes frame tail ended, library.IsUsable journal ∧
        library.Delimits sizes frame ∧ source.rest = frame ++ tail ∧ ended.rest = tail ∧
        uncompress (some library) source = .conclude ended journal
          (library.decodeIn (m := Id) Library.decompress frame sizes.content) := by
  by_cases long : headerSize ≤ source.rest.length
  case neg =>
    obtain ⟨after, refused⟩ := uncompress_short_header (some library) (Nat.not_le.mp long)
    exact .inl ⟨_, after, [], refused⟩
  cases loading : Library.load (some library) with
  | mk loaded journal =>
    cases loaded with
    | error fault =>
      obtain ⟨behind, front, _, _⟩ := readPart_of_le "blosc header" long
      refine .inl ⟨fault, behind, journal, ?_⟩
      rw [uncompress, uncompressIn, uncompressToldIn, front]
      simp only [loading]
      rfl
    | ok loaded =>
      obtain rfl := eq_of_load loading
      have usable : loaded.IsUsable journal := loading
      obtain ⟨behind, _, _, taken⟩ :=
        uncompressToldIn_of_usable (m := Id) Library.introspect Library.decompress usable long
      cases looked : loaded.introspect (source.rest.take headerSize) with
      | error fault =>
        refine .inl ⟨fault, behind, journal, ?_⟩
        rw [uncompress, uncompressIn, taken, Library.takeToldIn, looked]
        rfl
      | ok sizes =>
        by_cases small : sizes.frame < headerSize
        · refine .inl ⟨.malformed (.frameSize sizes.frame), behind, journal, ?_⟩
          rw [uncompress, uncompressIn, taken, Library.takeToldIn, looked]
          simp only [small, if_true]
          rfl
        · by_cases short : source.rest.length < sizes.frame
          · obtain ⟨after, refused⟩ := uncompress_short_payload usable long looked short
            exact .inl ⟨_, after, journal, refused⟩
          · have whole : (source.rest.take sizes.frame).length = sizes.frame := by
              rw [List.length_take]
              omega
            have delimited : loaded.Delimits sizes (source.rest.take sizes.frame) := by
              refine ⟨by omega, ?_, whole.symm⟩
              rwa [List.take_take, Nat.min_eq_left (Nat.not_lt.mp small)]
            have held := (List.take_append_drop sizes.frame source.rest).symm
            obtain ⟨ended, left, _, taken⟩ :=
              uncompressIn_frame (m := Id) Library.decompress usable delimited held
            exact .inr ⟨journal, sizes, _, _, ended, usable, delimited, held, left, taken⟩

/-- The decoder gives a content and leaves a tail exactly if the library is usable and takes
the bytes of the source apart into this content and this tail. -/
theorem uncompress_gives_iff {library : Library} {source : Source} {content tail : Bytes} :
    (uncompress (some library) source).Gives content tail ↔
      (∃ journal, library.IsUsable journal) ∧ library.Takes source.rest content tail := by
  constructor
  · intro gives
    obtain ⟨fault, after, journal, failed⟩ |
      ⟨journal, sizes, frame, behind, ended, usable, delimited, held, left, asked⟩ :=
      uncompress_fails_or_asks library source
    · rw [failed] at gives
      exact absurd gives Transfer.not_gives_failed
    · rw [asked, Transfer.gives_conclude_iff, left] at gives
      obtain ⟨given, rfl⟩ := gives
      exact ⟨⟨journal, usable⟩, sizes, frame, delimited, held, given⟩
  · rintro ⟨⟨journal, usable⟩, sizes, frame, delimited, held, given⟩
    obtain ⟨ended, left, _, taken⟩ :=
      uncompressIn_frame (m := Id) Library.decompress usable delimited held
    rw [uncompress, taken]
    exact Transfer.gives_conclude_iff.mpr ⟨given, left⟩

/-- On the fixed layout a byte string is taken apart exactly if it begins with a frame under
a header of which the library gives a content of the declared size. -/
theorem takes_fixed_iff {library : Library} (fixed : library.frameSizes? = none)
    {bytes content tail : Bytes} :
    library.Takes bytes content tail ↔
      ∃ header frame, IsFrame header frame ∧ bytes = frame ++ tail ∧
        library.decodeIn (m := Id) Library.decompress frame header.contentSize.toNat =
          .ok content := by
  constructor
  · rintro ⟨sizes, frame, delimited, held, given⟩
    obtain ⟨header, framed, rfl⟩ := delimited.isFrame fixed
    exact ⟨header, frame, framed, held, given⟩
  · rintro ⟨header, frame, framed, held, given⟩
    exact ⟨header.sizes, frame, framed.delimits fixed, held, given⟩

/-- On the fixed layout the decoder reads and writes exactly what the header declares, for
every byte string and every schedule on which it succeeds. The header is accepted, with a
frame that is all there and a content within the limit of the format; as many bytes as the
frame has are read and as many as the content has are written. The frame alone decides: with
anything else behind it, the content is the same and what is behind it is left. And each
proper front of the frame is refused as ending early, in the header or in the payload, with
the number of bytes that there were of it, and nothing is written. -/
theorem uncompress_exact {library : Library} (fixed : library.frameSizes? = none)
    {source : Source} {content tail : Bytes}
    (gives : (uncompress (some library) source).Gives content tail) :
    ∃ header, Header.ofBytes source.rest = .ok header ∧
      (headerSize ≤ header.frameSize.toNat ∧ header.frameSize.toNat ≤ source.rest.length) ∧
      header.contentSize.toNat ≤ maxContentSize ∧
      tail = source.rest.drop header.frameSize.toNat ∧
      content.length = header.contentSize.toNat ∧
      (∀ (other : Bytes) (reader : Source),
        reader.rest = source.rest.take header.frameSize.toNat ++ other →
        (uncompress (some library) reader).Gives content other) ∧
      ∀ (kept : Nat) (reader : Source), kept < header.frameSize.toNat →
        reader.rest = source.rest.take kept →
        ∃ after journal, uncompress (some library) reader =
          .failed (.truncated
            (if kept < headerSize then .endedEarly headerSize "blosc header" kept
             else .endedEarly (header.frameSize.toNat - headerSize) "blosc payload"
              (kept - headerSize))) after journal := by
  obtain ⟨⟨journal, usable⟩, taken⟩ := uncompress_gives_iff.mp gives
  obtain ⟨header, frame, framed, held, given⟩ := (takes_fixed_iff fixed).mp taken
  have long := framed.headerSize_le
  have front : source.rest.take header.frameSize.toNat = frame := by
    rw [held, framed.whole, List.take_left]
  have fronts (kept : Nat) (within : kept < header.frameSize.toNat) :
      source.rest.take kept = frame.take kept := by
    rw [← front, List.take_take, Nat.min_eq_left (Nat.le_of_lt within)]
  refine ⟨header, held ▸ framed.ofBytes_append tail, ⟨?_, ?_⟩, framed.content_le, ?_,
    length_of_decodeIn given, ?_, ?_⟩
  · rw [framed.whole]
    exact long
  · rw [framed.whole, held, List.length_append]
    exact Nat.le_add_right _ _
  · rw [framed.whole, held, List.drop_left]
  · intro other reader begins
    rw [front] at begins
    exact uncompress_gives_iff.mpr
      ⟨⟨journal, usable⟩, (takes_fixed_iff fixed).mpr ⟨header, frame, framed, begins, given⟩⟩
  · intro kept reader within cut
    rw [fronts kept within] at cut
    rw [framed.whole] at within
    have available : reader.rest.length = kept := by
      rw [cut, List.length_take, Nat.min_eq_left (Nat.le_of_lt within)]
    by_cases short : kept < headerSize
    · obtain ⟨after, refused⟩ := uncompress_short_header (some library) (available.symm ▸ short)
      refine ⟨after, [], ?_⟩
      rw [refused, available, if_pos short]
    · have introspected : library.introspect (reader.rest.take headerSize) = .ok header.sizes := by
        rw [cut, List.take_take, Nat.min_eq_left (Nat.not_lt.mp short)]
        exact (framed.delimits fixed).introspected
      have unfinished : reader.rest.length < header.sizes.frame := by
        rw [available, Header.sizes, framed.whole]
        exact within
      obtain ⟨after, refused⟩ := uncompress_short_payload usable
        (available.symm ▸ Nat.not_lt.mp short) introspected unfinished
      refine ⟨after, journal, ?_⟩
      rw [refused, available, if_neg short]
      rfl

/-- The frame that the standard library makes of three bytes. -/
def threeByteFrame : Bytes := [2, 1, 0x33, 1, 3, 0, 0, 0, 3, 0, 0, 0, 19, 0, 0, 0, 1, 2, 3]

/-- The frame of three bytes in front of another byte, read five bytes at a time: the other
byte is left, and without the last byte of the payload two of its three bytes are reported. -/
theorem threeByteFrame_exact :
    (uncompress (some .standard) (.limited (threeByteFrame ++ [7]) 5)).Gives [1, 2, 3] [7] ∧
      ∃ after journal, uncompress (some .standard) (.limited (threeByteFrame.take 18) 5) =
        .failed (.truncated (.endedEarly 3 "blosc payload" 2)) after journal := by
  have usable : Library.standard.IsUsable
      [⟨.debug, .bloscLibrary, "Loaded blosc 1.21.7.dev"⟩] := rfl
  have delimited : Library.standard.Delimits ⟨3, 19, 3⟩ threeByteFrame :=
    ⟨by decide, rfl, rfl⟩
  have given : Library.standard.decodeIn (m := Id) Library.decompress threeByteFrame 3 =
      .ok [1, 2, 3] := rfl
  have gives : (uncompress (some .standard) (.limited (threeByteFrame ++ [7]) 5)).Gives
      [1, 2, 3] [7] :=
    uncompress_gives_iff.mpr ⟨⟨_, usable⟩, ⟨3, 19, 3⟩, threeByteFrame, delimited, rfl, given⟩
  obtain ⟨header, parsed, _, _, _, _, _, refused⟩ := uncompress_exact rfl gives
  obtain rfl : ⟨2, 1, 0x33, 1, 3, 3, 19⟩ = header := Except.ok.inj parsed
  exact ⟨gives, refused 18 (.limited (threeByteFrame.take 18) 5) (by decide) rfl⟩

end ChunkCodecs.Blosc
