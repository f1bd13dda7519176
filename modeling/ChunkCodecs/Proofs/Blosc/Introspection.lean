import ChunkCodecs.Proofs.Blosc.Taking

/-!
# Two ways to read the sizes of a frame

The sizes of a frame are read by the library, if it tells them, and from the fixed layout of
the header otherwise. A library tells the three size fields of a header of the version that
it knows, and zeros for any other version; and it takes no frame of another version apart.

So the decoder accepts the same sources either way, with one exception: a frame of another
version without content. The library is not asked for an empty content, so on the fixed
layout such a frame is accepted, while the sizes that the library tells make it malformed.
-/

namespace ChunkCodecs.Blosc

/-- The version of the format that is known. -/
def knownVersion : UInt8 := 2

/-- A size is told as the word of a header that it is, with or without a sign. -/
def IsTold (word : UInt32) (size : Nat) : Prop := size = word.toNat ∨ size = widened word

/-- Sizes are told from headers: the size fields of the known version, else zeros. -/
structure TellsSizes (tell : Bytes → FrameSizes) : Prop where
  /-- The size fields of a header of the known version are told. -/
  known : ∀ bytes header, Header.parse? bytes = some header → header.version = knownVersion →
    IsTold header.contentSize (tell bytes).content ∧ IsTold header.frameSize (tell bytes).frame ∧
      IsTold header.blockSize (tell bytes).block
  /-- Of another version nothing is told. -/
  foreign : ∀ bytes header, Header.parse? bytes = some header → header.version ≠ knownVersion →
    tell bytes = ⟨0, 0, 0⟩

/-- A library takes no frame of another version apart. -/
def Library.RefusesForeign (library : Library) : Prop :=
  ∀ frame header size, Header.parse? frame = some header → header.version ≠ knownVersion →
    ∃ alarm, library.decompress frame size = .error alarm

/-- The same library, if it does not tell the sizes of frames. -/
def Library.withoutSizes (library : Library) : Library := { library with frameSizes? := none }

/-- A byte string begins with a frame of another version that declares no content. -/
def HoldsForeignEmpty (bytes : Bytes) : Prop :=
  ∃ header frame tail, IsFrame header frame ∧ bytes = frame ++ tail ∧
    header.version ≠ knownVersion ∧ header.contentSize.toNat = 0

/-- A library is usable if it lacks nothing and has headers of the right size. -/
theorem usable_iff {library : Library} {journal : Journal} :
    library.IsUsable journal ↔
      EntryPoint.all.filter library.lacking.contains = [] ∧ library.overhead = headerSize ∧
        journal = [⟨.debug, .bloscLibrary, "Loaded blosc " ++ library.version⟩] := by
  simp only [Library.IsUsable, Library.load]
  split
  · rename_i nothing
    by_cases fits : library.overhead = headerSize
    · simp [fits, nothing, eq_comm]
    · simp [fits]
  · rename_i missing
    constructor
    · intro impossible
      cases impossible
    · rintro ⟨nothing, _⟩
      exact absurd nothing missing

/-- Whether a library is usable does not depend on its telling sizes. -/
theorem usable_withoutSizes_iff {library : Library} {journal : Journal} :
    library.withoutSizes.IsUsable journal ↔ library.IsUsable journal := by
  rw [usable_iff, usable_iff]
  rfl

/-- A word and the size that is told for it are the same if one of them is within the limits
of the format, since a sign only makes large numbers larger. -/
theorem IsTold.eq_toNat {word : UInt32} {size : Nat} (told : IsTold word size)
    (small : size ≤ maxContentSize + headerSize ∨ word.toNat ≤ maxContentSize + headerSize) :
    size = word.toNat := by
  rcases told with same | same
  · exact same
  · rw [widened] at same
    simp only [maxContentSize, headerSize] at small
    split at same <;> omega

section Telling

variable {library : Library} {tell : Bytes → FrameSizes} (provided : library.frameSizes? = some tell)
  (tells : TellsSizes tell)

include provided

/-- Sizes that are told pass if they are within the limits. -/
theorem introspect_told_iff {bytes : Bytes} {sizes : FrameSizes} :
    library.introspect (bytes.take headerSize) = .ok sizes ↔
      sizes.content ≤ maxContentSize ∧ sizes.frame ≤ maxContentSize + headerSize ∧
        sizes = tell (bytes.take headerSize) := by
  simp only [Library.introspect, provided, checkLimits_eq_ok_iff, List.take_take, Nat.min_self]
  constructor
  · rintro ⟨content_le, frame_le, rfl⟩
    exact ⟨content_le, frame_le, rfl⟩
  · rintro ⟨content_le, frame_le, rfl⟩
    exact ⟨content_le, frame_le, rfl⟩

include tells

/-- One frame to a library that tells sizes is a frame of the known version under its header,
and the told size of the content is the declared one.

Proof: of another version a frame of no bytes would be told, but there is a header. -/
theorem Library.Delimits.isFrame_of_told {sizes : FrameSizes} {frame : Bytes}
    (delimited : library.Delimits sizes frame) :
    ∃ header, IsFrame header frame ∧ header.version = knownVersion ∧
      sizes.content = header.contentSize.toNat := by
  obtain ⟨content_le, frame_le, told⟩ := (introspect_told_iff provided).mp delimited.introspected
  have long := delimited.headerSize_le
  have whole := delimited.whole
  obtain ⟨header, parsed⟩ := Header.exists_parse?_of_le long
  have front := (Header.parse?_take frame long).trans parsed
  by_cases known : header.version = knownVersion
  · obtain ⟨content_told, frame_told, _⟩ := tells.known _ _ front known
    rw [← told] at content_told frame_told
    have content_same := content_told.eq_toNat (.inl (Nat.le_add_right_of_le content_le))
    have frame_same := frame_told.eq_toNat (.inl frame_le)
    refine ⟨header, ⟨Header.parse?_eq_some_iff.mp parsed, ?_, ?_, ?_⟩, known, content_same⟩
    · rw [← frame_same, whole]
    · rw [← content_same]
      exact content_le
    · rw [← whole]
      exact frame_le
  · have nothing := tells.foreign _ _ front known
    rw [told, nothing] at whole
    have empty : frame.length = 0 := whole.symm
    simp only [headerSize] at long
    omega

/-- A frame of the known version under a header is one frame to a library that tells sizes,
and the declared size of the content is told. -/
theorem IsFrame.delimits_of_told {header : Header} {frame : Bytes} (framed : IsFrame header frame)
    (known : header.version = knownVersion) :
    ∃ sizes, library.Delimits sizes frame ∧ sizes.content = header.contentSize.toNat := by
  have long := framed.headerSize_le
  have parsed := Header.parse?_eq_some_iff.mpr framed.begins
  have front := (Header.parse?_take frame long).trans parsed
  obtain ⟨content_told, frame_told, _⟩ := tells.known _ _ front known
  have frame_le : header.frameSize.toNat ≤ maxContentSize + headerSize := by
    rw [framed.whole]
    exact framed.frame_le
  have content_same := content_told.eq_toNat (.inr (Nat.le_add_right_of_le framed.content_le))
  have frame_same := frame_told.eq_toNat (.inr frame_le)
  refine ⟨tell (frame.take headerSize), ⟨long, ?_, ?_⟩, content_same⟩
  · rw [introspect_told_iff provided]
    exact ⟨content_same ▸ framed.content_le, frame_same ▸ frame_le, rfl⟩
  · rw [frame_same, framed.whole]

/-- A library that tells sizes takes a byte string apart exactly if it begins with a frame of
the known version of which the library gives a content of the declared size. -/
theorem takes_told_iff {bytes content tail : Bytes} :
    library.Takes bytes content tail ↔
      ∃ header frame, IsFrame header frame ∧ header.version = knownVersion ∧
        bytes = frame ++ tail ∧
        library.decodeIn (m := Id) Library.decompress frame header.contentSize.toNat =
          .ok content := by
  constructor
  · rintro ⟨sizes, frame, delimited, held, given⟩
    obtain ⟨header, framed, known, same⟩ := delimited.isFrame_of_told provided tells
    exact ⟨header, frame, framed, known, held, same ▸ given⟩
  · rintro ⟨header, frame, framed, known, held, given⟩
    obtain ⟨sizes, delimited, same⟩ := framed.delimits_of_told provided tells known
    exact ⟨sizes, frame, delimited, held, same ▸ given⟩

end Telling

/-- A library that refuses other versions gives no content of a frame of another version,
unless the frame declares none. -/
theorem Library.RefusesForeign.empty_of_decodeIn {library : Library}
    (refuses : library.RefusesForeign) {header : Header} {frame content : Bytes}
    (framed : IsFrame header frame) (foreign : header.version ≠ knownVersion)
    (given : library.decodeIn (m := Id) Library.decompress frame header.contentSize.toNat =
      .ok content) : header.contentSize.toNat = 0 := by
  by_cases empty : header.contentSize.toNat = 0
  · exact empty
  · obtain ⟨alarm, refused⟩ := refuses frame header header.contentSize.toNat
      (Header.parse?_eq_some_iff.mpr framed.begins) foreign
    rw [Library.decodeIn, if_neg empty, refused] at given
    cases given

/-- A byte string begins with one frame only, under one header. -/
theorem IsFrame.header_unique {first second : Header} {frame other tail behind : Bytes}
    (framed : IsFrame first frame) (framed_too : IsFrame second other)
    (same : frame ++ tail = other ++ behind) : first = second := by
  have parsed := framed.ofBytes_append tail
  rw [same, framed_too.ofBytes_append behind] at parsed
  exact (Except.ok.inj parsed).symm

/-- Whether the sizes are told by the library or read from the fixed layout, the decoder
succeeds on the same sources and then writes and leaves the same, exactly unless a usable
library meets a source that begins with a frame of another version without content. The
sources may be read by different schedules.

Proof: both ways begin with a frame under its header. Told sizes ask for the known version
besides; on the fixed layout the library sees to that, except where it is not asked. -/
theorem uncompress_agreesWith_iff {library : Library} {tell : Bytes → FrameSizes}
    (provided : library.frameSizes? = some tell) (tells : TellsSizes tell)
    (refuses : library.RefusesForeign) {left right : Source} (same : left.rest = right.rest) :
    (uncompress (some library) left).AgreesWith (uncompress (some library.withoutSizes) right) ↔
      ¬ ((∃ journal, library.IsUsable journal) ∧ HoldsForeignEmpty left.rest) := by
  have fixed : library.withoutSizes.frameSizes? = none := rfl
  rw [Transfer.agreesWith_iff]
  simp only [uncompress_gives_iff, usable_withoutSizes_iff, ← same]
  constructor
  · rintro alike ⟨usable, header, frame, tail, framed, held, foreign, empty⟩
    have nothing : library.withoutSizes.decodeIn (m := Id) Library.decompress frame
        header.contentSize.toNat = .ok [] := by
      rw [Library.decodeIn, if_pos empty]
      rfl
    have taken := (takes_fixed_iff fixed).mpr ⟨header, frame, framed, held, nothing⟩
    obtain ⟨_, told⟩ := (alike [] tail).mpr ⟨usable, taken⟩
    obtain ⟨found, other, framed_too, known, held_too, _⟩ := (takes_told_iff provided tells).mp told
    have unique := framed.header_unique framed_too (held.symm.trans held_too)
    exact foreign (unique ▸ known)
  · intro ordinary content tail
    constructor
    · rintro ⟨usable, taken⟩
      obtain ⟨header, frame, framed, _, held, given⟩ := (takes_told_iff provided tells).mp taken
      exact ⟨usable, (takes_fixed_iff fixed).mpr ⟨header, frame, framed, held, given⟩⟩
    · rintro ⟨usable, taken⟩
      obtain ⟨header, frame, framed, held, given⟩ := (takes_fixed_iff fixed).mp taken
      have known : header.version = knownVersion := by
        by_cases known : header.version = knownVersion
        · exact known
        · have empty := refuses.empty_of_decodeIn framed known given
          exact absurd ⟨usable, header, frame, tail, framed, held, known, empty⟩ ordinary
      exact ⟨usable, (takes_told_iff provided tells).mpr ⟨header, frame, framed, known, held, given⟩⟩

/-- The standard library tells the sizes of headers. -/
theorem tellsSizes_nativeSizes : TellsSizes nativeSizes where
  known := by
    intro bytes header parsed known
    simp only [nativeSizes, parsed, known, knownVersion, if_true]
    exact ⟨.inr rfl, .inr rfl, .inr rfl⟩
  foreign := by
    intro bytes header parsed foreign
    simp only [nativeSizes, parsed, show ¬ header.version = 2 from foreign, if_false]

/-- The standard library takes no frame of another version apart. -/
theorem exists_unpack_foreign {frame : Bytes} {header : Header}
    (parsed : Header.parse? frame = some header) (foreign : header.version ≠ knownVersion) :
    ∃ refusal, unpack frame = .error refusal := by
  have other : ¬ header.version = 2 := foreign
  simp only [unpack, parsed]
  split
  · exact ⟨_, rfl⟩
  · split
    · exact ⟨_, rfl⟩
    · simp [other]

/-- The standard library, if it tells the sizes of frames. -/
def Library.telling : Library := { Library.standard with frameSizes? := some nativeSizes }

/-- It refuses other versions. -/
theorem refusesForeign_telling : Library.telling.RefusesForeign := by
  intro frame header size parsed foreign
  obtain ⟨refusal, refused⟩ := exists_unpack_foreign parsed foreign
  simp only [Library.telling, Library.standard, decompressStandard, refused]
  split
  · exact ⟨_, rfl⟩
  · exact ⟨_, rfl⟩

/-- It is usable. -/
theorem usable_telling :
    Library.telling.IsUsable [⟨.debug, .bloscLibrary, "Loaded blosc 1.21.7.dev"⟩] := rfl

/-- The frame of three bytes has the known version: both ways agree on it, though one of them
reads it five bytes at a time and the other one at once. -/
theorem threeByteFrame_agrees :
    (uncompress (some .telling) (.limited (threeByteFrame ++ [7]) 5)).AgreesWith
      (uncompress (some Library.telling.withoutSizes) (.ofBytes (threeByteFrame ++ [7]))) := by
  have ordinary : ¬ ((∃ journal, Library.telling.IsUsable journal) ∧
      HoldsForeignEmpty (threeByteFrame ++ [7])) := by
    rintro ⟨_, header, frame, tail, framed, held, foreign, _⟩
    have parsed := framed.ofBytes_append tail
    rw [← held] at parsed
    obtain rfl : ⟨2, 1, 0x33, 1, 3, 3, 19⟩ = header := Except.ok.inj parsed
    exact foreign rfl
  have same : (Source.limited (threeByteFrame ++ [7]) 5).rest =
      (Source.ofBytes (threeByteFrame ++ [7])).rest := rfl
  rw [uncompress_agreesWith_iff rfl tellsSizes_nativeSizes refusesForeign_telling same]
  exact ordinary

/-- A header of version three that declares no content and no payload. -/
def foreignHeader : Header := ⟨3, 1, 0, 1, 0, 0, 16⟩

/-- The header of version three is a whole frame. -/
theorem isFrame_foreignHeader : IsFrame foreignHeader foreignHeader.toBytes :=
  ⟨List.prefix_refl _, rfl, by decide, by decide⟩

/-- On the fixed layout a frame of version three without content is accepted as an empty
chunk; with the sizes that the library tells it is not. -/
theorem foreign_empty_frame_accepted :
    (uncompress (some Library.telling.withoutSizes) (.ofBytes foreignHeader.toBytes)).Gives [] [] ∧
      ¬ (uncompress (some .telling) (.ofBytes foreignHeader.toBytes)).AgreesWith
        (uncompress (some Library.telling.withoutSizes) (.ofBytes foreignHeader.toBytes)) := by
  have usable := usable_withoutSizes_iff.mpr usable_telling
  have gives : (uncompress (some Library.telling.withoutSizes)
      (.ofBytes foreignHeader.toBytes)).Gives [] [] := by
    rw [uncompress_gives_iff]
    exact ⟨⟨_, usable⟩, (takes_fixed_iff rfl).mpr
      ⟨foreignHeader, foreignHeader.toBytes, isFrame_foreignHeader, rfl, rfl⟩⟩
  refine ⟨gives, ?_⟩
  intro agrees
  obtain ⟨_, told⟩ := uncompress_gives_iff.mp ((Transfer.agreesWith_iff.mp agrees [] []).mpr gives)
  obtain ⟨header, frame, framed, known, held, _⟩ :=
    (takes_told_iff rfl tellsSizes_nativeSizes).mp told
  have whole : foreignHeader.toBytes ++ [] = frame ++ [] := (List.append_nil _).trans held
  have unique := isFrame_foreignHeader.header_unique framed whole
  exact absurd (unique ▸ known) (by decide)

end ChunkCodecs.Blosc
