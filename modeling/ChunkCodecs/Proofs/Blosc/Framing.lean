import ChunkCodecs.Blosc.Chunk
import ChunkCodecs.Proofs.Blosc.Header
import ChunkCodecs.Proofs.Reading

/-!
# Frames between the encoder and the decoder

The encoder trusts nothing that a library returns: it checks the sizes that are read
from the header before it cuts a frame out of the buffer. The decoder trusts nothing
that it reads.

What both sides agree on is one predicate on byte strings: that the sizes which the
library reads say that they are exactly one frame. Whatever the library returned, the
encoder gives such a frame or fails; and in front of such a frame the decoder gets as
far as the library, whatever follows the frame and however the source is read. Where the
sizes are read from the fixed layout, such a frame is one under its header.
-/

namespace ChunkCodecs.Blosc

/-- A byte string is exactly one frame under a header: it begins with the header, is
as long as the header declares, and declares no more than the format can hold. -/
structure IsFrame (header : Header) (frame : Bytes) : Prop where
  /-- The frame begins with the header. -/
  begins : header.toBytes <+: frame
  /-- The frame is as long as the header declares. -/
  whole : header.frameSize.toNat = frame.length
  /-- The content is no larger than the format can hold. -/
  content_le : header.contentSize.toNat ≤ maxContentSize
  /-- The frame is no larger than the format can hold. -/
  frame_le : frame.length ≤ maxContentSize + headerSize

/-- A frame is no shorter than its header. -/
theorem IsFrame.headerSize_le {header : Header} {frame : Bytes} (framed : IsFrame header frame) :
    headerSize ≤ frame.length := by
  have bound := framed.begins.length_le
  rwa [Header.toBytes_length] at bound

/-- The header of a frame is parsed from it, whatever follows the frame. -/
theorem IsFrame.ofBytes_append {header : Header} {frame : Bytes} (framed : IsFrame header frame)
    (tail : Bytes) : Header.ofBytes (frame ++ tail) = .ok header := by
  have begins : header.toBytes <+: frame ++ tail := framed.begins.trans (List.prefix_append _ _)
  have large : headerSize ≤ header.frameSize.toNat := by
    rw [framed.whole]
    exact framed.headerSize_le
  exact Header.ofBytes_eq_ok_iff.mpr ⟨begins, large⟩

/-- The header of a frame is parsed from it. -/
theorem IsFrame.ofBytes {header : Header} {frame : Bytes} (framed : IsFrame header frame) :
    Header.ofBytes frame = .ok header := by
  have parsed := framed.ofBytes_append []
  rwa [List.append_nil] at parsed

/-- Sizes within the limits pass, others are malformed. -/
theorem checkLimits_cases (sizes : FrameSizes) :
    (sizes.content ≤ maxContentSize ∧ sizes.frame ≤ maxContentSize + headerSize) ∧
        checkLimits sizes = .ok sizes ∨
      ¬ (sizes.content ≤ maxContentSize ∧ sizes.frame ≤ maxContentSize + headerSize) ∧
        checkLimits sizes = .error (.malformed (.sizeLimit sizes.content sizes.frame)) := by
  unfold checkLimits
  split
  · next beyond =>
    simp only [Bool.or_eq_true, decide_eq_true_eq] at beyond
    exact .inr ⟨by omega, rfl⟩
  · next within =>
    simp only [Bool.or_eq_true, decide_eq_true_eq, not_or, Nat.not_lt] at within
    exact .inl ⟨within, rfl⟩

/-- Sizes pass the limits exactly if the format can hold them, and pass unchanged. -/
theorem checkLimits_eq_ok_iff {sizes passed : FrameSizes} :
    checkLimits sizes = .ok passed ↔
      sizes.content ≤ maxContentSize ∧ sizes.frame ≤ maxContentSize + headerSize ∧
        passed = sizes := by
  rcases checkLimits_cases sizes with ⟨⟨content, frame⟩, accepted⟩ | ⟨beyond, refused⟩
  · rw [accepted]
    constructor
    · intro same
      exact ⟨content, frame, (Except.ok.inj same).symm⟩
    · rintro ⟨_, _, rfl⟩
      rfl
  · rw [refused]
    constructor
    · intro impossible
      cases impossible
    · rintro ⟨content, frame, _⟩
      exact absurd ⟨content, frame⟩ beyond

/-- On the fixed layout a frame smaller than its header is refused, and the limits decide on
every other one. -/
theorem introspect_fixed {library : Library} (fixed : library.frameSizes? = none)
    {bytes : Bytes} {header : Header} (parsed : Header.parse? bytes = some header) :
    library.introspect bytes =
      if header.frameSize.toNat < headerSize then
        .error (.malformed (.frameSize header.frameSize.toNat))
      else checkLimits header.sizes := by
  simp only [Library.introspect, fixed, Header.ofBytes, parsed]
  split <;> rfl

/-- On the fixed layout a header is accepted exactly if the frame is no smaller than
its header and within the limits, and then its declared sizes are given. -/
theorem introspect_eq_ok_iff {library : Library} (fixed : library.frameSizes? = none)
    {bytes : Bytes} {sizes : FrameSizes} :
    library.introspect bytes = .ok sizes ↔
      ∃ header, Header.parse? bytes = some header ∧ headerSize ≤ header.frameSize.toNat ∧
        header.contentSize.toNat ≤ maxContentSize ∧
        header.frameSize.toNat ≤ maxContentSize + headerSize ∧ sizes = header.sizes := by
  cases parsed : Header.parse? bytes with
  | none => simp [Library.introspect, fixed, Header.ofBytes, parsed, Except.bind]
  | some header =>
    rw [introspect_fixed fixed parsed]
    by_cases small : header.frameSize.toNat < headerSize
    · simp [small, Nat.not_le.mpr small]
    · simp [small, checkLimits_eq_ok_iff, Nat.not_lt.mp small, Header.sizes]

/-- A frame is cut from a buffer exactly if its declared size is in range and it
declares the size of the content; it is then the front of the buffer. -/
theorem trimFrame_eq_ok_iff {buffer frame : Bytes} {sizes : FrameSizes} {size : Nat} :
    trimFrame buffer sizes size = .ok frame ↔
      headerSize ≤ sizes.frame ∧ sizes.frame ≤ frameLimit buffer size ∧ sizes.content = size ∧
        frame = buffer.take sizes.frame := by
  unfold trimFrame
  split
  · rename_i outside
    simp only [Bool.or_eq_true, decide_eq_true_eq] at outside
    constructor
    · intro impossible
      cases impossible
    · intro inside
      omega
  · rename_i inside
    simp only [Bool.or_eq_true, decide_eq_true_eq, not_or, Nat.not_lt] at inside
    split
    · rename_i other
      simp [other]
    · rename_i same
      simp only [ne_eq, Decidable.not_not] at same
      simp [inside, same, eq_comm]

/-- What a library says of the sizes of a byte string, from its first bytes, is that it is
one frame. -/
structure Library.Delimits (library : Library) (sizes : FrameSizes) (frame : Bytes) : Prop where
  /-- There is a header. -/
  headerSize_le : headerSize ≤ frame.length
  /-- The sizes are read from it. -/
  introspected : library.introspect (frame.take headerSize) = .ok sizes
  /-- The frame is as long as the sizes say. -/
  whole : sizes.frame = frame.length

/-- A frame under a header is one frame to every library that reads the fixed layout. -/
theorem IsFrame.delimits {library : Library} (fixed : library.frameSizes? = none)
    {header : Header} {frame : Bytes} (framed : IsFrame header frame) :
    library.Delimits header.sizes frame := by
  have long := framed.headerSize_le
  refine ⟨long, ?_, framed.whole⟩
  rw [introspect_eq_ok_iff fixed]
  refine ⟨header, ?_, ?_, framed.content_le, ?_, rfl⟩
  · rw [Header.parse?_take frame long]
    exact Header.parse?_eq_some_iff.mpr framed.begins
  · rw [framed.whole]
    exact long
  · rw [framed.whole]
    exact framed.frame_le

/-- One frame to a library that reads the fixed layout is a frame under its header, which
declares the sizes. -/
theorem Library.Delimits.isFrame {library : Library} (fixed : library.frameSizes? = none)
    {sizes : FrameSizes} {frame : Bytes} (delimited : library.Delimits sizes frame) :
    ∃ header, IsFrame header frame ∧ sizes = header.sizes := by
  obtain ⟨header, parsed, _, content_le, frame_le, rfl⟩ :=
    (introspect_eq_ok_iff fixed).mp delimited.introspected
  have whole : header.frameSize.toNat = frame.length := delimited.whole
  rw [Header.parse?_take frame delimited.headerSize_le] at parsed
  refine ⟨header, ⟨Header.parse?_eq_some_iff.mp parsed, whole, content_le, ?_⟩, rfl⟩
  rw [← whole]
  exact frame_le

/-- A library makes a frame of a content: the frame is the front of the buffer that the library
returned, as long as is told for it. It is no shorter than a header and no longer than the buffer
and than the content with a header, and the size of the content is told for it as well. -/
def Library.Makes (tell : Telling) (library : Library) (settings : Settings)
    (content frame : Bytes) : Prop :=
  ∃ buffer sizes, library.compress settings content = .ok buffer ∧
    tell library (buffer.take headerSize) = .ok sizes ∧ headerSize ≤ sizes.frame ∧
    sizes.frame ≤ frameLimit buffer content.length ∧ sizes.content = content.length ∧
    frame = buffer.take sizes.frame

/-- The encoder gives exactly the frames that the library makes. -/
theorem encodeTold_eq_ok_iff {tell : Telling} {library : Library} {settings : Settings}
    {content frame : Bytes} :
    library.encodeTold tell settings content = .ok frame ↔
      library.Makes tell settings content frame := by
  constructor
  · intro made
    unfold Library.encodeTold at made
    split at made
    · cases made
    · next buffer returned =>
      simp only at made
      split at made
      · cases made
      · cases told : tell library (buffer.take headerSize) with
        | error fault =>
          rw [told] at made
          cases made
        | ok sizes =>
          rw [told] at made
          obtain ⟨long, short, declared, cut⟩ := trimFrame_eq_ok_iff.mp made
          exact ⟨buffer, sizes, returned, told, long, short, declared, cut⟩
  · rintro ⟨buffer, sizes, returned, told, long, short, declared, cut⟩
    have within : frameLimit buffer content.length ≤ buffer.length := Nat.min_le_left _ _
    have header : ¬ (buffer.take headerSize).length < headerSize := by
      rw [List.length_take]
      omega
    rw [Library.encodeTold, returned]
    simp only [header, if_false, told]
    exact trimFrame_eq_ok_iff.mpr ⟨long, short, declared, cut⟩

/-- What the encoder gives is one frame to the library, of the size of the content and at
most a header longer than the content; it is the front of what the library returned, cut
where the library says. Nothing is assumed of the library.

Proof: the sizes that the encoder has checked are read from the first bytes of the buffer,
which are those of the frame too, since a frame that passes is no shorter than a header. -/
theorem encode_delimits {library : Library} {settings : Settings} {content frame : Bytes}
    (made : library.encode settings content = .ok frame) :
    ∃ sizes buffer, library.Delimits sizes frame ∧ sizes.content = content.length ∧
      frame.length ≤ content.length + headerSize ∧
      library.compress settings content = .ok buffer ∧
      library.introspect (buffer.take headerSize) = .ok sizes ∧
      frame = buffer.take sizes.frame := by
  obtain ⟨buffer, sizes, returned, looked, large, inside, declared, rfl⟩ :=
    encodeTold_eq_ok_iff.mp made
  simp only [frameLimit] at inside
  have whole : (buffer.take sizes.frame).length = sizes.frame := by
    rw [List.length_take]
    omega
  have front : (buffer.take sizes.frame).take headerSize = buffer.take headerSize := by
    rw [List.take_take, Nat.min_eq_left large]
  refine ⟨sizes, buffer, ⟨?_, ?_, whole.symm⟩, declared, ?_, returned, looked, rfl⟩
  · rw [whole]
    exact large
  · rw [front]
    exact looked
  · rw [whole]
    omega

/-- On the fixed layout, what the encoder gives is a frame under the header that the
buffer of the library begins with. -/
theorem encode_isFrame {library : Library} (fixed : library.frameSizes? = none)
    {settings : Settings} {content frame : Bytes}
    (made : library.encode settings content = .ok frame) :
    ∃ header buffer, IsFrame header frame ∧ header.contentSize.toNat = content.length ∧
      frame.length ≤ content.length + headerSize ∧
      library.compress settings content = .ok buffer ∧
      Header.parse? buffer = some header ∧ frame = buffer.take header.frameSize.toNat := by
  obtain ⟨sizes, buffer, delimited, declared, bound, returned, looked, cut⟩ := encode_delimits made
  obtain ⟨header, framed, rfl⟩ := delimited.isFrame fixed
  refine ⟨header, buffer, framed, declared, bound, returned, ?_, cut⟩
  rw [Header.parse?_eq_some_iff]
  refine framed.begins.trans ?_
  rw [cut]
  exact List.take_prefix _ buffer

/-- Loading gives the library that was found, if it gives one. -/
theorem eq_of_load {found loaded : Library} {journal : Journal}
    (usable : Library.load (some found) = (.ok loaded, journal)) : loaded = found := by
  simp only [Library.load] at usable
  split at usable
  · split at usable
    · exact (Except.ok.inj (congrArg Prod.fst usable)).symm
    · cases usable
  · cases usable

/-- A library is usable if it can be loaded. -/
def Library.IsUsable (library : Library) (journal : Journal) : Prop :=
  Library.load (some library) = (.ok library, journal)

/-- A chunk that was compressed was encoded by a usable library. -/
theorem usable_and_encode_of_compress {library : Library} {settings : Settings} {source : Source}
    {frame : Bytes} (made : (compress (some library) settings source).result = .ok frame) :
    (∃ journal, library.IsUsable journal) ∧ library.encode settings source.rest = .ok frame := by
  simp only [compress, compressTold, Source.readAll] at made
  split at made
  · cases made
  · rename_i loaded journal usable
    obtain rfl := eq_of_load usable
    rw [Transfer.result_conclude] at made
    exact ⟨⟨journal, usable⟩, made⟩

/-- A usable library takes the frame behind the header, once a source is long enough to have
one. -/
theorem uncompressToldIn_of_usable {m : Type → Type} [Monad m] (tell : Telling) (ask : Asking m)
    {library : Library} {journal : Journal} (usable : library.IsUsable journal) {source : Source}
    (long : headerSize ≤ source.rest.length) :
    ∃ behind : Source, behind.rest = source.rest.drop headerSize ∧ behind.grant = source.grant ∧
      uncompressToldIn tell ask (some library) source =
        library.takeToldIn tell ask (source.rest.take headerSize) behind journal := by
  have loaded : Library.load (some library) = (.ok library, journal) := usable
  obtain ⟨behind, front, remaining, schedule⟩ := readPart_of_le "blosc header" long
  refine ⟨behind, remaining, schedule, ?_⟩
  rw [uncompressToldIn, front]
  simp only [loaded]

/-- In front of a frame the decoder asks the library for the content of exactly this
frame, in a destination of exactly the declared size, whatever follows the frame and
however the source is read; an empty content it does not ask for. What follows the
frame is left.

Proof: the header is the front of the source and gives the sizes of the frame; the part
that is read next is the rest of the frame, since the frame is as long as they say. -/
theorem uncompressIn_frame {m : Type → Type} [Monad m] (ask : Asking m)
    {library : Library} {journal : Journal} (usable : library.IsUsable journal)
    {sizes : FrameSizes} {frame tail : Bytes} (delimited : library.Delimits sizes frame)
    {source : Source} (held : source.rest = frame ++ tail) :
    ∃ ended : Source, ended.rest = tail ∧ ended.grant = source.grant ∧
      uncompressIn ask (some library) source =
        Transfer.conclude ended journal <$> library.decodeIn ask frame sizes.content := by
  have long := delimited.headerSize_le
  have enough : headerSize ≤ source.rest.length := by
    rw [held, List.length_append]
    omega
  obtain ⟨after, remaining, schedule, taken⟩ :=
    uncompressToldIn_of_usable Library.introspect ask usable enough
  have header_bytes : source.rest.take headerSize = frame.take headerSize := by
    rw [held, List.take_append_of_le_length long]
  have large : ¬ sizes.frame < headerSize := by
    rw [delimited.whole]
    exact Nat.not_lt.mpr long
  have behind : after.rest = frame.drop headerSize ++ tail := by
    rw [remaining, held, List.drop_append_of_le_length long]
  have payload_length : (frame.drop headerSize).length = sizes.frame - headerSize := by
    rw [List.length_drop, delimited.whole]
  have payload_there : sizes.frame - headerSize ≤ after.rest.length := by
    rw [behind, List.length_append, payload_length]
    omega
  obtain ⟨ended, payload, left, kept⟩ := readPart_of_le "blosc payload" payload_there
  rw [behind, ← payload_length, List.take_left] at payload
  rw [behind, ← payload_length, List.drop_left] at left
  refine ⟨ended, left, kept.trans schedule, ?_⟩
  rw [uncompressIn, taken, header_bytes, Library.takeToldIn]
  simp only [delimited.introspected, large, if_false]
  rw [← payload_length, payload]
  simp only [List.take_append_drop]

end ChunkCodecs.Blosc
