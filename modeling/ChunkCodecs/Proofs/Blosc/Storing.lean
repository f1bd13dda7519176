import ChunkCodecs.Blosc.Standard
import ChunkCodecs.Proofs.Blosc.Framing

/-!
# Contents that are stored as they are

The standard library stores a content as it is at level zero and if it is short. The
frame is then a header in front of the content, and taking it apart is cutting the
header off. What has to be shown is that the sizes of such a header pass the checks of
the library for every setting.
-/

namespace ChunkCodecs.Blosc

/-- A library gives back a content that it compressed with some settings: it takes apart
the frame at the front of the buffer that it returned, as long as the sizes say that are
read from there, into a destination of the content's size. -/
def Library.GivesBack (library : Library) (settings : Settings) (content : Bytes) : Prop :=
  ∀ buffer sizes, library.compress settings content = .ok buffer →
    library.introspect (buffer.take headerSize) = .ok sizes →
    library.decompress (buffer.take sizes.frame) content.length = .ok ⟨content, rfl⟩

/-- Whether the standard library stores a content as it is, whatever is in it. -/
def IsKept (settings : Settings) (content : Bytes) : Prop :=
  settings.level.val = 0 ∨ content.length < minContentSize

instance (settings : Settings) (content : Bytes) : Decidable (IsKept settings content) :=
  inferInstanceAs (Decidable (_ ∨ _))

/-- The blocks of a content that is kept are neither empty nor larger than the content
or than a block can be. -/
theorem blockSizeFor_bounds {settings : Settings} {content : Bytes}
    (kept : IsKept settings content) (nonempty : content ≠ []) :
    0 < blockSizeFor settings content.length ∧
      blockSizeFor settings content.length ≤ content.length ∧
      blockSizeFor settings content.length ≤ maxBlockSize := by
  have positive : 0 < content.length := List.length_pos_iff.mpr nonempty
  have chosen : chosenBlockSize settings.compressor 0 ≤ 16384 ∧
      0 < chosenBlockSize settings.compressor 0 := by
    cases settings.compressor <;> decide
  simp only [blockSizeFor, Nat.ne_of_gt positive, if_false, maxBlockSize]
  rcases kept with level | short
  · simp only [level, Nat.lt_irrefl, decide_false, Bool.false_and, Bool.false_eq_true, if_false,
      minPartSize, standardBlockSize]
    split
    · omega
    · split <;> omega
  · have not_long : ¬ standardBlockSize ≤ content.length := by
      simp only [minContentSize, standardBlockSize] at short ⊢
      omega
    simp only [minContentSize] at short
    simp only [minPartSize, not_long, if_false]
    split <;> split <;> omega

/-- The flags of a content that is kept say so, whatever filter, compressor and division
they tell besides, and set no bit that is reserved. -/
theorem stored_flags (shuffle : Shuffle) (compressor : Compressor) (undivided : Bool) :
    let flags := UInt8.ofNat
      (shuffle.flag + (if undivided then 0 else 0x10) + 32 * compressor.format.code + 2)
    (flags &&& 2 != 0) = true ∧ flags &&& 0x08 = 0 := by
  cases shuffle <;> cases compressor <;> cases undivided <;> decide

/-- A header stands in front of a content that is stored as it is: it says so, and it
declares sizes that such a frame can have. -/
structure Stores (header : Header) (content : Bytes) : Prop where
  /-- The version of the format. -/
  version : header.version = 2
  /-- The header says that the content is stored. -/
  stored : header.isStored = true
  /-- No reserved flag is set. -/
  unreserved : header.flags &&& 0x08 = 0
  /-- Elements are single bytes. -/
  element : header.elementSize = 1
  /-- The content has the declared size. -/
  size : header.contentSize.toNat = content.length
  /-- The frame is the header and the content. -/
  frame : header.frameSize.toNat = content.length + headerSize
  /-- Blocks are not empty. -/
  block_pos : 0 < header.blockSize.toNat
  /-- A block is no larger than the content. -/
  block_le : header.blockSize.toNat ≤ content.length
  /-- A block is no larger than a block can be. -/
  block_max : header.blockSize.toNat ≤ maxBlockSize
  /-- The content is no larger than a content can be. -/
  content_le : content.length ≤ maxContentSize

namespace Stores

variable {header : Header} {content : Bytes}

/-- A stored content is taken apart by cutting the header off. -/
theorem unpack (stores : Stores header content) :
    Blosc.unpack (header.toBytes ++ content) = .ok content := by
  have some_bytes : content.length ≠ 0 := by
    have pos := stores.block_pos
    have le := stores.block_le
    omega
  have block_pos := Nat.ne_of_gt stores.block_pos
  have block_le := Nat.not_lt.mpr stores.block_le
  have block_max := Nat.not_lt.mpr stores.block_max
  have cut : (header.toBytes ++ content).drop headerSize = content := by
    rw [List.drop_append_of_le_length (Nat.le_of_eq header.toBytes_length.symm),
      List.drop_of_length_le (Nat.le_of_eq header.toBytes_length), List.nil_append]
  rw [Blosc.unpack, Header.parse?_toBytes_append]
  simp [stores.size, some_bytes, stores.frame, stores.element, stores.version, stores.stored,
    stores.unreserved, slice, cut, block_pos, block_le, block_max]

/-- The standard library fills a destination of the content's size with the content. -/
theorem decompressStandard (stores : Stores header content) :
    Blosc.decompressStandard ((header.toBytes ++ content).take header.frameSize.toNat)
      content.length = .ok ⟨content, rfl⟩ := by
  have all : (header.toBytes ++ content).take header.frameSize.toNat =
      header.toBytes ++ content := by
    apply List.take_of_length_le
    have lengths : (header.toBytes ++ content).length = headerSize + content.length := by
      rw [List.length_append, Header.toBytes_length]
    have frame := stores.frame
    omega
  have needed : (nativeSizes (header.toBytes ++ content)).content = content.length := by
    have small := stores.content_le
    simp only [maxContentSize, headerSize] at small
    simp only [nativeSizes, Header.parse?_toBytes_append, stores.version, if_true, widened,
      stores.size]
    split <;> omega
  have filled : fill content.length content = ⟨content, rfl⟩ := by
    apply Subtype.ext
    simp [fill]
  rw [Blosc.decompressStandard, all, stores.unpack]
  simp [needed, filled]

end Stores

/-- A content that is kept is packed as a header that stores it and the content. -/
theorem pack_kept {settings : Settings} {content : Bytes} (kept : IsKept settings content)
    (nonempty : content ≠ []) (fits : content.length ≤ maxContentSize) :
    ∃ header, Stores header content ∧ pack settings content = header.toBytes ++ content := by
  obtain ⟨block_pos, block_le, block_max⟩ := blockSizeFor_bounds kept nonempty
  obtain ⟨flags_stored, flags_unreserved⟩ := stored_flags settings.shuffle settings.compressor
    (settings.compressor.divides (blockSizeFor settings content.length))
  have limit : maxContentSize + headerSize < 2 ^ 32 := by decide
  have size : (UInt32.ofNat content.length).toNat = content.length := by
    rw [UInt32.toNat_ofNat']
    omega
  have block : (UInt32.ofNat (blockSizeFor settings content.length)).toNat =
      blockSizeFor settings content.length := by
    rw [UInt32.toNat_ofNat']
    omega
  have frame : (UInt32.ofNat (headerSize + content.length)).toNat = content.length + headerSize := by
    rw [UInt32.toNat_ofNat', Nat.add_comm]
    omega
  have stored : settings.level.val = 0 || content.length < minContentSize := by
    simpa [IsKept] using kept
  simp only [pack, stored, if_true]
  refine ⟨_, ?_, rfl⟩
  exact {
    version := rfl
    stored := flags_stored
    unreserved := flags_unreserved
    element := rfl
    size := size
    frame := frame
    block_pos := Nat.lt_of_lt_of_eq block_pos block.symm
    block_le := Nat.le_trans (Nat.le_of_eq block) block_le
    block_max := Nat.le_trans (Nat.le_of_eq block) block_max
    content_le := fits }

/-- The standard library gives back every content that it keeps. -/
theorem standard_givesBack {settings : Settings} {content : Bytes}
    (kept : IsKept settings content) (nonempty : content ≠ [])
    (fits : content.length ≤ maxContentSize) : Library.standard.GivesBack settings content := by
  intro buffer sizes returned looked
  obtain ⟨found, stores, packed⟩ := pack_kept kept nonempty fits
  have whole : buffer = found.toBytes ++ content := by
    simp only [Library.standard, compressStandard, packed] at returned
    split at returned
    · cases returned
    · split at returned
      · cases returned
      · exact (Except.ok.inj returned).symm
  obtain ⟨header, parsed, _, _, _, rfl⟩ := (introspect_eq_ok_iff rfl).mp looked
  have front : buffer.take headerSize = found.toBytes := by
    rw [whole, List.take_append_of_le_length (Nat.le_of_eq found.toBytes_length.symm),
      List.take_of_length_le (Nat.le_of_eq found.toBytes_length)]
  have same : header = found := by
    rw [front, ← List.append_nil found.toBytes, Header.parse?_toBytes_append] at parsed
    exact (Option.some.inj parsed).symm
  rw [whole, same]
  exact stores.decompressStandard

end ChunkCodecs.Blosc
