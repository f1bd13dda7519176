import ChunkCodecs.Proofs.Blosc.Header

/-!
# The layout of a header

The seven fields of a header are numbers that are stored one behind the other without gaps:
four of one byte and three of four bytes, least significant byte first. Decoding finds these
numbers and nothing else: whatever the first sixteen bytes of a buffer are, writing the decoded
fields gives them back, and whatever numbers fit in the widths are decoded from their writing.

The only headers that are refused are those of buffers that are too short and those that declare
a frame smaller than its header, in the last four of the sixteen bytes.
-/

namespace ChunkCodecs.Blosc.Header

/-- The widths of the fields in bytes, in the order in which they are stored. -/
def widths : List Nat := [1, 1, 1, 1, 4, 4, 4]

/-- The fields as numbers, in the order in which they are stored. -/
def fields (header : Header) : List Nat :=
  [header.version.toNat, header.compressorVersion.toNat, header.flags.toNat,
    header.elementSize.toNat, header.contentSize.toNat, header.blockSize.toNat,
    header.frameSize.toNat]

/-- There is a number for each field, and it is in the range of the width of the field. -/
def AreInRange (numbers : List Nat) : Prop :=
  numbers.length = widths.length ∧ ∀ field ∈ widths.zip numbers, field.2 < 256 ^ field.1

/-- Numbers stored one behind the other, each in the width of its field. -/
def layOut (numbers : List Nat) : Bytes := (List.zipWith littleEndian widths numbers).flatten

/-- The number that stands where the size of the frame is stored. -/
def declaredSize (buffer : Bytes) : Nat := littleEndianValue (slice buffer 12 4)

/-- A byte is the writing of its number. -/
theorem littleEndian_byte (byte : UInt8) : littleEndian 1 byte.toNat = [byte] := by
  simp only [littleEndian, UInt8.ofNat_toNat]

/-- The fields of a header are laid out in its sixteen bytes. -/
theorem layOut_fields (header : Header) : layOut header.fields = header.toBytes := by
  simp [layOut, fields, widths, toBytes, littleEndian_byte]

/-- The fields of a header are in range. -/
theorem areInRange_fields (header : Header) : AreInRange header.fields := by
  refine ⟨rfl, ?_⟩
  simp only [widths, fields, List.zip_cons_cons, List.zip_nil_left, List.mem_cons,
    List.not_mem_nil, or_false]
  rintro field (rfl | rfl | rfl | rfl | rfl | rfl | rfl)
  · exact header.version.toNat_lt
  · exact header.compressorVersion.toNat_lt
  · exact header.flags.toNat_lt
  · exact header.elementSize.toNat_lt
  · exact header.contentSize.toNat_lt
  · exact header.blockSize.toNat_lt
  · exact header.frameSize.toNat_lt

/-- Numbers that are in range are the fields of a header. -/
theorem exists_fields_eq {numbers : List Nat} (inRange : AreInRange numbers) :
    ∃ header : Header, header.fields = numbers := by
  obtain ⟨count, fits⟩ := inRange
  match numbers, count with
  | [version, compressorVersion, flags, elementSize, contentSize, blockSize, frameSize], _ =>
    simp only [widths, List.zip_cons_cons, List.zip_nil_left, List.forall_mem_cons] at fits
    obtain ⟨version_lt, compressorVersion_lt, flags_lt, elementSize_lt, contentSize_lt,
      blockSize_lt, frameSize_lt, _⟩ := fits
    refine ⟨⟨.ofNat version, .ofNat compressorVersion, .ofNat flags, .ofNat elementSize,
      .ofNat contentSize, .ofNat blockSize, .ofNat frameSize⟩, ?_⟩
    simp only [fields, UInt8.toNat_ofNat', UInt32.toNat_ofNat', Nat.mod_eq_of_lt version_lt,
      Nat.mod_eq_of_lt compressorVersion_lt, Nat.mod_eq_of_lt flags_lt,
      Nat.mod_eq_of_lt elementSize_lt, Nat.mod_eq_of_lt contentSize_lt,
      Nat.mod_eq_of_lt blockSize_lt, Nat.mod_eq_of_lt frameSize_lt]

/-- The declared size of the frame is the last field of the header. -/
theorem declaredSize_of_parse? {buffer : Bytes} {header : Header}
    (parsed : parse? buffer = some header) : declaredSize buffer = header.frameSize.toNat := by
  obtain ⟨further, rfl⟩ := parse?_eq_some_iff.mp parsed
  have stored : slice (header.toBytes ++ further) 12 4 =
      littleEndian 4 header.frameSize.toNat := by
    simp [slice, toBytes, littleEndian]
  rw [declaredSize, stored, littleEndianValue_littleEndian 4 _ header.frameSize.toNat_lt]

/-- What follows the first sixteen bytes has no influence, also if they are refused. -/
theorem ofBytes_take_append {buffer : Bytes} (long : headerSize ≤ buffer.length)
    (further : Bytes) : ofBytes (buffer.take headerSize ++ further) = ofBytes buffer := by
  obtain ⟨header, parsed⟩ := exists_parse?_of_le long
  have front : headerSize ≤ (buffer.take headerSize).length := by
    rw [List.length_take]
    omega
  have same : parse? (buffer.take headerSize ++ further) = some header := by
    rw [parse?_append front, parse?_take buffer long, parsed]
  simp only [ofBytes, parsed, same]

/-- A buffer that is shorter than a header is refused with its length. -/
theorem ofBytes_of_short {buffer : Bytes} (short : buffer.length < headerSize) :
    ofBytes buffer = .error (.truncated (.shortHeader buffer.length)) := by
  have none_there : parse? buffer = none := by
    rw [Option.eq_none_iff_forall_ne_some]
    intro header parsed
    have long := (parse?_eq_some_iff.mp parsed).length_le
    rw [toBytes_length] at long
    exact Nat.not_le.mpr short long
  simp only [ofBytes, none_there]

/-- A header that declares a frame smaller than itself is refused with the declared size. -/
theorem ofBytes_of_small {buffer : Bytes} (long : headerSize ≤ buffer.length)
    (small : declaredSize buffer < headerSize) :
    ofBytes buffer = .error (.malformed (.frameSize (declaredSize buffer))) := by
  obtain ⟨header, parsed⟩ := exists_parse?_of_le long
  have declared := declaredSize_of_parse? parsed
  rw [declared] at small ⊢
  simp only [ofBytes, parsed, small, if_true]

/-- Any other header is decoded. -/
theorem exists_ofBytes {buffer : Bytes} (long : headerSize ≤ buffer.length)
    (large : headerSize ≤ declaredSize buffer) : ∃ header, ofBytes buffer = .ok header := by
  obtain ⟨header, parsed⟩ := exists_parse?_of_le long
  rw [declaredSize_of_parse? parsed] at large
  exact ⟨header, ofBytes_eq_ok_iff.mpr ⟨parse?_eq_some_iff.mp parsed, large⟩⟩

/-- Decoding is exact and faithful, for every buffer. It succeeds exactly if the buffer is as
long as a header and declares a frame that is no smaller; a shorter buffer is refused as
truncated, any other one as malformed. What follows the first sixteen bytes has no influence.
The fields that are decoded are in range, and laid out they are these sixteen bytes again, so no
buffer that differs in one of them is decoded to the same header. And all numbers in range, of
which the last one is no smaller than a header, are decoded from their layout. -/
theorem ofBytes_faithful (buffer : Bytes) :
    ((∃ header, ofBytes buffer = .ok header) ↔
        headerSize ≤ buffer.length ∧ headerSize ≤ declaredSize buffer) ∧
      (buffer.length < headerSize →
        ofBytes buffer = .error (.truncated (.shortHeader buffer.length))) ∧
      (headerSize ≤ buffer.length → declaredSize buffer < headerSize →
        ofBytes buffer = .error (.malformed (.frameSize (declaredSize buffer)))) ∧
      (headerSize ≤ buffer.length →
        ∀ further, ofBytes (buffer.take headerSize ++ further) = ofBytes buffer) ∧
      (∀ header, ofBytes buffer = .ok header →
        AreInRange header.fields ∧ layOut header.fields = buffer.take headerSize ∧
          ∀ other, other.take headerSize ≠ buffer.take headerSize →
            ofBytes other ≠ .ok header) ∧
      ∀ front frameSize further, AreInRange (front ++ [frameSize]) → headerSize ≤ frameSize →
        ∃ header, ofBytes (layOut (front ++ [frameSize]) ++ further) = .ok header ∧
          header.fields = front ++ [frameSize] := by
  refine ⟨⟨?_, ?_⟩, ofBytes_of_short, ofBytes_of_small, ofBytes_take_append, ?_, ?_⟩
  · rintro ⟨header, decoded⟩
    obtain ⟨begins, large⟩ := ofBytes_eq_ok_iff.mp decoded
    have long := begins.length_le
    rw [toBytes_length] at long
    have declared := declaredSize_of_parse? (parse?_eq_some_iff.mpr begins)
    exact ⟨long, declared.symm ▸ large⟩
  · rintro ⟨long, large⟩
    exact exists_ofBytes long large
  · intro header decoded
    have written := toBytes_of_ofBytes decoded
    refine ⟨areInRange_fields header, (layOut_fields header).trans written, ?_⟩
    intro other differs decoded_too
    exact differs ((toBytes_of_ofBytes decoded_too).symm.trans written)
  · intro front frameSize further inRange large
    obtain ⟨header, same⟩ := exists_fields_eq inRange
    have last : header.frameSize.toNat = frameSize := by
      have ends := congrArg List.getLast? same
      simpa [fields] using ends
    refine ⟨header, ?_, same⟩
    rw [← same, layOut_fields, ofBytes_eq_ok_iff, last]
    exact ⟨List.prefix_append _ _, large⟩

/-- Seven different numbers in front of another byte are decoded, and not to the same header if
the sizes of the block and of the frame are exchanged; without the last byte of their layout they
are refused as truncated, and with a frame of fifteen bytes as malformed. -/
theorem differentFields_decoded :
    (∃ header,
        ofBytes [2, 1, 129, 4, 64, 66, 15, 0, 100, 0, 0, 0, 40, 0, 0, 0, 7] = .ok header ∧
        header.fields = [2, 1, 129, 4, 1000000, 100, 40] ∧
        ofBytes [2, 1, 129, 4, 64, 66, 15, 0, 40, 0, 0, 0, 100, 0, 0, 0, 7] ≠ .ok header) ∧
      ofBytes [2, 1, 129, 4, 64, 66, 15, 0, 100, 0, 0, 0, 40, 0, 0] =
        .error (.truncated (.shortHeader 15)) ∧
      ofBytes [2, 1, 129, 4, 64, 66, 15, 0, 100, 0, 0, 0, 15, 0, 0, 0, 7] =
        .error (.malformed (.frameSize 15)) := by
  have inRange : AreInRange ([2, 1, 129, 4, 1000000, 100] ++ [40]) := ⟨rfl, by decide⟩
  obtain ⟨_, _, _, _, faithful, decodes⟩ :=
    ofBytes_faithful [2, 1, 129, 4, 64, 66, 15, 0, 100, 0, 0, 0, 40, 0, 0, 0, 7]
  obtain ⟨_, truncated, _⟩ :=
    ofBytes_faithful [2, 1, 129, 4, 64, 66, 15, 0, 100, 0, 0, 0, 40, 0, 0]
  obtain ⟨_, _, malformed, _⟩ :=
    ofBytes_faithful [2, 1, 129, 4, 64, 66, 15, 0, 100, 0, 0, 0, 15, 0, 0, 0, 7]
  obtain ⟨header, decoded, same⟩ :=
    decodes [2, 1, 129, 4, 1000000, 100] 40 [7] inRange (by decide)
  obtain ⟨_, _, different⟩ := faithful header decoded
  exact ⟨⟨header, decoded, same, different _ (by decide)⟩, truncated (by decide),
    malformed (by decide) (by decide)⟩

end ChunkCodecs.Blosc.Header
