import ChunkCodecs.Blosc.Header

/-!
# Headers and their bytes

Parsing the front of a buffer and writing the header that was found are inverse: a
buffer has a header exactly if it begins with the sixteen bytes of that header. So
what follows the header has no influence on it, and a buffer that is long enough
always has one, whatever its bytes are. It is decoded if the frame that it declares is
no smaller than itself.
-/

namespace ChunkCodecs.Blosc.Header

/-- Four bytes are the writing of the word that they stand for. -/
theorem littleEndian_word {bytes : Bytes} (four : bytes.length = 4) :
    littleEndian 4 (UInt32.ofNat (littleEndianValue bytes)).toNat = bytes := by
  have bound := littleEndianValue_lt bytes
  rw [four] at bound
  have word : (UInt32.ofNat (littleEndianValue bytes)).toNat = littleEndianValue bytes := by
    rw [UInt32.toNat_ofNat']
    exact Nat.mod_eq_of_lt bound
  have written := littleEndian_littleEndianValue bytes
  rw [four] at written
  rw [word, written]

/-- A word is read back from the four bytes in which it is written. -/
theorem word_littleEndian (word : UInt32) :
    UInt32.ofNat (littleEndianValue (littleEndian 4 word.toNat)) = word := by
  rw [littleEndianValue_littleEndian 4 word.toNat word.toNat_lt]
  exact UInt32.ofNat_toNat

/-- A buffer that is long enough begins with sixteen bytes that are a header. -/
theorem exists_parse?_of_le {buffer : Bytes} (long : headerSize ≤ buffer.length) :
    ∃ header, parse? buffer = some header := by
  rcases buffer with _ | ⟨_, _ | ⟨_, _ | ⟨_, _ | ⟨_, _ | ⟨_, _ | ⟨_, _ | ⟨_, _ | ⟨_, _ | ⟨_, _ |
    ⟨_, _ | ⟨_, _ | ⟨_, _ | ⟨_, _ | ⟨_, _ | ⟨_, _ | ⟨_, rest⟩⟩⟩⟩⟩⟩⟩⟩⟩⟩⟩⟩⟩⟩⟩⟩
  case cons.cons.cons.cons.cons.cons.cons.cons.cons.cons.cons.cons.cons.cons.cons.cons =>
    exact ⟨_, rfl⟩
  all_goals
    simp only [headerSize, List.length_cons, List.length_nil] at long
    omega

/-- The header of a buffer is written in the first bytes of the buffer. -/
theorem toBytes_of_parse? {buffer : Bytes} {header : Header}
    (parsed : parse? buffer = some header) : header.toBytes = buffer.take headerSize := by
  unfold parse? at parsed
  split at parsed
  · cases parsed
    simp only [toBytes]
    rw [littleEndian_word rfl, littleEndian_word rfl, littleEndian_word rfl]
    rfl
  · cases parsed

/-- The bytes of a header are parsed as the header, whatever follows them. -/
theorem parse?_toBytes_append (header : Header) (further : Bytes) :
    parse? (header.toBytes ++ further) = some header := by
  have content := word_littleEndian header.contentSize
  have block := word_littleEndian header.blockSize
  have frame := word_littleEndian header.frameSize
  simp only [littleEndian] at content block frame
  simp only [toBytes, littleEndian, List.cons_append, List.nil_append, parse?]
  rw [content, block, frame]

/-- A buffer has a header exactly if it begins with the bytes of that header. -/
theorem parse?_eq_some_iff {buffer : Bytes} {header : Header} :
    parse? buffer = some header ↔ header.toBytes <+: buffer := by
  constructor
  · intro parsed
    rw [toBytes_of_parse? parsed]
    exact List.take_prefix headerSize buffer
  · rintro ⟨further, rfl⟩
    exact parse?_toBytes_append header further

/-- What follows a front that is long enough has no influence on the header. -/
theorem parse?_append {front : Bytes} (long : headerSize ≤ front.length) (further : Bytes) :
    parse? (front ++ further) = parse? front := by
  obtain ⟨header, parsed⟩ := exists_parse?_of_le long
  have begins := parse?_eq_some_iff.mp parsed
  rw [parsed, parse?_eq_some_iff]
  exact begins.trans (List.prefix_append front further)

/-- The first sixteen bytes of a buffer have the header of the buffer. -/
theorem parse?_take (buffer : Bytes) (long : headerSize ≤ buffer.length) :
    parse? (buffer.take headerSize) = parse? buffer := by
  have front : headerSize ≤ (buffer.take headerSize).length := by
    simp only [List.length_take]
    omega
  rw [← parse?_append front (buffer.drop headerSize), List.take_append_drop]

/-- A buffer is decoded to a header exactly if it begins with its bytes and the frame is no
smaller than the header. -/
theorem ofBytes_eq_ok_iff {buffer : Bytes} {header : Header} :
    ofBytes buffer = .ok header ↔
      header.toBytes <+: buffer ∧ headerSize ≤ header.frameSize.toNat := by
  rw [← parse?_eq_some_iff, ofBytes]
  cases parsed : parse? buffer with
  | none => simp
  | some found =>
    by_cases small : found.frameSize.toNat < headerSize
    · simp only [small, if_true, Option.some.injEq, reduceCtorEq, false_iff, not_and]
      rintro rfl
      exact Nat.not_le.mpr small
    · simp only [small, if_false, Except.ok.injEq, Option.some.injEq]
      constructor
      · rintro rfl
        exact ⟨rfl, Nat.not_lt.mp small⟩
      · exact And.left

/-- The bytes of a decoded header are the first sixteen of the buffer. -/
theorem toBytes_of_ofBytes {buffer : Bytes} {header : Header}
    (decoded : ofBytes buffer = .ok header) : header.toBytes = buffer.take headerSize :=
  toBytes_of_parse? (parse?_eq_some_iff.mpr (ofBytes_eq_ok_iff.mp decoded).1)

end ChunkCodecs.Blosc.Header
