import ChunkCodecs.Codec.Flow
import ChunkCodecs.Proofs.Deflate.Delimiting

/-!
# Contents that are stored in containers

A stored block is a mark in the first three bits of a byte, the length of the content and its
complement in four bytes, and the content as it is. The inflater takes the mark, skips to the
next byte, takes the four bytes as one field, and puts out as many bytes as the length says.
So stored blocks one after the other put out their contents one after the other, and between
the header and the checksum of the whole content they are a container of it.

At level zero nothing but stored blocks is written. What is written at another level is a
container only as far as the library can be trusted.
-/

namespace ChunkCodecs

/-- A checksum fits in four bytes: both of its sums are below the modulus. -/
theorem Checksum.adler32_lt (bytes : Bytes) : adler32 bytes < 256 ^ 4 := by
  have bounded (sums : Nat × Nat) (small : sums.1 < adlerModulus ∧ sums.2 < adlerModulus) :
      (bytes.foldl adlerStep sums).1 < adlerModulus ∧
        (bytes.foldl adlerStep sums).2 < adlerModulus := by
    induction bytes generalizing sums with
    | nil => exact small
    | cons byte rest inductionHypothesis =>
      exact inductionHypothesis _ ⟨Nat.mod_lt _ (by decide), Nat.mod_lt _ (by decide)⟩
  obtain ⟨low, high⟩ := bounded (1, 0) (by decide)
  simp only [adlerModulus] at low high
  simp only [adler32]
  omega

namespace Deflate

namespace Inflater

variable {machine next : Inflater} {use : FieldUse}

/-- A machine that enters the phase it is in stays as it is. -/
theorem enter_phase {phase : Phase} (same : machine.phase = phase) :
    machine.enter phase = machine := by
  rw [← same]
  rfl

/-- What a complete field does not depend on how far the field was read. -/
theorem takeField_enter (phase : Phase) (use : FieldUse) (value : Nat) :
    (machine.enter phase).takeField use value = machine.takeField use value := by
  cases use <;> rfl

/-- One bit of a field that is not its last one is added to it. -/
theorem takeBit_field {missing weight value : Nat}
    (waits : machine.phase = .field use (missing + 2) weight value) (number : Nat) :
    machine.takeBit (number % 2 == 1) =
      .ok (machine.enter (.field use (missing + 1) (2 * weight) (value + weight * (number % 2)))) := by
  have large : ¬ missing + 2 ≤ 1 := by omega
  rw [takeBit, waits]
  rcases Nat.mod_two_eq_zero_or_one number with even | odd
  · simp [even, large]
  · simp [odd, large]

/-- The last bit of a field completes it. -/
theorem takeBit_field_last {weight value : Nat}
    (waits : machine.phase = .field use 1 weight value) (number : Nat) :
    machine.takeBit (number % 2 == 1) = machine.takeField use (value + weight * (number % 2)) := by
  rw [takeBit, waits]
  rcases Nat.mod_two_eq_zero_or_one number with even | odd
  · simp [even]
  · simp [odd]

/-- Bits that are fewer than a field misses are added to it.

Proof: induction on the bits. Each one has twice the weight of the one before. -/
theorem takeBits_field_part {count missing weight value : Nat} {machine : Inflater}
    (waits : machine.phase = .field use (count + (missing + 1)) weight value) (number : Nat) :
    takeBits count number machine = .ok (machine.enter
      (.field use (missing + 1) (weight * 2 ^ count) (value + weight * (number % 2 ^ count)))) := by
  induction count generalizing number machine weight value with
  | zero =>
    rw [Nat.zero_add] at waits
    rw [takeBits, Nat.pow_zero, Nat.mod_one, Nat.mul_zero, Nat.mul_one, Nat.add_zero value,
      enter_phase waits]
  | succ count inductionHypothesis =>
    have first : machine.phase = .field use (count + missing + 2) weight value := by
      rw [waits]
      congr 1
      omega
    have remaining := @inductionHypothesis (2 * weight) (value + weight * (number % 2))
      (machine.enter (.field use (count + missing + 1) (2 * weight)
        (value + weight * (number % 2)))) rfl (number / 2)
    have heavier : 2 * weight * 2 ^ count = weight * 2 ^ (count + 1) := by
      rw [Nat.pow_succ']
      ac_rfl
    have added : value + weight * (number % 2) + 2 * weight * (number / 2 % 2 ^ count) =
        value + weight * (number % 2 ^ (count + 1)) := by
      rw [Nat.pow_succ', Nat.mod_mul, Nat.mul_add]
      ac_rfl
    rw [heavier, added] at remaining
    rw [takeBits, takeBit_field first]
    exact remaining

/-- The bits that a field misses complete it, and further bits are taken after that. -/
theorem takeBits_field {missing weight value : Nat} {machine : Inflater}
    (waits : machine.phase = .field use (missing + 1) weight value) {number : Nat}
    (taken : machine.takeField use (value + weight * (number % 2 ^ (missing + 1))) = .ok next)
    (further : Nat) :
    takeBits (missing + 1 + further) number machine =
      takeBits further (number / 2 ^ (missing + 1)) next := by
  induction missing generalizing number machine weight value with
  | zero =>
    rw [Nat.zero_add, Nat.pow_one] at taken ⊢
    rw [Nat.add_comm, takeBits, takeBit_field_last waits, taken]
  | succ missing inductionHypothesis =>
    have added : value + weight * (number % 2) + 2 * weight * (number / 2 % 2 ^ (missing + 1)) =
        value + weight * (number % 2 ^ (missing + 2)) := by
      rw [@Nat.pow_succ' 2 (missing + 1), Nat.mod_mul, Nat.mul_add]
      ac_rfl
    have completed : (machine.enter (.field use (missing + 1) (2 * weight)
        (value + weight * (number % 2)))).takeField use
          (value + weight * (number % 2) + 2 * weight * (number / 2 % 2 ^ (missing + 1))) =
        .ok next := by
      rw [takeField_enter, added]
      exact taken
    rw [Nat.add_right_comm, takeBits, takeBit_field waits]
    simp only
    rw [inductionHypothesis rfl completed, Nat.div_div_eq_div_mul, ← Nat.pow_succ']

/-- Bits up to the next byte are skipped. -/
theorem takeBits_align {width count : Nat} (waits : machine.phase = .align use width)
    (number : Nat) : takeBits count number machine = .ok machine := by
  induction count generalizing number with
  | zero => rfl
  | succ count inductionHypothesis =>
    have skipped : machine.takeBit (number % 2 == 1) = .ok machine := by
      rw [takeBit, waits]
    rw [takeBits, skipped]
    exact inductionHypothesis _

/-- A byte of a field that misses more than it is added to the field. -/
theorem takeByte_field_part {missing weight value : Nat}
    (waits : machine.phase = .field use (8 + (missing + 1)) weight value) (byte : UInt8) :
    machine.takeByte byte = .ok (machine.enter
      (.field use (missing + 1) (weight * 256) (value + weight * byte.toNat))) := by
  have small : byte.toNat % 2 ^ 8 = byte.toNat := Nat.mod_eq_of_lt byte.toNat_lt
  have bits := takeBits_field_part waits byte.toNat
  rw [small] at bits
  rw [takeByte, waits]
  simp only [bits]
  rfl

/-- A byte that completes a field does what the field does. -/
theorem takeByte_field {weight value : Nat} (waits : machine.phase = .field use 8 weight value)
    {byte : UInt8} (taken : machine.takeField use (value + weight * byte.toNat) = .ok next) :
    machine.takeByte byte = .ok next.settle := by
  have small : byte.toNat % 2 ^ 8 = byte.toNat := Nat.mod_eq_of_lt byte.toNat_lt
  rw [← small] at taken
  have bits := takeBits_field waits taken 0
  rw [takeByte, waits]
  simp only [bits]
  rfl

/-- The bytes of a field complete it, with the number that they stand for.

Proof: induction on the bytes. Each one has 256 times the weight of the one before, as in the
number that they stand for. -/
theorem feed_field {bytes : Bytes} {weight value : Nat} {machine : Inflater}
    (some_bytes : bytes ≠ []) (waits : machine.phase = .field use (8 * bytes.length) weight value)
    (taken : machine.takeField use (value + weight * littleEndianValue bytes) = .ok next) :
    machine.feed bytes = .ok next.settle := by
  induction bytes generalizing machine weight value with
  | nil => exact absurd rfl some_bytes
  | cons byte rest inductionHypothesis =>
    rw [feed_cons_eq_ok_iff]
    by_cases ended : rest = []
    · subst ended
      exact ⟨next.settle, takeByte_field waits taken, rfl⟩
    · have positive : 0 < rest.length := List.length_pos_iff.mpr ended
      have several : machine.phase = .field use (8 + (8 * rest.length - 1 + 1)) weight value := by
        rw [waits, List.length_cons]
        congr 1
        omega
      have added : value + weight * byte.toNat + weight * 256 * littleEndianValue rest =
          value + weight * littleEndianValue (byte :: rest) := by
        rw [littleEndianValue, Nat.mul_add]
        ac_rfl
      refine ⟨_, takeByte_field_part several byte,
        @inductionHypothesis (weight * 256) (value + weight * byte.toNat) _ ended ?_ ?_⟩
      · rw [Nat.sub_add_cancel (by omega)]
        rfl
      · rw [takeField_enter, added]
        exact taken

/-- What is waited for once a stored block is complete: the next block, or the checksum. -/
def afterStored (last : Bool) : Phase := if last then await .checksum 32 else await .block 3

/-- A block that ends with a byte is followed by the next block or by the checksum. -/
theorem settle_afterBlock (last : Bool) :
    (machine.enter (afterBlock last)).settle = machine.enter (afterStored last) := by
  cases last <;> rfl

/-- The mark of a stored block makes the machine wait for the length of the block. -/
theorem takeByte_mark (waits : machine.phase = await .block 3) (last : Bool) :
    machine.takeByte (if last then 1 else 0) =
      .ok (machine.enter (await (.storedLength last) 32)) := by
  have taken : machine.takeField .block (0 + 1 * ((if last then 1 else 0 : UInt8).toNat % 2 ^ 3)) =
      .ok (machine.enter (.align (.storedLength last) 32)) := by
    cases last <;> rfl
  have bits := takeBits_field waits taken 5
  have aligned : (machine.enter (.align (.storedLength last) 32)).phase =
      .align (.storedLength last) 32 := rfl
  rw [takeBits_align aligned] at bits
  rw [takeByte, waits]
  simp only [await, bits]
  rfl

/-- The bytes of a stored block are put out as they are.

Proof: induction on the bytes; the last one ends the block. -/
theorem feed_stored {last : Bool} {content : Bytes} {machine : Inflater} (some_bytes : content ≠ [])
    (waits : machine.phase = .stored last content.length) :
    machine.feed content = .ok { machine with
      phase := afterStored last, output := machine.output ++ content.toArray } := by
  induction content generalizing machine with
  | nil => exact absurd rfl some_bytes
  | cons byte rest inductionHypothesis =>
    rw [feed_cons_eq_ok_iff]
    by_cases ended : rest = []
    · subst ended
      refine ⟨_, ?_, rfl⟩
      rw [takeByte, waits]
      cases last <;> rfl
    · have positive : 0 < rest.length := List.length_pos_iff.mpr ended
      have more : ¬ rest.length + 1 ≤ 1 := by omega
      refine ⟨{ machine with
        phase := .stored last rest.length, output := machine.output.push byte }, ?_, ?_⟩
      · rw [takeByte, waits]
        simp only [List.length_cons, more, if_false, Nat.add_sub_cancel]
        rfl
      · rw [inductionHypothesis ended rfl]
        simp

/-- The length of a stored block and its complement announce the content, unless it is empty. -/
theorem takeField_storedLength (machine : Inflater) (last : Bool) {content : Bytes}
    (short : content.length ≤ maxStored) :
    machine.takeField (.storedLength last) (littleEndianValue
        (littleEndian 2 content.length ++ littleEndian 2 (65535 - content.length))) =
      .ok (machine.enter
        (if content = [] then afterBlock last else .stored last content.length)) := by
  simp only [maxStored] at short
  have value : littleEndianValue
      (littleEndian 2 content.length ++ littleEndian 2 (65535 - content.length)) =
        content.length + 65536 * (65535 - content.length) := by
    have low := littleEndianValue_littleEndian 2 content.length (by omega)
    have high := littleEndianValue_littleEndian 2 (65535 - content.length) (by omega)
    simp only [littleEndian, List.cons_append, List.nil_append, littleEndianValue] at low high ⊢
    omega
  have low : (content.length + 65536 * (65535 - content.length)) % 65536 = content.length := by
    omega
  have high : (content.length + 65536 * (65535 - content.length)) / 65536 =
      65535 - content.length := by
    omega
  have whole : content.length + (65535 - content.length) = 65535 := by omega
  rw [value]
  simp only [takeField, low, high, whole, ne_eq, not_true, if_false, List.length_eq_zero_iff]
  split <;> rfl

/-- A stored block is taken as a whole and its content is put out. -/
theorem feed_storedBlock (waits : machine.phase = await .block 3) (last : Bool) {content : Bytes}
    (short : content.length ≤ maxStored) :
    machine.feed (storedBlock last content) = .ok { machine with
      phase := afterStored last, output := machine.output ++ content.toArray } := by
  have lengths : littleEndian 2 content.length ++ littleEndian 2 (65535 - content.length) ≠ [] :=
    List.cons_ne_nil _ _
  have announced := takeField_storedLength (machine.enter (await (.storedLength last) 32)) last short
  rw [← Nat.one_mul (littleEndianValue _), ← Nat.zero_add (1 * _)] at announced
  have taken := feed_field lengths rfl announced
  rw [storedBlock, feed_cons_eq_ok_iff]
  refine ⟨_, takeByte_mark waits last, ?_⟩
  rw [feed_append_eq_ok_iff]
  refine ⟨_, taken, ?_⟩
  by_cases empty : content = []
  · rw [if_pos empty, settle_afterBlock, empty]
    simp [enter, feed, pure, Except.pure]
  · rw [if_neg empty]
    exact feed_stored empty rfl

/-- A content in stored blocks is put out as a whole, and the checksum is waited for.

Proof: induction along the division of the content into blocks, of which only the last one is
marked. -/
theorem feed_storedBlocks {content : Bytes} {machine : Inflater}
    (waits : machine.phase = await .block 3) :
    machine.feed (storedBlocks content) = .ok { machine with
      phase := await .checksum 32, output := machine.output ++ content.toArray } := by
  fun_induction storedBlocks content generalizing machine with
  | case1 content short => exact feed_storedBlock waits true short
  | case2 content long inductionHypothesis =>
    have short : (content.take maxStored).length ≤ maxStored := List.length_take_le _ _
    rw [feed_append_eq_ok_iff]
    refine ⟨_, feed_storedBlock waits false short, ?_⟩
    rw [inductionHypothesis rfl]
    simp only [Array.append_assoc, List.append_toArray, List.take_append_drop]

/-- The header of a level opens a container: a block is waited for. -/
theorem feed_headerOf (level : Nat) :
    start.feed (headerOf level) = .ok ⟨await .block 3, #[]⟩ := by
  unfold headerOf
  split
  · rfl
  · split
    · rfl
    · split <;> rfl

/-- The checksum of what was put out ends a container. -/
theorem feed_checksum (waits : machine.phase = await .checksum 32) :
    machine.feed (bigEndian 4 (Checksum.adler32 machine.output.toList)) =
      .ok (machine.enter (.finished 0)) := by
  have four : (bigEndian 4 (Checksum.adler32 machine.output.toList)).length = 4 := by
    rw [bigEndian, List.length_reverse, littleEndian_length]
  have settled : (machine.enter (.finished 0)).settle = machine.enter (.finished 0) := rfl
  have stored : storedChecksum
      (littleEndianValue (bigEndian 4 (Checksum.adler32 machine.output.toList))) =
        Checksum.adler32 machine.output.toList := by
    have written := littleEndian_littleEndianValue
      (bigEndian 4 (Checksum.adler32 machine.output.toList))
    rw [four] at written
    rw [storedChecksum, written, bigEndianValue, bigEndian, List.reverse_reverse,
      littleEndianValue_littleEndian 4 _ (Checksum.adler32_lt _)]
  rw [← settled]
  apply feed_field (List.ne_nil_of_length_pos (by omega))
  · rw [waits, four]
    rfl
  · rw [Nat.zero_add, Nat.one_mul, takeField, if_pos stored]

end Inflater

/-- Stored blocks between a header and the checksum of their content are a container. -/
theorem isContainer_stored (level : Nat) (content : Bytes) :
    IsContainer (headerOf level ++ (storedBlocks content ++ bigEndian 4 (Checksum.adler32 content)))
      content := by
  have blocks := @Inflater.feed_storedBlocks content ⟨Inflater.await .block 3, #[]⟩ rfl
  have output : (#[] ++ content.toArray).toList = content := by simp
  have checked := @Inflater.feed_checksum
    ⟨Inflater.await .checksum 32, #[] ++ content.toArray⟩ rfl
  rw [output] at checked
  refine ⟨⟨.finished 0, #[] ++ content.toArray⟩, ?_, output, rfl⟩
  rw [Inflater.feed_append_eq_ok_iff]
  refine ⟨_, Inflater.feed_headerOf level, ?_⟩
  rw [Inflater.feed_append_eq_ok_iff]
  exact ⟨_, blocks, checked⟩

/-- The standard library gives one container of all that it is fed, however it is fed. -/
theorem total_standard (pieces : List Bytes) (deflater : Deflater) :
    Library.standard.total deflater pieces =
      container deflater.level (deflater.pieces.reverse ++ pieces).flatten := by
  induction pieces generalizing deflater with
  | nil =>
    rw [List.append_nil]
    rfl
  | cons piece others inductionHypothesis =>
    rw [Library.total, inductionHypothesis, Deflater.feed, List.reverse_cons, List.append_assoc]
    rfl

/-- The container of a short content at level zero: the header of the lowest levels, the mark of
a last stored block, the length of the content and its complement, the content, and its checksum
with the most significant byte first. -/
def storedContainer (content : Bytes) : Bytes :=
  [0x78, 0x01] ++ [0x01] ++ littleEndian 2 content.length ++
    littleEndian 2 (65535 - content.length) ++ content ++ bigEndian 4 (Checksum.adler32 content)

/-- The container has eleven bytes besides the content. -/
theorem length_storedContainer (content : Bytes) :
    (storedContainer content).length = content.length + 11 := by
  simp only [storedContainer, bigEndian, List.length_append, List.length_cons, List.length_nil,
    List.length_reverse, littleEndian_length]
  omega

/-- The standard library makes this container at level zero. -/
theorem container_zero {content : Bytes} (short : content.length ≤ maxStored) :
    container 0 content = storedContainer content := by
  have single : storedBlocks content = storedBlock true content := by
    rw [storedBlocks, if_pos short]
  rw [container, blocksOf, if_pos rfl, single]
  simp [storedContainer, storedBlock, headerOf]

/-- Ten times one letter are coded at level nine, and the container is one. -/
theorem isContainer_codedLetters :
    IsContainer (container 9 (List.replicate 10 97)) (List.replicate 10 97) :=
  isContainer_of_run (by decide +kernel)

end Deflate

namespace Codec

/-- A container is given back by the codec of every level, whatever the libraries behind it are
and however it is read: the content is written, all of the container is read and nothing is
reported. -/
def IsGivenBack (container content : Bytes) : Prop :=
  ∀ (backing : Backing) (settings : Deflate.Settings) (reader : Source), reader.rest = container →
    ∃ after, uncompress backing (.deflate settings) reader = .complete content after [] ∧
      after.rest = []

/-- What the inflater takes for a container is given back. -/
theorem isGivenBack_of_isContainer {container content : Bytes}
    (held : Deflate.IsContainer container content) : IsGivenBack container content := by
  rintro backing settings reader rfl
  exact Deflate.uncompress_container held

/-- However a content is read, the deflate codec writes all that the library gives for some
pieces which make up the content, and whenever this is a container of the content, the content
is given back. At level zero the standard library gives one last stored block for a content of
at most 8192 bytes, between the header and the checksum, which are eleven bytes besides the
content; this is given back without further assumptions. -/
theorem deflate_round_trip (backing : Backing) (settings : Deflate.Settings) (writer : Source) :
    (∃ pieces after, pieces.flatten = writer.rest ∧ after.rest = [] ∧
      compress backing (.deflate settings) writer =
        .complete (backing.deflate.total (.start settings.level) pieces) after [] ∧
      (Deflate.IsContainer (backing.deflate.total (.start settings.level) pieces) writer.rest →
        IsGivenBack (backing.deflate.total (.start settings.level) pieces) writer.rest)) ∧
    (backing.deflate = .standard → settings.level = 0 → writer.rest.length ≤ 8192 →
      ∃ after, after.rest = [] ∧
        compress backing (.deflate settings) writer =
          .complete (Deflate.storedContainer writer.rest) after [] ∧
        (Deflate.storedContainer writer.rest).length = writer.rest.length + 11 ∧
        IsGivenBack (Deflate.storedContainer writer.rest) writer.rest) := by
  obtain ⟨pieces, after, made_up, exhausted, completed⟩ :=
    Deflate.compress_complete backing.deflate settings writer
  refine ⟨⟨pieces, after, made_up, exhausted, completed, isGivenBack_of_isContainer⟩, ?_⟩
  intro standard level short
  have stored : Deflate.container 0 writer.rest = Deflate.storedContainer writer.rest :=
    Deflate.container_zero (Nat.le_trans short (by decide))
  have given : backing.deflate.total (.start settings.level) pieces =
      Deflate.storedContainer writer.rest := by
    rw [standard, level, Deflate.total_standard, ← stored, ← made_up]
    rfl
  have held : Deflate.IsContainer (Deflate.storedContainer writer.rest) writer.rest := by
    rw [← stored]
    exact Deflate.isContainer_stored 0 writer.rest
  rw [given] at completed
  exact ⟨after, exhausted, completed, Deflate.length_storedContainer writer.rest,
    isGivenBack_of_isContainer held⟩

/-- Three letters that are read two at a time are stored in fourteen bytes, and given back when
these are read four at a time. Ten times one letter are coded at level nine and given back at
level one. -/
theorem letters_given_back :
    (∃ after, compress ⟨none, none⟩ (.deflate ⟨0⟩) (.limited [97, 98, 99] 2) =
      .complete [0x78, 0x01, 0x01, 3, 0, 252, 255, 97, 98, 99, 0x02, 0x4D, 0x01, 0x27] after []) ∧
    (∃ after, uncompress ⟨none, none⟩ (.deflate ⟨6⟩) (.limited
        [0x78, 0x01, 0x01, 3, 0, 252, 255, 97, 98, 99, 0x02, 0x4D, 0x01, 0x27] 4) =
      .complete [97, 98, 99] after []) ∧
    ∃ container after, compress ⟨none, none⟩ (.deflate ⟨9⟩) (.limited (List.replicate 10 97) 3) =
        .complete container after [] ∧
      ∃ ended, uncompress ⟨none, none⟩ (.deflate ⟨1⟩) (.limited container 4) =
        .complete (List.replicate 10 97) ended [] := by
  have written : Deflate.storedContainer [97, 98, 99] =
      [0x78, 0x01, 0x01, 3, 0, 252, 255, 97, 98, 99, 0x02, 0x4D, 0x01, 0x27] := by decide
  obtain ⟨_, stores⟩ := deflate_round_trip ⟨none, none⟩ ⟨0⟩ (.limited [97, 98, 99] 2)
  obtain ⟨after, _, stored, _, given⟩ := stores rfl rfl (by decide)
  obtain ⟨ended, restored, _⟩ := given ⟨none, none⟩ ⟨6⟩
    (.limited (Deflate.storedContainer [97, 98, 99]) 4) rfl
  obtain ⟨⟨pieces, rest, made_up, _, coded, gives⟩, _⟩ :=
    deflate_round_trip ⟨none, none⟩ ⟨9⟩ (.limited (List.replicate 10 97) 3)
  have held : Deflate.IsContainer (Deflate.Library.standard.total (.start 9) pieces)
      (List.replicate 10 97) := by
    rw [Deflate.total_standard, Deflate.Deflater.start, List.reverse_nil, List.nil_append, made_up]
    exact Deflate.isContainer_codedLetters
  obtain ⟨last, uncoded, _⟩ := gives held ⟨none, none⟩ ⟨1⟩ (.limited _ 4) rfl
  exact ⟨⟨after, written ▸ stored⟩, ⟨ended, written ▸ restored⟩, _, rest, coded, last, uncoded⟩

end Codec

end ChunkCodecs
