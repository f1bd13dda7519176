import ChunkCodecs.Proofs.Blosc.Storing
import ChunkCodecs.Proofs.Inversion
import ChunkCodecs.Proofs.Storage.Filling
import ChunkCodecs.Storage.ArrayCodec

/-!
# Arrays that are stored and read back

A chunk that was made of an array without loss decodes to the bytes of the array's memory. Decoded
onto an array that the caller owns, it replaces the elements if the array has as many bytes: an
array of the same type, shape and order is equal to the first one then, and any other one has the
same memory. If the sizes differ, or if the chunk cannot be decoded, the caller's array stays as
it is.
-/

namespace ChunkCodecs

namespace Codec

/-- A codec and the one that is rebuilt from its configuration take chunks alike. -/
theorem uncompress_reread_eq (backing : Backing) (codec : Codec) (found : Double)
    (source : Source) :
    (codec.reread found).uncompress backing source = codec.uncompress backing source := by
  cases codec <;> rfl

end Codec

namespace ArrayCodec

variable {backing : Backing} {arrayCodec : ArrayCodec} {array out : NumericArray}
  {encoded decoded : Bytes}

/-- Decoding onto an array leaves what decoding into it gives, or the array as it was. -/
theorem run_decodeOnto (backing : Backing) (arrayCodec : ArrayCodec) (encoded : Bytes)
    (out : NumericArray) : (arrayCodec.decodeOnto backing encoded).run out =
      match (arrayCodec.decodeInto backing encoded out).result with
      | .ok filled => (.ok (), filled)
      | .error fault => (.error fault, out) := by
  rw [decodeOnto, decodeInto]
  cases (arrayCodec.decode backing encoded).result with
  | error fault => rfl
  | ok decoded =>
    have filled_or_refused (result : Except Fault NumericArray) :
        (MonadExcept.ofExcept result >>= set : ExceptT Fault (StateM NumericArray) Unit).run out =
          match result with
          | .ok filled => (.ok (), filled)
          | .error fault => (.error fault, out) := by
      cases result <;> rfl
    exact filled_or_refused (out.fill decoded)

/-- What cannot be decoded is not put anywhere. -/
theorem run_decodeOnto_of_error {fault : Fault}
    (refused : (arrayCodec.decode backing encoded).result = .error fault) (out : NumericArray) :
    (arrayCodec.decodeOnto backing encoded).run out = (.error fault, out) := by
  rw [run_decodeOnto, decodeInto, refused]
  rfl

/-- What does not fill an array is not put there. -/
theorem run_decodeOnto_of_other_size
    (decoding : (arrayCodec.decode backing encoded).result = .ok decoded)
    (positive : 0 < out.width) (other : decoded.length ≠ out.size) :
    ∃ fault, (arrayCodec.decodeOnto backing encoded).run out = (.error fault, out) := by
  obtain ⟨cause, refused⟩ := NumericArray.fill_of_other_size positive other
  refine ⟨.foreign cause, ?_⟩
  rw [run_decodeOnto, decodeInto, decoding]
  simp only [Except.bind, refused]

/-- What fills an array is what the array stores then. -/
theorem run_decodeOnto_of_size
    (decoding : (arrayCodec.decode backing encoded).result = .ok decoded)
    (positive : 0 < out.width) (enough : decoded.length = out.size) :
    ∃ filled, (arrayCodec.decodeOnto backing encoded).run out = (.ok (), filled) ∧
      filled.SameLayout out ∧ filled.stored = pieces out.width decoded := by
  obtain ⟨filled, filling, layout, stored⟩ := NumericArray.fill_of_size positive enough
  refine ⟨filled, ?_, layout, stored⟩
  rw [run_decodeOnto, decodeInto, decoding]
  simp only [Except.bind, filling]

/-- A chunk that was made of an array without loss decodes to the bytes of its memory. -/
theorem decode_encoded (lossless : arrayCodec.codec.IsLossless)
    (givesBack : backing.GivesBack array.memory arrayCodec.codec)
    (made : (arrayCodec.encode backing array).result = .ok encoded) :
    (arrayCodec.decode backing encoded).result = .ok array.memory := by
  obtain ⟨after, journal, completed⟩ := @Codec.uncompress_reread backing arrayCodec.codec lossless
    array.memory encoded givesBack (.ofBytes array.memory) (.ofBytes encoded) rfl made rfl .minusOne
  rw [Codec.uncompress_reread_eq] at completed
  rw [decode, Codec.decode, completed]
  rfl

/-- Arrays survive being stored.

Proof: the chunk decodes to the memory of the array. As many bytes as an array has are stored in
it piece by piece, so they are its memory; and an array of the same layout that stores the pieces
of the memory stores what the first array stores, which decides its elements. -/
theorem arrays_survive (lossless : arrayCodec.codec.IsLossless) (uniform : array.IsUniform)
    (givesBack : backing.GivesBack array.memory arrayCodec.codec)
    (made : (arrayCodec.encode backing array).result = .ok encoded) :
    (arrayCodec.decode backing encoded).result = .ok array.memory ∧
      (∀ out : NumericArray, out.SameLayout array →
        (arrayCodec.decodeOnto backing encoded).run out = (.ok (), array)) ∧
      (∀ out : NumericArray, 0 < out.width → out.size = array.size →
        ∃ filled : NumericArray,
          (arrayCodec.decodeOnto backing encoded).run out = (.ok (), filled) ∧
            filled.SameLayout out ∧ filled.memory = array.memory) ∧
      (∀ (out : NumericArray) (other decoded : Bytes), 0 < out.width →
        (arrayCodec.decode backing other).result = .ok decoded → decoded.length ≠ out.size →
          ∃ fault, (arrayCodec.decodeOnto backing other).run out = (.error fault, out)) ∧
      ∀ (out : NumericArray) (other : Bytes) (fault : Fault),
        (arrayCodec.decode backing other).result = .error fault →
          (arrayCodec.decodeOnto backing other).run out = (.error fault, out) := by
  have decoding := decode_encoded lossless givesBack made
  have length := uniform.length_memory
  refine ⟨decoding, ?_, ?_, ?_, ?_⟩
  · intro out same
    have positive : 0 < out.width := same.width_eq ▸ uniform.width_pos
    have enough : array.memory.length = out.size := by
      rw [length, NumericArray.size, NumericArray.size, same.width_eq, same.shape_eq]
    obtain ⟨filled, ran, layout, stored⟩ := run_decodeOnto_of_size decoding positive enough
    have alike : filled.stored = array.stored := by
      rw [stored, same.width_eq, uniform.pieces_memory]
    rw [ran, (layout.trans same).eq_of_stored alike]
  · intro out positive enough
    obtain ⟨filled, ran, layout, stored⟩ :=
      run_decodeOnto_of_size decoding positive (length.trans enough.symm)
    refine ⟨filled, ran, layout, ?_⟩
    rw [NumericArray.memory, stored, flatten_pieces positive]
  · intro out other decoded positive decodes unlike
    exact run_decodeOnto_of_other_size decodes positive unlike
  · intro out other fault refused
    exact run_decodeOnto_of_error refused out

/-- Six samples of two bytes in two rows, stored column by column. -/
def columnOrdered : NumericArray :=
  ⟨2, [2, 3], .columns, [[1, 0], [2, 0], [3, 0], [4, 0], [5, 0], [6, 0]], rfl⟩

/-- An array that is stored column by column is decoded onto one like it, and onto one of single
bytes that is stored row by row; one of another size stays as it is. -/
theorem columnOrdered_survives :
    ∃ encoded, (encode ⟨some .standard, none⟩ ⟨.blosc .standard⟩ columnOrdered).result =
        .ok encoded ∧
      (decodeOnto ⟨some .standard, none⟩ ⟨.blosc .standard⟩ encoded).run
        (.zeros 2 [2, 3] .columns) = (.ok (), columnOrdered) ∧
      (∃ filled : NumericArray,
        (decodeOnto ⟨some .standard, none⟩ ⟨.blosc .standard⟩ encoded).run (.zeros 1 [3, 4] .rows) =
          (.ok (), filled) ∧ filled.memory = [1, 0, 4, 0, 2, 0, 5, 0, 3, 0, 6, 0]) ∧
      ∃ fault, (decodeOnto ⟨some .standard, none⟩ ⟨.blosc .standard⟩ encoded).run
        (.zeros 2 [7] .rows) = (.error fault, .zeros 2 [7] .rows) := by
  have uniform : columnOrdered.IsUniform := ⟨by decide, by decide⟩
  have givesBack : Backing.GivesBack ⟨some .standard, none⟩ columnOrdered.memory
      (.blosc .standard) := by
    rintro library ⟨⟩ nonempty
    exact Blosc.standard_givesBack (by decide) nonempty (by decide)
  obtain ⟨encoded, made⟩ : ∃ encoded,
      (encode ⟨some .standard, none⟩ ⟨.blosc .standard⟩ columnOrdered).result = .ok encoded :=
    ⟨_, rfl⟩
  obtain ⟨decoding, onto_like, onto_other, onto_larger, _⟩ :=
    @arrays_survive ⟨some .standard, none⟩ ⟨.blosc .standard⟩ columnOrdered encoded trivial uniform
      givesBack made
  obtain ⟨filled, ran, _, memory⟩ := onto_other (.zeros 1 [3, 4] .rows) (by decide) (by decide)
  exact ⟨encoded, made, onto_like _ ⟨rfl, rfl, rfl⟩, ⟨filled, ran, memory⟩,
    onto_larger _ encoded _ (by decide) decoding (by decide)⟩

end ArrayCodec

end ChunkCodecs
