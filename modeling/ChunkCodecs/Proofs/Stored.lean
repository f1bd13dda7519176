import ChunkCodecs.Proofs.Construction

/-!
# Numbers that are stored

A whole number that is given for a parameter is stored as it is: nothing rounds it, wraps it
or replaces it by a number in range. A codec that is built has it among its parameters.
-/

namespace ChunkCodecs

/-- A compression level is the one of its number. -/
theorem Parameter.val_of_compressionLevel? {number : Int} {level : CompressionLevel}
    (found : compressionLevel? number = some level) : (level.val : Int) = number := by
  rw [compressionLevel?] at found
  split at found
  · next inRange =>
    cases found
    exact Int.toNat_of_nonneg inRange.1
  · cases found

/-- The number of a filter that is found under a number. -/
theorem Blosc.Shuffle.code_of_ofCode? {code : Int} {shuffle : Shuffle}
    (found : ofCode? code = some shuffle) : (shuffle.code : Int) = code := by
  simp only [ofCode?] at found
  cases shuffle <;> simp only [Shuffle.code] <;> grind

/-- The bits of a width that is found for a count of bits. -/
theorem Raster.SampleWidth.bits_of_ofBits? {bits : Int} {width : SampleWidth}
    (found : ofBits? bits = some width) : (width.bits : Int) = bits := by
  simp only [ofBits?] at found
  cases width <;> simp only [SampleWidth.bits, bytes] <;> grind

/-- The level of deflate settings is the number that was asked for. -/
theorem Deflate.Settings.level_of_ofLevel {level : Int} {settings : Settings}
    (passed : ofLevel level = .ok settings) : (settings.level.val : Int) = level := by
  rw [ofLevel] at passed
  split at passed
  · next found =>
    cases passed
    exact Parameter.val_of_compressionLevel? found
  · cases passed

/-- The numbers of blosc settings are the ones that were asked for. -/
theorem Blosc.Settings.parts_of_ofParts {label : Parameter.Label} {level shuffle blockSize : Int}
    {settings : Settings} (passed : ofParts label level shuffle blockSize = .ok settings) :
    (settings.level.val : Int) = level ∧ (settings.shuffle.code : Int) = shuffle ∧
      (settings.blockSize : Int) = blockSize := by
  rw [ofParts] at passed
  split at passed
  · cases passed
  · split at passed
    · cases passed
    · next level_found =>
      split at passed
      · cases passed
      · next shuffle_found =>
        split at passed
        · cases passed
        · next nonnegative =>
          cases passed
          exact ⟨Parameter.val_of_compressionLevel? level_found,
            Shuffle.code_of_ofCode? shuffle_found, Int.toNat_of_nonneg (Int.not_lt.mp nonnegative)⟩

/-- The numbers of raster settings are the ones that were asked for. -/
theorem Raster.Settings.parts_of_ofParts {littleEndian interleaved lossless : Bool}
    {width height bits channels : Int} {quality : Double} {settings : Settings}
    (passed : ofParts littleEndian interleaved width height bits channels lossless quality =
      .ok settings) :
    settings.width = width ∧ settings.height = height ∧
      (settings.sampleWidth.bits : Int) = bits ∧ (settings.channels : Int) = channels := by
  rw [ofParts] at passed
  split at passed
  · cases passed
  · next bits_found =>
    split at passed
    · next positive =>
      split at passed
      · split at passed
        · cases passed
          exact ⟨rfl, rfl, SampleWidth.bits_of_ofBits? bits_found,
            Int.toNat_of_nonneg (Int.le_of_lt positive)⟩
        · cases passed
      · cases passed
    · cases passed

namespace Codec

open Parameter (Kind)

/-- What comes of a codec when it is recorded. -/
def record (codec : Codec) : Except Fault Codec :=
  if codec.isPrintable then .ok codec else .error (.foreign .unprintableNumber)

/-- A codec is configured and recorded. -/
theorem result_build (scheme : CodecId) (properties : Properties) :
    (build scheme properties).result = configure scheme properties >>= record := by
  rw [build]
  cases configure scheme properties with
  | error fault => rfl
  | ok codec =>
    show _ = record codec
    by_cases shown : codec.isPrintable = true
    · simp [record, shown]
    · simp [record, shown]

/-- A codec that is built of a result is built of one. -/
theorem exists_of_build_eq_ok {α : Type} {result : Except Fault α} {make : α → Codec}
    {codec : Codec} (built : (result.map make >>= record) = .ok codec) :
    ∃ settings, result = .ok settings ∧ make settings = codec := by
  cases result with
  | error fault => cases built
  | ok settings =>
    have recorded : record (make settings) = .ok codec := built
    rw [record] at recorded
    split at recorded
    · exact ⟨settings, rfl, Except.ok.inj recorded⟩
    · cases recorded

/-- A setting that was read of a whole number is the number. -/
theorem some_int_eq_of_given {properties : Properties} {owner key : String} {number : Int}
    (given : properties.given? key = some (.int number)) {found : Option Int}
    (read : Parameter.readOptional Parameter.readInt properties ⟨owner, key⟩ = .ok found)
    {stored standard : Int} (stands : stored = found.getD standard) :
    some (Value.int stored) = some (.int number) := by
  obtain rfl := Except.ok.inj ((Parameter.readInt_of_given given).symm.trans read)
  rw [stands, Option.getD_some]

/-- A whole number that is given for a parameter is among the parameters of the codec that is
built. -/
theorem given?_parameters_of_build {scheme : CodecId} {properties : Properties} {codec : Codec}
    (built : (build scheme properties).result = .ok codec) {name : String}
    (known : (name, Kind.whole) ∈ parameterKinds scheme) {number : Int}
    (given : properties.given? name = some (.int number)) :
    codec.parameters.given? name = some (.int number) := by
  rw [result_build] at built
  cases scheme with
  | identity => cases known
  | zlib =>
    simp only [parameterKinds, List.mem_singleton, Prod.mk.injEq, and_true] at known
    subst known
    obtain ⟨settings, read, rfl⟩ := exists_of_build_eq_ok built
    obtain ⟨level, level_read, read⟩ := exists_of_bind_eq_ok read
    have level_eq := Deflate.Settings.level_of_ofLevel (mapError_eq_ok_iff.mp read)
    exact some_int_eq_of_given given level_read level_eq
  | blosc =>
    simp only [parameterKinds, List.mem_cons, Prod.mk.injEq, List.not_mem_nil, or_false,
      reduceCtorEq, and_false, false_or, and_true] at known
    obtain ⟨settings, read, rfl⟩ := exists_of_build_eq_ok built
    obtain ⟨label, _, read⟩ := exists_of_bind_eq_ok read
    obtain ⟨level, level_read, read⟩ := exists_of_bind_eq_ok read
    obtain ⟨shuffle, shuffle_read, read⟩ := exists_of_bind_eq_ok read
    obtain ⟨size, size_read, read⟩ := exists_of_bind_eq_ok read
    obtain ⟨level_eq, shuffle_eq, size_eq⟩ :=
      Blosc.Settings.parts_of_ofParts (mapError_eq_ok_iff.mp read)
    rcases known with rfl | rfl | rfl
    · exact some_int_eq_of_given given level_read level_eq
    · exact some_int_eq_of_given given shuffle_read shuffle_eq
    · exact some_int_eq_of_given given size_read size_eq
  | j2k =>
    simp only [parameterKinds, List.mem_cons, Prod.mk.injEq, List.not_mem_nil, or_false,
      reduceCtorEq, and_false, false_or, and_true] at known
    obtain ⟨settings, read, rfl⟩ := exists_of_build_eq_ok built
    obtain ⟨quality, _, read⟩ := exists_of_bind_eq_ok read
    obtain ⟨littleEndian, _, read⟩ := exists_of_bind_eq_ok read
    obtain ⟨interleaved, _, read⟩ := exists_of_bind_eq_ok read
    obtain ⟨width, width_read, read⟩ := exists_of_bind_eq_ok read
    obtain ⟨height, height_read, read⟩ := exists_of_bind_eq_ok read
    obtain ⟨bits, bits_read, read⟩ := exists_of_bind_eq_ok read
    obtain ⟨channels, channels_read, read⟩ := exists_of_bind_eq_ok read
    obtain ⟨lossless, _, read⟩ := exists_of_bind_eq_ok read
    obtain ⟨width_eq, height_eq, bits_eq, channels_eq⟩ :=
      Raster.Settings.parts_of_ofParts (mapError_eq_ok_iff.mp read)
    rcases known with rfl | rfl | rfl | rfl
    · exact some_int_eq_of_given given width_read width_eq
    · exact some_int_eq_of_given given height_read height_eq
    · exact some_int_eq_of_given given bits_read bits_eq
    · exact some_int_eq_of_given given channels_read channels_eq

/-- A codec that is built has the scheme that it is built for. -/
theorem scheme_of_build {scheme : CodecId} {properties : Properties} {codec : Codec}
    (built : (build scheme properties).result = .ok codec) : codec.scheme = scheme := by
  rw [result_build] at built
  cases scheme with
  | identity =>
    obtain rfl := Except.ok.inj built
    rfl
  | _ =>
    obtain ⟨settings, _, rfl⟩ := exists_of_build_eq_ok built
    rfl

end Codec

end ChunkCodecs
