import ChunkCodecs.Proofs.Construction
import ChunkCodecs.Proofs.Stored

/-!
# Codecs of a single parameter

If properties give a codec one of its parameters and nothing else, what comes of them is what comes
of reading that parameter: two values that are read alike make the same codec, and a value that is
refused makes none. The numbers that a codec can hold are small, save for sizes and counts, which
may be any positive numbers.
-/

namespace ChunkCodecs

open Parameter (Kind)

/-- A double equals itself unless it is no number. -/
theorem Double.numericallyEqual_self {number : Double} (is_number : number ≠ .nan) :
    number.numericallyEqual number = true := by
  cases number with
  | nan => exact absurd rfl is_number
  | infinite negative => simp [numericallyEqual]
  | finite value => simp [numericallyEqual]

/-- A whole number under a name is given to the name. -/
theorem Properties.given?_single_int (key : String) (number : Int) :
    given? [(.text key, .int number)] key = some (.int number) :=
  given?_single_eq_some_iff.mpr ⟨rfl, rfl, nofun⟩

/-- Settings have the quality that is among their parts. -/
theorem Raster.Settings.quality_of_ofParts {littleEndian interleaved lossless : Bool}
    {width height bits channels : Int} {quality : Double} {settings : Settings}
    (made : ofParts littleEndian interleaved width height bits channels lossless quality =
      .ok settings) : settings.quality = quality := by
  rw [ofParts] at made
  split at made
  · cases made
  · split at made
    · split at made
      · split at made
        · obtain rfl := Except.ok.inj made
          rfl
        · cases made
      · cases made
    · cases made

namespace Codec

variable {scheme : CodecId} {key : String} {kind : Kind}

/-- What is configured from one parameter depends on what is read of it alone. -/
theorem exists_configure_single (known : (key, kind) ∈ parameterKinds scheme) :
    ∃ (parameter : ParameterName) (further : kind.Content → Except Fault Codec),
      ∀ value : Value, value ≠ .none →
        configure scheme [(.text key, value)] = kind.read parameter value >>= further := by
  have bind_some {α β : Type} (read : Except Fault α) (further : Option α → Except Fault β)
      (make : β → Codec) : (read.map some >>= further).map make =
        read >>= fun content => (further (some content)).map make := by
    cases read <;> rfl
  cases scheme with
  | identity => cases known
  | zlib =>
    simp only [parameterKinds, List.mem_cons, Prod.mk.injEq, List.not_mem_nil, or_false] at known
    obtain ⟨rfl, rfl⟩ := known
    apply Exists.intro
    apply Exists.intro
    intro value some_value
    rw [configure, Deflate.Settings.ofProperties, readOptional_single _ _ _ _ some_value, if_pos rfl]
    exact bind_some _ _ _
  | blosc =>
    simp only [parameterKinds, List.mem_cons, Prod.mk.injEq, List.not_mem_nil, or_false] at known
    rcases known with ⟨rfl, rfl⟩ | ⟨rfl, rfl⟩ | ⟨rfl, rfl⟩ | ⟨rfl, rfl⟩
    all_goals
      apply Exists.intro
      apply Exists.intro
      intro value some_value
      simp only [configure, Blosc.Settings.ofProperties, readOptional_single _ _ _ _ some_value,
        String.reduceEq, if_false, if_true, ok_bind]
      exact bind_some _ _ _
  | j2k =>
    simp only [parameterKinds, List.mem_cons, Prod.mk.injEq, List.not_mem_nil, or_false] at known
    rcases known with ⟨rfl, rfl⟩ | ⟨rfl, rfl⟩ | ⟨rfl, rfl⟩ | ⟨rfl, rfl⟩ | ⟨rfl, rfl⟩ |
      ⟨rfl, rfl⟩ | ⟨rfl, rfl⟩ | ⟨rfl, rfl⟩
    all_goals
      apply Exists.intro
      apply Exists.intro
      intro value some_value
      simp only [configure, Raster.Settings.ofProperties, readOptional_single _ _ _ _ some_value,
        String.reduceEq, if_false, if_true, ok_bind]
      exact bind_some _ _ _

/-- Two values that are read alike make the same codec, or none for the same reason. -/
theorem result_build_single_congr (known : (key, kind) ∈ parameterKinds scheme)
    {value other : Value} (some_value : value ≠ .none) (some_other : other ≠ .none)
    (alike : ∀ parameter, kind.read parameter value = kind.read parameter other) :
    (build scheme [(.text key, value)]).result = (build scheme [(.text key, other)]).result := by
  obtain ⟨parameter, further, configured⟩ := exists_configure_single known
  rw [result_build, result_build, configured value some_value, configured other some_other, alike]

/-- A value that is refused makes no codec. -/
theorem build_single_refused (known : (key, kind) ∈ parameterKinds scheme) {value : Value}
    (some_value : value ≠ .none)
    (refused : ∀ parameter, ∃ cause, kind.read parameter value = .error (.configuration cause)) :
    ∃ cause, (build scheme [(.text key, value)]).result = .error (.configuration cause) := by
  obtain ⟨parameter, further, configured⟩ := exists_configure_single known
  obtain ⟨cause, read⟩ := refused parameter
  refine ⟨cause, ?_⟩
  rw [result_build, configured value some_value, read]
  rfl

/-- A value that can be managed makes a codec, or none for a reason of its own. -/
theorem build_single_cases (known : (key, kind) ∈ parameterKinds scheme) {value : Value}
    (manageable : kind.IsManageable value) :
    (∃ cause, (build scheme [(.text key, value)]).result = .error (.configuration cause)) ∨
      ∃ codec, (build scheme [(.text key, value)]).result = .ok codec := by
  have proper := endsProperly_build_iff.mpr (endsWith_configure (manages_single known manageable))
  cases built : (build scheme [(.text key, value)]).result with
  | ok codec => exact .inr ⟨codec, rfl⟩
  | error fault =>
    rw [built] at proper
    obtain ⟨cause, rfl⟩ := endsWith_error_iff.mp proper
    exact .inl ⟨cause, rfl⟩

/-- The parameters that may be any positive numbers: sizes and counts. -/
def unboundedKeys : List String := ["blocksize", "imageWidth", "imageHeight", "channels"]

/-- What a codec holds as a whole number is not below minus one, and at most sixteen unless it is a
size or a count. -/
theorem bounds_of_parameters {codec : Codec} (known : (key, Kind.whole) ∈ parameterKinds codec.scheme)
    {number : Int} (held : codec.parameters.given? key = some (.int number)) :
    -1 ≤ number ∧ (number ≤ 16 ∨ key ∈ unboundedKeys) := by
  have stored_eq {stored : Int} (stands : codec.parameters.given? key = some (.int stored)) :
      stored = number := Value.int.inj (Option.some.inj (stands.symm.trans held))
  cases codec with
  | identity => cases known
  | deflate settings =>
    simp only [scheme, parameterKinds, List.mem_cons, Prod.mk.injEq, List.not_mem_nil, or_false,
      and_true] at known
    subst known
    have level := @stored_eq settings.level.val rfl
    omega
  | blosc settings =>
    simp only [scheme, parameterKinds, List.mem_cons, Prod.mk.injEq, List.not_mem_nil, or_false,
      reduceCtorEq, and_false, false_or, and_true] at known
    rcases known with rfl | rfl | rfl
    · have level := @stored_eq settings.level.val rfl
      omega
    · have shuffle := @stored_eq settings.shuffle.code rfl
      have few : settings.shuffle.code ≤ 2 := by cases settings.shuffle <;> decide
      omega
    · have size := @stored_eq settings.blockSize rfl
      exact ⟨by omega, .inr (by decide)⟩
  | raster settings =>
    simp only [scheme, parameterKinds, List.mem_cons, Prod.mk.injEq, List.not_mem_nil, or_false,
      reduceCtorEq, and_false, false_or, and_true] at known
    rcases known with rfl | rfl | rfl | rfl
    · have width := @stored_eq settings.width rfl
      have side := settings.width_isSide
      rw [Raster.IsSide] at side
      exact ⟨by omega, .inr (by decide)⟩
    · have height := @stored_eq settings.height rfl
      have side := settings.height_isSide
      rw [Raster.IsSide] at side
      exact ⟨by omega, .inr (by decide)⟩
    · have bits := @stored_eq settings.sampleWidth.bits rfl
      have few : settings.sampleWidth.bits ≤ 16 := by cases settings.sampleWidth <;> decide
      omega
    · have channels := @stored_eq settings.channels rfl
      exact ⟨by omega, .inr (by decide)⟩

/-- Equal codecs hold the same whole numbers. -/
theorem given?_eq_of_agrees {left right : Codec} (agree : left.agrees right = true)
    (known : (key, Kind.whole) ∈ parameterKinds left.scheme) :
    left.parameters.given? key = right.parameters.given? key := by
  cases left with
  | identity => cases known
  | deflate settings =>
    cases right with
    | deflate other =>
      obtain rfl : settings = other := by simpa [agrees] using agree
      rfl
    | _ => cases agree
  | blosc settings =>
    cases right with
    | blosc other =>
      simp only [agrees, Blosc.Settings.agrees, Bool.and_eq_true, beq_iff_eq] at agree
      obtain ⟨⟨⟨_, level⟩, shuffle⟩, size⟩ := agree
      simp only [scheme, parameterKinds, List.mem_cons, Prod.mk.injEq, List.not_mem_nil, or_false,
        reduceCtorEq, and_false, false_or, and_true] at known
      rcases known with rfl | rfl | rfl
      · show some (Value.int settings.level.val) = some (Value.int other.level.val)
        rw [level]
      · show some (Value.int settings.shuffle.code) = some (Value.int other.shuffle.code)
        rw [shuffle]
      · show some (Value.int settings.blockSize) = some (Value.int other.blockSize)
        rw [size]
    | _ => cases agree
  | raster settings =>
    cases right with
    | raster other =>
      simp only [agrees, Raster.Settings.agrees, Bool.and_eq_true, beq_iff_eq] at agree
      obtain ⟨⟨⟨⟨⟨⟨⟨_, _⟩, width⟩, height⟩, bits⟩, channels⟩, _⟩, _⟩ := agree
      simp only [scheme, parameterKinds, List.mem_cons, Prod.mk.injEq, List.not_mem_nil, or_false,
        reduceCtorEq, and_false, false_or, and_true] at known
      rcases known with rfl | rfl | rfl | rfl
      · show some (Value.int settings.width) = some (Value.int other.width)
        rw [width]
      · show some (Value.int settings.height) = some (Value.int other.height)
        rw [height]
      · show some (Value.int settings.sampleWidth.bits) = some (Value.int other.sampleWidth.bits)
        rw [bits]
      · show some (Value.int settings.channels) = some (Value.int other.channels)
        rw [channels]
    | _ => cases agree

/-- A codec equals itself unless it has a quality that is no number. -/
theorem agrees_self {codec : Codec}
    (is_number : ∀ settings, codec = .raster settings → settings.quality ≠ .nan) :
    codec.agrees codec = true := by
  cases codec with
  | raster settings =>
    have quality := Double.numericallyEqual_self (is_number settings rfl)
    simp [agrees, Raster.Settings.agrees, quality]
  | blosc settings => simp [agrees, Blosc.Settings.agrees]
  | _ => simp [agrees]

variable {number : Int}

/-- A whole number that a codec cannot hold makes no codec. -/
theorem build_single_refused_of_bounds (known : (key, Kind.whole) ∈ parameterKinds scheme)
    (printable : Value.intIsPrintable number = true)
    (outside : number < -1 ∨ 16 < number ∧ key ∉ unboundedKeys) :
    ∃ cause, (build scheme [(.text key, .int number)]).result = .error (.configuration cause) := by
  have manageable : Kind.whole.IsManageable (.int number) := ⟨trivial, printable⟩
  obtain refused | ⟨codec, built⟩ := build_single_cases known manageable
  · exact refused
  · have held := given?_parameters_of_build built known (Properties.given?_single_int key number)
    obtain rfl := scheme_of_build built
    obtain ⟨least, greatest⟩ := bounds_of_parameters known held
    obtain below | ⟨above, bounded⟩ := outside
    · omega
    · obtain small | unbounded := greatest
      · omega
      · exact absurd unbounded bounded

/-- Every positive number makes a codec as the size of a block. -/
theorem exists_build_blockSize (printable : Value.intIsPrintable number = true)
    (positive : 0 < number) :
    ∃ codec, (build .blosc [(.text "blocksize", .int number)]).result = .ok codec := by
  have natural : (number.toNat : Int) = number := Int.toNat_of_nonneg (Int.le_of_lt positive)
  have single {α : Type} (read : ParameterName → Value → Parameter.Reading α)
      (owner name : String) :=
    @readOptional_single α read "blocksize" owner name (.int number) nofun
  let settings : Blosc.Settings := { Blosc.Settings.standard with blockSize := number.toNat }
  have accepted : Blosc.Settings.ofParts settings.label settings.level.val settings.shuffle.code
      number = .ok (settings.relabel settings.label rfl) := natural ▸ settings.ofParts_parts rfl
  have configured : configure .blosc [(.text "blocksize", .int number)] =
      .ok (.blosc (settings.relabel settings.label rfl)) := by
    simp only [configure, Blosc.Settings.ofProperties, single, String.reduceEq, if_false, if_true,
      ok_bind]
    exact congrArg (fun made => (made.mapError Fault.refuse).map blosc) accepted
  have size : ((settings.relabel settings.label rfl).blockSize : Int) = number := natural
  exact ⟨_, result_build_of_configure configured (isPrintable_blosc (size ▸ printable))⟩

/-- Every positive number makes a codec as a side or as the count of channels of an image. -/
theorem exists_build_dimension
    (dimension : key = "imageWidth" ∨ key = "imageHeight" ∨ key = "channels")
    (printable : Value.intIsPrintable number = true) (positive : 0 < number) :
    ∃ codec, (build .j2k [(.text key, .int number)]).result = .ok codec := by
  have natural : (number.toNat : Int) = number := Int.toNat_of_nonneg (Int.le_of_lt positive)
  have side : Raster.IsSide number := .inr positive
  have some_channels : 0 < number.toNat := by omega
  have unknown_side : Value.intIsPrintable (-1) = true := Value.intIsPrintable_of_lt (by decide)
  have one : Value.intIsPrintable 1 = true := Value.intIsPrintable_of_lt (by decide)
  have single {α : Type} (read : ParameterName → Value → Parameter.Reading α)
      (owner name : String) := @readOptional_single α read key owner name (.int number) nofun
  have built (settings : Raster.Settings)
      (made : configure .j2k [(.text key, .int number)] =
        ((Raster.Settings.ofParts settings.littleEndian settings.interleaved settings.width
          settings.height settings.sampleWidth.bits settings.channels settings.lossless
          settings.quality).mapError Fault.refuse).map raster)
      (shown : Value.intIsPrintable settings.width = true ∧
        Value.intIsPrintable settings.height = true ∧
          Value.intIsPrintable settings.channels = true) :
      ∃ codec, (build .j2k [(.text key, .int number)]).result = .ok codec := by
    rw [settings.ofParts_parts settings.quality] at made
    exact ⟨_, result_build_of_configure made ((isPrintable_raster_iff _).mpr shown)⟩
  rcases dimension with rfl | rfl | rfl
  · apply built { width := number, width_isSide := side }
    · simp only [configure, Raster.Settings.ofProperties, single, String.reduceEq, if_false,
        if_true, ok_bind]
      rfl
    · exact ⟨printable, unknown_side, one⟩
  · apply built { height := number, height_isSide := side }
    · simp only [configure, Raster.Settings.ofProperties, single, String.reduceEq, if_false,
        if_true, ok_bind]
      rfl
    · exact ⟨unknown_side, printable, one⟩
  · apply built { channels := number.toNat, channels_pos := some_channels }
    · simp only [configure, Raster.Settings.ofProperties, single, String.reduceEq, if_false,
        if_true, ok_bind, natural]
      rfl
    · exact ⟨unknown_side, unknown_side, natural.symm ▸ printable⟩

/-- Every positive number makes a codec as a size or a count. -/
theorem exists_build_single_of_pos (known : (key, Kind.whole) ∈ parameterKinds scheme)
    (unbounded : key ∈ unboundedKeys) (printable : Value.intIsPrintable number = true)
    (positive : 0 < number) :
    ∃ codec, (build scheme [(.text key, .int number)]).result = .ok codec := by
  cases scheme with
  | identity => cases known
  | zlib =>
    simp only [parameterKinds, List.mem_cons, Prod.mk.injEq, List.not_mem_nil, or_false,
      and_true] at known
    subst known
    exact absurd unbounded (by decide)
  | blosc =>
    simp only [parameterKinds, List.mem_cons, Prod.mk.injEq, List.not_mem_nil, or_false,
      reduceCtorEq, and_false, false_or, and_true] at known
    rcases known with rfl | rfl | rfl
    · exact absurd unbounded (by decide)
    · exact absurd unbounded (by decide)
    · exact exists_build_blockSize printable positive
  | j2k =>
    simp only [parameterKinds, List.mem_cons, Prod.mk.injEq, List.not_mem_nil, or_false,
      reduceCtorEq, and_false, false_or, and_true] at known
    rcases known with rfl | rfl | rfl | rfl
    · exact exists_build_dimension (.inl rfl) printable positive
    · exact exists_build_dimension (.inr (.inl rfl)) printable positive
    · exact absurd unbounded (by decide)
    · exact exists_build_dimension (.inr (.inr rfl)) printable positive

/-- A raster codec without a size and with one channel can be shown. -/
theorem isPrintable_unmeasured {settings : Raster.Settings} (width : settings.width = -1)
    (height : settings.height = -1) (channels : settings.channels = 1) :
    (raster settings).isPrintable = true := by
  rw [isPrintable_raster_iff, width, height, channels]
  refine ⟨?_, ?_, ?_⟩
  · exact Value.intIsPrintable_of_lt (by decide)
  · exact Value.intIsPrintable_of_lt (by decide)
  · exact Value.intIsPrintable_of_lt (by decide)

/-- A truth value makes a codec. -/
theorem exists_build_single_of_truth (known : (key, Kind.truth) ∈ parameterKinds scheme)
    (truth : Bool) : ∃ codec, (build scheme [(.text key, .bool truth)]).result = .ok codec := by
  have built {settings : Raster.Settings}
      (configured : configure .j2k [(.text key, .bool truth)] = .ok (.raster settings))
      (shown : (raster settings).isPrintable = true) :
      ∃ codec, (build .j2k [(.text key, .bool truth)]).result = .ok codec :=
    ⟨_, result_build_of_configure configured shown⟩
  cases scheme with
  | j2k =>
    simp only [parameterKinds, List.mem_cons, Prod.mk.injEq, List.not_mem_nil, or_false,
      reduceCtorEq, and_false, and_true] at known
    rcases known with rfl | rfl | rfl
    · exact @built { littleEndian := truth } rfl (isPrintable_unmeasured rfl rfl rfl)
    · exact @built { interleaved := truth } rfl (isPrintable_unmeasured rfl rfl rfl)
    · exact @built { lossless := truth } rfl (isPrintable_unmeasured rfl rfl rfl)
  | _ => simp [parameterKinds] at known

/-- Different whole numbers make different codecs. -/
theorem eq_of_build_single (known : (key, Kind.whole) ∈ parameterKinds scheme) {other : Int}
    {left right : Codec} (built : (build scheme [(.text key, .int number)]).result = .ok left)
    (also_built : (build scheme [(.text key, .int other)]).result = .ok right)
    (agree : left.agrees right = true) : number = other := by
  have given := Properties.given?_single_int key
  have held := given?_parameters_of_build built known (given number)
  have also_held := given?_parameters_of_build also_built known (given other)
  obtain rfl := scheme_of_build built
  rw [given?_eq_of_agrees agree known] at held
  exact Value.int.inj (Option.some.inj (held.symm.trans also_held))

/-- The quality of a codec that one parameter makes is unset, or it is what was read. -/
theorem quality_of_build_single (known : (key, kind) ∈ parameterKinds scheme) {value : Value}
    (some_value : value ≠ .none) {settings : Raster.Settings}
    (built : (build scheme [(.text key, value)]).result = .ok (.raster settings)) :
    settings.quality = .minusOne ∨
      kind = .real ∧ ∃ parameter, Parameter.readDouble parameter value = .ok settings.quality := by
  obtain rfl : CodecId.j2k = scheme := scheme_of_build built
  rw [result_build] at built
  obtain ⟨found, read, same⟩ := exists_of_build_eq_ok built
  obtain rfl := Codec.raster.inj same
  obtain ⟨quality, quality_read, read⟩ := exists_of_bind_eq_ok read
  have stands : found.quality = quality.getD .minusOne := by
    obtain ⟨littleEndian, _, read⟩ := exists_of_bind_eq_ok read
    obtain ⟨interleaved, _, read⟩ := exists_of_bind_eq_ok read
    obtain ⟨width, _, read⟩ := exists_of_bind_eq_ok read
    obtain ⟨height, _, read⟩ := exists_of_bind_eq_ok read
    obtain ⟨bits, _, read⟩ := exists_of_bind_eq_ok read
    obtain ⟨channels, _, read⟩ := exists_of_bind_eq_ok read
    obtain ⟨lossless, _, read⟩ := exists_of_bind_eq_ok read
    exact Raster.Settings.quality_of_ofParts (mapError_eq_ok_iff.mp read)
  rw [stands]
  rw [readOptional_single _ _ _ _ some_value] at quality_read
  split at quality_read
  · next same =>
    subst same
    obtain rfl : kind = .real := kind_unique known (by decide)
    right
    refine ⟨rfl, ⟨"j2k: ", "quality"⟩, ?_⟩
    cases read : Parameter.readDouble ⟨"j2k: ", "quality"⟩ value with
    | error fault =>
      rw [read] at quality_read
      cases quality_read
    | ok number =>
      rw [read] at quality_read
      obtain rfl := Except.ok.inj quality_read
      rfl
  · obtain rfl := Except.ok.inj quality_read
    exact .inl rfl

end Codec

end ChunkCodecs
