import ChunkCodecs.Proofs.Rebuilding
import ChunkCodecs.Proofs.Refusals
import Mathlib.Data.List.Nodup
import Mathlib.Tactic.SplitIfs

/-!
# Construction

A request for a codec leads to a codec or to a configuration fault, unless a number in it is too
large: it has too many digits for the wording of a refusal or of the record of the codec, or it
is beyond the doubles where a double is wanted. Which values are too large depends on the kinds
of the parameters alone, and each of them keeps a request from ending properly.
-/

namespace ChunkCodecs

/-- What a name is given is the value under it, unless that is the absent value. -/
theorem Properties.given?_eq_some_iff {properties : Properties} {name : String} {value : Value} :
    properties.given? name = some value ↔
      properties.lookup name = some value ∧ value ≠ .none := by
  rw [given?]
  split
  · next absent =>
    constructor
    · intro found
      cases found
    · rintro ⟨found, some_value⟩
      exact absurd (Option.some.inj (found.symm.trans absent)) some_value
  · next present =>
    refine ⟨fun found => ⟨found, ?_⟩, And.left⟩
    rintro rfl
    exact present found

/-- One entry gives its value to its own name alone, unless that is the absent value. -/
theorem Properties.given?_single_eq_some_iff {key name : String} {value found : Value} :
    given? [(.text key, value)] name = some found ↔
      key = name ∧ value = found ∧ found ≠ .none := by
  rw [given?_eq_some_iff, lookup_cons_text]
  by_cases same : key = name
  · simp [same]
  · simp [same, lookup, get?]

/-- Numbers from zero on that are less than a small one can be shown. -/
theorem Value.intIsPrintable_of_inRange {number greatest : Int} (small : greatest < 10 ^ 20)
    (inRange : 0 ≤ number ∧ number ≤ greatest) : intIsPrintable number = true :=
  intIsPrintable_of_lt (by omega)

/-- The compression levels are the numbers up to nine. -/
theorem Parameter.isSome_compressionLevel?_iff (number : Int) :
    (compressionLevel? number).isSome = true ↔ 0 ≤ number ∧ number ≤ 9 := by
  by_cases inRange : 0 ≤ number ∧ number ≤ 9 <;> simp [compressionLevel?, inRange]

/-- The numbers of filters are the numbers up to two. -/
theorem Blosc.Shuffle.isSome_ofCode?_iff (code : Int) :
    (ofCode? code).isSome = true ↔ 0 ≤ code ∧ code ≤ 2 := by
  simp only [ofCode?]
  grind

/-- A check of a deflate level ends well exactly if the level can be shown. -/
theorem Deflate.Settings.endsWith_ofLevel_iff {level : Int} :
    EndsProperly ((ofLevel level).mapError Fault.refuse) ↔ Value.intIsPrintable level = true := by
  rw [ofLevel]
  split
  · next found =>
    have inRange := (Parameter.isSome_compressionLevel?_iff level).mp (by simp [found])
    exact iff_of_true (endsProperly_ok _) (Value.intIsPrintable_of_inRange (by decide) inRange)
  · exact endsWith_refused_iff rfl

/-- A check of the parts of blosc settings ends well exactly if all numbers up to the first one
that is out of range can be shown, unless the compressor is unknown. -/
theorem Blosc.Settings.endsWith_ofParts_iff {label : Parameter.Label}
    {level shuffle blockSize : Int} :
    EndsWith (fun settings => Value.intIsPrintable settings.blockSize = true)
        ((ofParts label level shuffle blockSize).mapError Fault.refuse) ↔
      ((Compressor.ofName? label.content).isSome = true → Value.intIsPrintable level = true ∧
        (0 ≤ level ∧ level ≤ 9 → Value.intIsPrintable shuffle = true ∧
          (0 ≤ shuffle ∧ shuffle ≤ 2 → Value.intIsPrintable blockSize = true))) := by
  rw [← Parameter.isSome_compressionLevel?_iff, ← Shuffle.isSome_ofCode?_iff, ofParts]
  split
  · next unknown =>
    refine iff_of_true (endsWith_refuse_iff.mpr rfl) ?_
    simp [unknown]
  · next compressor known =>
    simp only [known, Option.isSome_some, forall_const]
    split
    · next outside => simpa [outside] using endsWith_refused_iff rfl
    · next found =>
      have inRange := (Parameter.isSome_compressionLevel?_iff level).mp (by simp [found])
      have shown := Value.intIsPrintable_of_inRange (by decide) inRange
      simp only [shown, found, Option.isSome_some, true_and, forall_const]
      split
      · next outside => simpa [outside] using endsWith_refused_iff rfl
      · next found =>
        have inRange := (Shuffle.isSome_ofCode?_iff shuffle).mp (by simp [found])
        have shown := Value.intIsPrintable_of_inRange (by decide) inRange
        simp only [shown, found, Option.isSome_some, true_and, forall_const]
        split
        · exact endsWith_refused_iff rfl
        · next nonnegative =>
          have size := Int.toNat_of_nonneg (Int.not_lt.mp nonnegative)
          simp [size]

/-- A check of the parts of raster settings ends well exactly if the first number that is out of
range can be shown, or all of them if none is. -/
theorem Raster.Settings.endsWith_ofParts_iff {littleEndian interleaved lossless : Bool}
    {width height bits channels : Int} {quality : Double} :
    EndsWith (fun settings => Value.intIsPrintable settings.width = true ∧
        Value.intIsPrintable settings.height = true ∧
          Value.intIsPrintable settings.channels = true)
        ((ofParts littleEndian interleaved width height bits channels lossless quality).mapError
          Fault.refuse) ↔
      if bits = 8 ∨ bits = 16 then
        if 0 < channels then
          if IsSide width then
            if IsSide height then Value.intIsPrintable width = true ∧
              Value.intIsPrintable height = true ∧ Value.intIsPrintable channels = true
            else Value.intIsPrintable height = true
          else Value.intIsPrintable width = true
        else Value.intIsPrintable channels = true
      else Value.intIsPrintable bits = true := by
  rw [ofParts]
  split
  · next outside =>
    have unsupported : ¬ (bits = 8 ∨ bits = 16) := by
      simp only [SampleWidth.ofBits?] at outside
      grind
    rw [if_neg unsupported]
    exact endsWith_refused_iff rfl
  · next found =>
    have supported : bits = 8 ∨ bits = 16 := by
      simp only [SampleWidth.ofBits?] at found
      grind
    rw [if_pos supported]
    by_cases positive : 0 < channels
    · by_cases widthIsSide : IsSide width
      · by_cases heightIsSide : IsSide height
        · have count := Int.toNat_of_nonneg (Int.le_of_lt positive)
          simp [positive, widthIsSide, heightIsSide, count]
        · simpa [positive, widthIsSide, heightIsSide] using endsWith_refused_iff rfl
      · simpa [positive, widthIsSide] using endsWith_refused_iff rfl
    · simpa [positive] using endsWith_refused_iff rfl

namespace Codec

open Parameter (Kind)

/-- A blosc codec can be shown exactly if the size of its blocks can be. -/
theorem isPrintable_blosc_iff (settings : Blosc.Settings) :
    (blosc settings).isPrintable = true ↔ Value.intIsPrintable settings.blockSize = true := by
  constructor
  · intro shown
    have block_size := List.all_eq_true.mp shown (.text "blocksize", .int settings.blockSize)
      (by simp [parameters, Blosc.Settings.toProperties])
    exact block_size
  · exact isPrintable_blosc

/-- A raster codec can be shown exactly if the sizes of its images can be. -/
theorem isPrintable_raster_iff (settings : Raster.Settings) :
    (raster settings).isPrintable = true ↔ Value.intIsPrintable settings.width = true ∧
      Value.intIsPrintable settings.height = true ∧
      Value.intIsPrintable settings.channels = true := by
  have bits : Value.intIsPrintable settings.sampleWidth.bits = true := by
    cases settings.sampleWidth <;> exact Value.intIsPrintable_of_lt (by decide)
  have quality : (if settings.quality.isNonnegative = true then
      [(Value.text "quality", Value.float settings.quality)] else []).all
        (fun entry => entry.2.isPrintable) = true := by
    split <;> rfl
  simp [isPrintable, parameters, Raster.Settings.toProperties, Value.isPrintable, bits, quality]

/-- The parameters of a scheme with their kinds. -/
def parameterKinds : CodecId → List (String × Kind)
  | .identity => []
  | .zlib => [("level", .whole)]
  | .blosc => [("cname", .text), ("clevel", .whole), ("shuffle", .whole), ("blocksize", .whole)]
  | .j2k =>
    [("littleEndian", .truth), ("interleaved", .truth), ("lossless", .truth),
      ("imageWidth", .whole), ("imageHeight", .whole), ("bitsPerSample", .whole),
      ("channels", .whole), ("quality", .real)]

/-- A parameter of a scheme has one kind. -/
theorem kind_unique {scheme : CodecId} {key : String} {kind other : Kind}
    (known : (key, kind) ∈ parameterKinds scheme) (also : (key, other) ∈ parameterKinds scheme) :
    kind = other := by
  have different : ((parameterKinds scheme).map Prod.fst).Nodup := by cases scheme <;> decide
  obtain ⟨_, rfl⟩ := List.inj_on_of_nodup_map different known also rfl
  rfl

/-- Every parameter of a scheme that properties give is given a manageable value. -/
def Manages (scheme : CodecId) (properties : Properties) : Prop :=
  ∀ entry ∈ parameterKinds scheme, ∀ value, properties.given? entry.1 = some value →
    entry.2.IsManageable value

/-- Building ends properly exactly if configuring ends with a codec that can be shown, or
properly. -/
theorem endsProperly_build_iff {scheme : CodecId} {properties : Properties} :
    EndsProperly (build scheme properties).result ↔
      EndsWith (fun codec => codec.isPrintable = true) (configure scheme properties) := by
  rw [build]
  cases configure scheme properties with
  | error fault => exact endsWith_error_congr
  | ok codec => by_cases shown : codec.isPrintable = true <;> simp [shown]

/-- Manageable properties configure a codec that can be shown, or are refused properly. -/
theorem endsWith_configure {scheme : CodecId} {properties : Properties}
    (manages : Manages scheme properties) :
    EndsWith (fun codec => codec.isPrintable = true) (configure scheme properties) := by
  cases scheme with
  | identity => exact .result rfl
  | zlib =>
    rw [configure, endsWith_map_iff]
    have level := @Parameter.endsWith_readOptional_readInt properties ⟨"zlib: ", "level"⟩
      (manages _ (show ("level", Kind.whole) ∈ _ by decide))
    refine level.bind fun level level_shown => ?_
    refine (Deflate.Settings.endsWith_ofLevel_iff.mpr (level_shown _ ?_)).mono
      fun settings _ => isPrintable_deflate settings
    exact Value.intIsPrintable_of_lt (by decide)
  | blosc =>
    rw [configure, endsWith_map_iff]
    have read (key : String) (known : (key, Kind.whole) ∈ parameterKinds .blosc) :=
      @Parameter.endsWith_readOptional_readInt properties ⟨"blosc: ", key⟩ (manages _ known)
    have named : EndsProperly (Parameter.readOptional Parameter.readText properties
        ⟨"blosc: ", "cname"⟩) :=
      (Parameter.endsProperly_readOptional_iff .text).mpr fun _ _ => trivial
    refine named.bind fun label _ => ?_
    refine (read "clevel" (by decide)).bind fun level level_shown => ?_
    refine (read "shuffle" (by decide)).bind fun shuffle shuffle_shown => ?_
    refine (read "blocksize" (by decide)).bind fun blockSize size_shown => ?_
    refine (Blosc.Settings.endsWith_ofParts_iff.mpr fun _ =>
      ⟨level_shown _ ?_, fun _ => ⟨shuffle_shown _ ?_, fun _ => size_shown _ ?_⟩⟩).mono
        fun settings => isPrintable_blosc
    · exact Value.intIsPrintable_of_lt (by decide)
    · exact Value.intIsPrintable_of_lt (by decide)
    · exact Value.intIsPrintable_of_lt (by decide)
  | j2k =>
    rw [configure, endsWith_map_iff]
    have number (key : String) (known : (key, Kind.whole) ∈ parameterKinds .j2k) :=
      @Parameter.endsWith_readOptional_readInt properties ⟨"j2k: ", key⟩ (manages _ known)
    have truth (key : String) (known : (key, Kind.truth) ∈ parameterKinds .j2k) :
        EndsProperly (Parameter.readOptional Parameter.readBool properties ⟨"j2k: ", key⟩) :=
      (Parameter.endsProperly_readOptional_iff .truth).mpr fun value given =>
        (manages _ known value given).1
    have quality : EndsProperly (Parameter.readOptional Parameter.readDouble properties
        ⟨"j2k: ", "quality"⟩) :=
      (Parameter.endsProperly_readOptional_iff .real).mpr fun value given =>
        (manages ("quality", .real) (by decide) value given).1
    refine quality.bind fun quality _ => ?_
    refine (truth "littleEndian" (by decide)).bind fun littleEndian _ => ?_
    refine (truth "interleaved" (by decide)).bind fun interleaved _ => ?_
    refine (number "imageWidth" (by decide)).bind fun width width_shown => ?_
    refine (number "imageHeight" (by decide)).bind fun height height_shown => ?_
    refine (number "bitsPerSample" (by decide)).bind fun bits bits_shown => ?_
    refine (number "channels" (by decide)).bind fun channels channels_shown => ?_
    refine (truth "lossless" (by decide)).bind fun lossless _ => ?_
    have standard (number : Int) (small : number.natAbs < 10 ^ 20) :=
      @Value.intIsPrintable_of_lt number small
    have width_shown := width_shown (-1) (standard _ (by decide))
    have height_shown := height_shown (-1) (standard _ (by decide))
    have bits_shown := bits_shown 8 (standard _ (by decide))
    have channels_shown := channels_shown 1 (standard _ (by decide))
    refine (Raster.Settings.endsWith_ofParts_iff.mpr ?_).mono fun settings =>
      (isPrintable_raster_iff settings).mpr
    split_ifs
    · exact ⟨width_shown, height_shown, channels_shown⟩
    · exact height_shown
    · exact width_shown
    · exact channels_shown
    · exact bits_shown

/-- A request gives the scheme that is asked for and its properties. -/
def request (first : Value) (further : List Value) (options : Properties) :
    Except ConfigurationFault (CodecId × Properties) :=
  (gather first further).bind fun (id, properties) =>
    (resolve id).map fun scheme => (scheme, properties.update options)

/-- A request that is not understood is refused, and a codec is built for one that is. -/
theorem result_create (first : Value) (further : List Value) (options : Properties) :
    (create first further options).result =
      (request first further options).mapError Fault.refuse >>= fun asked =>
        (build asked.1 asked.2).result := by
  rw [create, request]
  cases gather first further with
  | error cause => rfl
  | ok gathered =>
    obtain ⟨id, properties⟩ := gathered
    cases resolved : resolve id with
    | error cause => simp only [resolved, Except.bind, Except.map]; rfl
    | ok scheme => simp only [resolved, Except.bind, Except.map]; rfl

/-- An identifier and a dictionary are gathered as they are. -/
theorem gather_dict {id : Value} (plain : ∀ entries, id ≠ .dict entries) (properties : Properties) :
    gather id [.dict properties] = .ok (id, properties) := by
  cases id with
  | dict entries => exact absurd rfl (plain entries)
  | _ => rfl

/-- With an identifier and a dictionary the codec is built of the properties in the dictionary. -/
theorem result_create_dict {id : Value} {scheme : CodecId} (resolved : resolve id = .ok scheme)
    (properties : Properties) :
    (create id [.dict properties] []).result = (build scheme properties).result := by
  have plain (entries : Properties) : id ≠ .dict entries := by
    rintro rfl
    cases resolved
  simp only [create, gather_dict plain, resolved]
  rfl

/-- A parameter is read of the one value that is given, and no other one is given any. -/
theorem readOptional_single {α : Type} (read : ParameterName → Value → Parameter.Reading α)
    (key owner name : String) {value : Value} (some_value : value ≠ .none) :
    Parameter.readOptional read [(.text key, value)] ⟨owner, name⟩ =
      if key = name then (read ⟨owner, name⟩ value).map some else .ok none := by
  by_cases same : key = name
  · have given := Properties.given?_single_eq_some_iff.mpr ⟨same, rfl, some_value⟩
    rw [Parameter.readOptional_of_given given, if_pos same]
  · have missing : Properties.given? [(.text key, value)] name = none := by
      rw [Properties.given?_cons_of_ne same]
      rfl
    rw [Parameter.readOptional_of_not_given missing, if_neg same]

/-- One manageable value is all that a scheme has to manage. -/
theorem manages_single {scheme : CodecId} {key : String} {kind : Kind}
    (known : (key, kind) ∈ parameterKinds scheme) {value : Value}
    (manageable : kind.IsManageable value) : Manages scheme [(.text key, value)] := by
  rintro ⟨name, other⟩ member found given
  obtain ⟨rfl, rfl, _⟩ := Properties.given?_single_eq_some_iff.mp given
  obtain rfl := kind_unique known member
  exact manageable

/-- A value that a parameter of a scheme neither reads nor refuses properly keeps the scheme from
being configured. -/
theorem not_endsWith_configure_of_not_canRead {scheme : CodecId} {key : String} {kind : Kind}
    (known : (key, kind) ∈ parameterKinds scheme) {value : Value}
    (unreadable : ¬ kind.CanRead value) {good : Codec → Prop} :
    ¬ EndsWith good (configure scheme [(.text key, value)]) := by
  have some_value : value ≠ .none := by
    rintro rfl
    apply unreadable
    cases kind with
    | truth => exact rfl
    | _ => exact trivial
  have escapes (parameter : ParameterName) :
      ¬ EndsProperly ((kind.read parameter value).map some) := by
    rw [EndsProperly, endsWith_map_iff]
    exact mt (Parameter.endsProperly_read_iff kind parameter value).mp unreadable
  have single {α : Type} (read : ParameterName → Value → Parameter.Reading α)
      (owner name : String) := readOptional_single read key owner name some_value
  cases scheme with
  | identity => simp [parameterKinds] at known
  | zlib =>
    simp only [parameterKinds, List.mem_cons, Prod.mk.injEq, List.not_mem_nil, or_false] at known
    obtain ⟨rfl, rfl⟩ := known
    rw [configure, endsWith_map_iff, Deflate.Settings.ofProperties, single]
    exact not_endsWith_bind (escapes _)
  | blosc =>
    simp only [parameterKinds, List.mem_cons, Prod.mk.injEq, List.not_mem_nil, or_false] at known
    rw [configure, endsWith_map_iff, Blosc.Settings.ofProperties]
    simp only [single]
    rcases known with ⟨rfl, rfl⟩ | ⟨rfl, rfl⟩ | ⟨rfl, rfl⟩ | ⟨rfl, rfl⟩ <;>
      simp only [String.reduceEq, if_false, if_true, ok_bind] <;>
      exact not_endsWith_bind (escapes _)
  | j2k =>
    simp only [parameterKinds, List.mem_cons, Prod.mk.injEq, List.not_mem_nil, or_false] at known
    rw [configure, endsWith_map_iff, Raster.Settings.ofProperties]
    simp only [single]
    rcases known with ⟨rfl, rfl⟩ | ⟨rfl, rfl⟩ | ⟨rfl, rfl⟩ | ⟨rfl, rfl⟩ | ⟨rfl, rfl⟩ |
        ⟨rfl, rfl⟩ | ⟨rfl, rfl⟩ | ⟨rfl, rfl⟩ <;>
      simp only [String.reduceEq, if_false, if_true, ok_bind] <;>
      exact not_endsWith_bind (escapes _)

/-- A whole number that cannot be shown keeps a scheme from being configured: it is out of range
and cannot be shown in the refusal, or the codec cannot be shown with it. -/
theorem not_endsWith_configure_of_not_printable {scheme : CodecId} {key : String}
    (known : (key, Kind.whole) ∈ parameterKinds scheme) {value : Value} {number : Int}
    (read : ∀ parameter, Parameter.readInt parameter value = .ok number)
    (unprintable : ¬ Value.intIsPrintable number = true) :
    ¬ EndsWith (fun codec => codec.isPrintable = true) (configure scheme [(.text key, value)]) := by
  have large := mt Value.intIsPrintable_of_lt unprintable
  have some_value : value ≠ .none := by
    rintro rfl
    cases read ⟨"", ""⟩
  have single {α : Type} (read : ParameterName → Value → Parameter.Reading α)
      (owner name : String) := readOptional_single read key owner name some_value
  cases scheme with
  | identity => simp [parameterKinds] at known
  | zlib =>
    simp only [parameterKinds, List.mem_cons, Prod.mk.injEq, List.not_mem_nil, or_false] at known
    obtain ⟨rfl, -⟩ := known
    rw [configure, endsWith_map_iff, Deflate.Settings.ofProperties, single, if_pos rfl, read]
    intro ends
    exact unprintable (Deflate.Settings.endsWith_ofLevel_iff.mp (ends.mono fun _ _ => trivial))
  | blosc =>
    simp only [parameterKinds, List.mem_cons, Prod.mk.injEq, List.not_mem_nil, or_false,
      reduceCtorEq, and_false, false_or, and_true] at known
    rw [configure, endsWith_map_iff, Blosc.Settings.ofProperties]
    simp only [single, isPrintable_blosc_iff]
    rcases known with rfl | rfl | rfl <;>
      simp only [String.reduceEq, if_false, if_true, ok_bind, read, Except.map] <;>
      intro ends <;>
      have shown := Blosc.Settings.endsWith_ofParts_iff.mp ends rfl
    · exact unprintable shown.1
    · exact unprintable (shown.2 (by decide)).1
    · exact unprintable ((shown.2 (by decide)).2 (by decide))
  | j2k =>
    simp only [parameterKinds, List.mem_cons, Prod.mk.injEq, List.not_mem_nil, or_false,
      reduceCtorEq, and_false, false_or, and_true] at known
    rw [configure, endsWith_map_iff, Raster.Settings.ofProperties]
    simp only [single, isPrintable_raster_iff]
    have unknown_side : Raster.IsSide (-1) := by decide
    have unsupported : ¬ (number = 8 ∨ number = 16) := by omega
    rcases known with rfl | rfl | rfl | rfl <;>
      simp only [String.reduceEq, if_false, if_true, ok_bind, read, Except.map] <;>
      intro ends <;>
      have shown := Raster.Settings.endsWith_ofParts_iff.mp ends <;>
      simp [unknown_side, unsupported, unprintable] at shown

/-- A value that is not manageable keeps a scheme from being configured. -/
theorem not_endsWith_configure {scheme : CodecId} {key : String} {kind : Kind}
    (known : (key, kind) ∈ parameterKinds scheme) {value : Value}
    (unmanageable : ¬ kind.IsManageable value) :
    ¬ EndsWith (fun codec => codec.isPrintable = true) (configure scheme [(.text key, value)]) := by
  by_cases readable : kind.CanRead value
  · have unprintable := mt (And.intro readable) unmanageable
    split at unprintable
    · exact not_endsWith_configure_of_not_printable known (fun _ => rfl) unprintable
    · exact not_endsWith_configure_of_not_printable known (fun _ => rfl) unprintable
    · exact absurd trivial unprintable
  · exact not_endsWith_configure_of_not_canRead known readable

/-- A request ends properly if it is refused before a codec is built, and the refusal can be
worded, or if all parameters that it gives are given manageable values. One value that is not
manageable is enough for a request that does not end properly, and so is a refusal that cannot
be worded. A reader of parameters ends properly exactly if it can read or refuse the value, and
a number has a nearest double exactly if it is below the middle between the greatest double and
the power of two above it. -/
theorem endsProperly_create (first : Value) (further : List Value) (options : Properties) :
    (∀ cause, request first further options = .error cause →
      (EndsProperly (create first further options).result ↔
        cause.shownValues.all Value.isPrintable = true)) ∧
    (∀ scheme properties,
      request first further options = .ok (scheme, properties) → Manages scheme properties →
        EndsProperly (create first further options).result) ∧
    (∀ scheme key kind value, (key, kind) ∈ parameterKinds scheme →
      (EndsProperly (create (.text scheme.name) [.dict [(.text key, value)]] []).result ↔
        kind.IsManageable value)) ∧
    (∀ (kind : Kind) (properties : Properties) (parameter : ParameterName),
      EndsProperly (Parameter.readOptional kind.read properties parameter) ↔
        ∀ value, properties.given? parameter.key = some value → kind.CanRead value) ∧
    (∀ (numerator : Int) (denominator : Nat), 0 < denominator →
      (Parameter.HasNearestDouble numerator denominator ↔
        numerator.natAbs < (2 ^ 54 - 1) * 2 ^ 970 * denominator)) := by
  refine ⟨?_, ?_, ?_, ?_, ?_⟩
  · intro cause refused
    rw [result_create, refused]
    exact endsProperly_refuse_iff
  · intro scheme properties understood manages
    rw [result_create, understood]
    exact endsProperly_build_iff.mpr (endsWith_configure manages)
  · intro scheme key kind value known
    have resolved : resolve (.text scheme.name) = .ok scheme := by
      rw [resolve, CodecId.ofText?_name]
    rw [result_create_dict resolved, endsProperly_build_iff]
    constructor
    · exact fun ends => Classical.byContradiction fun unmanageable =>
        not_endsWith_configure known unmanageable ends
    · intro manageable
      exact endsWith_configure (manages_single known manageable)
  · intro kind properties parameter
    exact Parameter.endsProperly_readOptional_iff kind
  · intro numerator denominator positive
    exact Parameter.hasNearestDouble_iff positive

/-- The sides of an image in a text and as a fraction, and a quality that is a fraction. -/
def mixedProperties : Properties :=
  [(.text "imageWidth", .text " 12 "), (.text "imageHeight", .fraction 12 1),
    (.text "quality", .fraction 81 2)]

/-- A number that has one digit more than can be shown. -/
def longNumber : Int := 10 ^ Numeral.maxDigits

/-- A request in which numbers are texts and fractions ends properly, and so does one for a codec
that is identified by a list; one for blocks whose size has too many digits does not. -/
theorem endsProperly_mixedProperties :
    EndsProperly (create (.text " JPEG2000 ") [.dict mixedProperties] []).result ∧
      EndsProperly (create (.list []) [] []).result ∧
      ¬ EndsProperly (create (.text "blosc")
        [.dict [(.text "blocksize", .int longNumber)]] []).result := by
  obtain ⟨_, managed, single, _, near⟩ :=
    endsProperly_create (.text " JPEG2000 ") [.dict mixedProperties] []
  obtain ⟨refused, _⟩ := endsProperly_create (.list []) [] []
  have understood : request (.text " JPEG2000 ") [.dict mixedProperties] [] =
      .ok (.j2k, mixedProperties) := rfl
  have unknown : request (.list []) [] [] = .error (.unknownId (.list [])) := rfl
  have manages : Manages .j2k mixedProperties := by
    intro entry member value given
    simp only [parameterKinds, List.mem_cons, List.not_mem_nil, or_false] at member
    rcases member with rfl | rfl | rfl | rfl | rfl | rfl | rfl | rfl <;> cases given
    · exact ⟨trivial, trivial⟩
    · have bounded := (near 12 1 (by decide)).mpr (by decide +kernel)
      exact ⟨⟨bounded, .inl rfl⟩, trivial⟩
    · have bounded := (near 81 2 (by decide)).mpr (by decide +kernel)
      exact ⟨bounded, trivial⟩
  have hidden : Value.intIsPrintable longNumber = false := by decide +kernel
  refine ⟨?_, ?_, ?_⟩
  · exact managed _ _ understood manages
  · exact (refused _ unknown).mpr rfl
  · intro ends
    have manageable := (single .blosc "blocksize" .whole (.int longNumber) (by decide)).mp ends
    exact Bool.false_ne_true (hidden.symm.trans manageable.2)

/-- A quality that is beyond every double is not refused: the conversion fails instead, and so it
does in the reader. A size of blocks with too many digits is accepted, and what fails is the
record of the codec. -/
theorem not_endsProperly_of_huge :
    ¬ EndsProperly (create (.text "j2k") [.dict [(.text "quality", .int (10 ^ 400))]] []).result ∧
      ¬ EndsProperly (Parameter.readOptional Parameter.readDouble
        [(.text "quality", .int (10 ^ 400))] ⟨"j2k: ", "quality"⟩) ∧
      ¬ EndsProperly (create (.text "blosc")
        [.dict [(.text "blocksize", .int longNumber)]] []).result := by
  decide +kernel

end Codec

end ChunkCodecs
