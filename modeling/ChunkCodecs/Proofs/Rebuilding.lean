import ChunkCodecs.Codec.Create
import ChunkCodecs.Proofs.Parameters

/-!
# Codecs rebuilt from what is persisted

A codec is persisted as its configuration: its identifier and its parameters. Building
a codec from the configuration always succeeds, and so does building one from the
identifier and the parameters; both give the same codec. It is the codec that was
persisted, except that a raster codec loses its quality if that is negative or not a
number: the parameters leave such a quality out, and the rebuilt codec has the quality
minus one, whatever the original one was.
-/

namespace ChunkCodecs

/-- A compression level is the one of its number. -/
theorem Parameter.compressionLevel?_val (level : CompressionLevel) :
    compressionLevel? level.val = some level := by
  have inRange : (0 : Int) ≤ level.val ∧ (level.val : Int) ≤ 9 := by omega
  rw [compressionLevel?, dif_pos inRange]
  rfl

/-- A level is accepted. -/
theorem Deflate.Settings.ofLevel_level (settings : Deflate.Settings) :
    ofLevel settings.level.val = .ok settings := by
  rw [ofLevel, Parameter.compressionLevel?_val]

/-- The settings of a deflate codec are read where the properties give their level. -/
theorem Deflate.Settings.ofProperties_of_given (settings : Deflate.Settings)
    {properties : Properties} (level : properties.given? "level" = some (.int settings.level.val)) :
    ofProperties properties = .ok settings := by
  rw [ofProperties, Parameter.readInt_of_given level]
  show (ofLevel settings.level.val).mapError Fault.refuse = _
  rw [ofLevel_level]
  rfl

/-- A filter is the one of its number. -/
theorem Blosc.Shuffle.ofCode?_code (shuffle : Shuffle) : ofCode? shuffle.code = some shuffle := by
  cases shuffle <;> rfl

/-- An internal compressor is the one of its name. -/
theorem Blosc.Compressor.ofName?_name (compressor : Compressor) :
    ofName? compressor.name = some compressor := by
  cases compressor <;> decide

namespace Blosc.Settings

/-- The settings with the same name of the compressor, given another way. -/
def relabel (settings : Settings) (label : Parameter.Label)
    (same : label.content = settings.label.content) : Settings :=
  { settings with label := label, label_content := same.trans settings.label_content }

/-- The parts of settings are accepted, the name given in any way. -/
theorem ofParts_parts (settings : Settings) {label : Parameter.Label}
    (same : label.content = settings.label.content) :
    ofParts label settings.level.val settings.shuffle.code settings.blockSize =
      .ok (settings.relabel label same) := by
  have known : Compressor.ofName? label.content = some settings.compressor := by
    rw [same, settings.label_content, Compressor.ofName?_name]
  have size : ¬ (settings.blockSize : Int) < 0 := by omega
  rw [ofParts]
  split
  · next unknown => exact absurd (unknown.symm.trans known) nofun
  · next compressor found =>
    obtain rfl := Option.some.inj (found.symm.trans known)
    simp only [Parameter.compressionLevel?_val, Shuffle.ofCode?_code, size, if_false]
    rfl

/-- The settings of a blosc codec are read where the properties give all four of them. -/
theorem ofProperties_of_given (settings : Settings) {label : Parameter.Label}
    (same : label.content = settings.label.content) {properties : Properties}
    (cname : properties.given? "cname" = some label.toValue)
    (level : properties.given? "clevel" = some (.int settings.level.val))
    (shuffle : properties.given? "shuffle" = some (.int settings.shuffle.code))
    (blockSize : properties.given? "blocksize" = some (.int settings.blockSize)) :
    ofProperties properties = .ok (settings.relabel label same) := by
  rw [ofProperties, Parameter.readText_of_given cname, Parameter.readInt_of_given level,
    Parameter.readInt_of_given shuffle, Parameter.readInt_of_given blockSize]
  show (ofParts label settings.level.val settings.shuffle.code settings.blockSize).mapError _ = _
  rw [settings.ofParts_parts same]
  rfl

end Blosc.Settings

/-- A width is the one of its bits. -/
theorem Raster.SampleWidth.ofBits?_bits (width : SampleWidth) : ofBits? width.bits = some width := by
  cases width <;> rfl

namespace Raster.Settings

/-- The parts of settings are accepted, with any quality. -/
theorem ofParts_parts (settings : Settings) (quality : Double) :
    ofParts settings.littleEndian settings.interleaved settings.width settings.height
      settings.sampleWidth.bits settings.channels settings.lossless quality =
        .ok { settings with quality } := by
  have positive : (0 : Int) < settings.channels := by
    have some_channel := settings.channels_pos
    omega
  rw [ofParts, SampleWidth.ofBits?_bits]
  simp only [dif_pos positive, dif_pos settings.width_isSide, dif_pos settings.height_isSide]
  rfl

/-- The settings of a raster codec are read where the properties give all of them, with
the quality that is read, or minus one if none is. -/
theorem ofProperties_of_given (settings : Settings) {asked : Option Double}
    {properties : Properties}
    (littleEndian : properties.given? "littleEndian" = some (.bool settings.littleEndian))
    (interleaved : properties.given? "interleaved" = some (.bool settings.interleaved))
    (width : properties.given? "imageWidth" = some (.int settings.width))
    (height : properties.given? "imageHeight" = some (.int settings.height))
    (bits : properties.given? "bitsPerSample" = some (.int settings.sampleWidth.bits))
    (channels : properties.given? "channels" = some (.int settings.channels))
    (lossless : properties.given? "lossless" = some (.bool settings.lossless))
    (quality : Parameter.readOptional Parameter.readDouble properties ⟨"j2k: ", "quality"⟩ =
      .ok asked) :
    ofProperties properties = .ok { settings with quality := asked.getD .minusOne } := by
  simp only [ofProperties, quality, Parameter.readBool_of_given littleEndian,
    Parameter.readBool_of_given interleaved, Parameter.readInt_of_given width,
    Parameter.readInt_of_given height, Parameter.readInt_of_given bits,
    Parameter.readInt_of_given channels, Parameter.readBool_of_given lossless]
  show (ofParts settings.littleEndian settings.interleaved settings.width settings.height
      settings.sampleWidth.bits settings.channels settings.lossless
      (asked.getD .minusOne)).mapError _ = _
  rw [ofParts_parts]
  rfl

end Raster.Settings

/-- The settings as their properties hold them: the quality is minus one where it is
left out. -/
def Raster.Settings.kept (settings : Settings) : Settings :=
  { settings with quality := if settings.quality.isNonnegative then settings.quality else .minusOne }

/-- The properties hold as much of the kept settings as of the settings. -/
theorem Raster.Settings.toProperties_kept (settings : Settings) :
    settings.kept.toProperties = settings.toProperties := by
  have unset : Double.minusOne.isNonnegative = false := rfl
  by_cases shown : settings.quality.isNonnegative = true
  · simp only [kept, shown, if_true]
  · simp only [toProperties, kept, shown, unset, Bool.false_eq_true, if_false]

/-- Kept settings are equal to the settings if the quality is shown or unset in the one
way in which it is read back. -/
theorem Raster.Settings.kept_agrees_iff (settings : Settings) :
    settings.kept.agrees settings = true ↔
      settings.quality.isNonnegative = true ∨ settings.quality = .minusOne := by
  have others : settings.kept.agrees settings =
      settings.kept.quality.numericallyEqual settings.quality := by
    simp [agrees, kept]
  rw [others]
  by_cases shown : settings.quality.isNonnegative = true
  · have equal : settings.quality.numericallyEqual settings.quality = true := by
      cases quality : settings.quality with
      | nan => rw [quality] at shown; cases shown
      | infinite negative => simp [Double.numericallyEqual]
      | finite value => simp [Double.numericallyEqual]
    simp [kept, shown, equal]
  · have unset : settings.kept.quality = .minusOne := if_neg shown
    rw [unset]
    constructor
    · intro equal
      right
      cases quality : settings.quality with
      | nan => rw [quality] at equal; cases equal
      | infinite negative => rw [quality] at equal; cases equal
      | finite value =>
        obtain ⟨negative, significand, exponent, canonical⟩ := value
        rw [quality] at equal
        simp [Double.minusOne, Double.numericallyEqual] at equal
        obtain ⟨⟨rfl, rfl⟩, rfl⟩ := equal
        rfl
    · rintro (impossible | same)
      · exact absurd impossible shown
      · rw [same]
        rfl

namespace Codec

/-- The codec as its parameters hold it. -/
def kept : Codec → Codec
  | identity => identity
  | deflate settings => deflate settings
  | blosc settings => blosc settings
  | raster settings => raster settings.kept

/-- Whether the parameters hold a codec in full: they do unless it is a raster codec with
a quality that is not a number, or that is negative and not minus one. -/
def IsHeld : Codec → Prop
  | raster settings => settings.quality.isNonnegative = true ∨ settings.quality = .minusOne
  | _ => True

/-- The parameters do not tell a codec from what they hold of it. -/
theorem parameters_kept (codec : Codec) : codec.kept.parameters = codec.parameters := by
  cases codec with
  | raster settings => exact settings.toProperties_kept
  | _ => rfl

/-- What is kept of a codec is equal to the codec if the parameters hold it in full. -/
theorem kept_agrees_iff (codec : Codec) : codec.kept.agrees codec = true ↔ codec.IsHeld := by
  cases codec with
  | identity => simp [kept, agrees, IsHeld]
  | deflate settings => simp [kept, agrees, IsHeld]
  | blosc settings => simp [kept, agrees, IsHeld, Blosc.Settings.agrees]
  | raster settings => exact settings.kept_agrees_iff

/-- Properties that give every parameter what the parameters of a codec give it make
what is kept of the codec. -/
theorem configure_of_alike {codec : Codec} {properties : Properties}
    (alike : ∀ name, name ≠ "id" → properties.given? name = codec.parameters.given? name) :
    configure codec.scheme properties = .ok codec.kept := by
  cases codec with
  | identity => rfl
  | deflate settings =>
    have level := alike "level" (by decide)
    rw [scheme, configure, settings.ofProperties_of_given level]
    rfl
  | blosc settings =>
    have cname : properties.given? "cname" = some settings.label.toValue := by
      rw [alike "cname" (by decide)]
      cases label : settings.label <;>
        simp [parameters, Blosc.Settings.toProperties, Properties.given?,
          Properties.lookup_cons_text, label, Parameter.Label.toValue]
    have level := alike "clevel" (by decide)
    have shuffle := alike "shuffle" (by decide)
    have blockSize := alike "blocksize" (by decide)
    rw [scheme, configure, settings.ofProperties_of_given rfl cname level shuffle blockSize]
    rfl
  | raster settings =>
    have quality : Parameter.readOptional Parameter.readDouble properties ⟨"j2k: ", "quality"⟩ =
        .ok (if settings.quality.isNonnegative then some settings.quality else none) := by
      have given := alike "quality" (by decide)
      by_cases shown : settings.quality.isNonnegative = true
      · have held : properties.given? "quality" = some (.float settings.quality) := by
          rw [given]
          simp [parameters, Raster.Settings.toProperties, shown, Properties.given?,
            Properties.lookup_cons_text]
        rw [Parameter.readDouble_of_given held, if_pos shown]
      · have missing : properties.given? "quality" = none := by
          rw [given]
          simp [parameters, Raster.Settings.toProperties, shown, Properties.given?,
            Properties.lookup_cons_text]
          rfl
        rw [Parameter.readOptional_of_not_given missing, if_neg shown]
    rw [scheme, configure, settings.ofProperties_of_given (alike "littleEndian" (by decide))
      (alike "interleaved" (by decide)) (alike "imageWidth" (by decide))
      (alike "imageHeight" (by decide)) (alike "bitsPerSample" (by decide))
      (alike "channels" (by decide)) (alike "lossless" (by decide)) quality]
    simp only [Except.map, kept, Raster.Settings.kept]
    by_cases shown : settings.quality.isNonnegative = true <;> simp [shown]

/-- Building logs what it builds, and succeeds if the settings are accepted and can be shown. -/
theorem result_build_of_configure {scheme : CodecId} {properties : Properties} {codec : Codec}
    (configured : configure scheme properties = .ok codec) (printable : codec.isPrintable = true) :
    (build scheme properties).result = .ok codec := by
  rw [build, configured]
  simp only [printable, if_true]

/-- A deflate codec can be shown. -/
theorem isPrintable_deflate (settings : Deflate.Settings) :
    (deflate settings).isPrintable = true := by
  simp [isPrintable, parameters, Deflate.Settings.toProperties, Value.isPrintable,
    Value.intIsPrintable_compressionLevel]

/-- A blosc codec can be shown if the size of its blocks can be. -/
theorem isPrintable_blosc {settings : Blosc.Settings}
    (blockSize : Value.intIsPrintable settings.blockSize = true) :
    (blosc settings).isPrintable = true := by
  have shuffle : Value.intIsPrintable settings.shuffle.code = true := by
    cases settings.shuffle <;> exact Value.intIsPrintable_of_lt (by decide)
  cases label : settings.label <;>
    simp [isPrintable, parameters, Blosc.Settings.toProperties, Value.isPrintable, label,
      Parameter.Label.toValue, Value.intIsPrintable_compressionLevel, shuffle, blockSize]

/-- A codec that was built can be shown. -/
theorem isPrintable_of_build {scheme : CodecId} {properties : Properties} {codec : Codec}
    (built : (build scheme properties).result = .ok codec) : codec.isPrintable = true := by
  rw [build] at built
  split at built
  · cases built
  · next configured accepted =>
    by_cases printable : configured.isPrintable = true
    · simp only [printable, if_true] at built
      obtain rfl := Except.ok.inj built
      exact printable
    · simp only [printable, Bool.false_eq_true, if_false] at built
      cases built

/-- A codec that is built from any arguments can be shown. -/
theorem isPrintable_of_create {first : Value} {further : List Value} {options : Properties}
    {codec : Codec} (created : (create first further options).result = .ok codec) :
    codec.isPrintable = true := by
  rw [create] at created
  split at created
  · cases created
  · split at created
    · cases created
    · exact isPrintable_of_build created

/-- A codec that is built as a caller asks for it can be shown. -/
theorem isPrintable_of_call {arguments : List Value} {options : Properties} {codec : Codec}
    (created : (call arguments options).result = .ok codec) : codec.isPrintable = true := by
  simp only [call] at created
  split at created
  · cases created
  · split at created
    · exact isPrintable_of_create created
    · exact isPrintable_of_create created
    · cases created
    · cases created

/-- The shown parameters of a codec are those of what is kept of it. -/
theorem isPrintable_kept (codec : Codec) : codec.kept.isPrintable = codec.isPrintable := by
  rw [isPrintable, parameters_kept, isPrintable]

/-- Without options a call is about its arguments alone. -/
theorem call_cons_nil (first : Value) (further : List Value) :
    call (first :: further) [] = create first further [] := by
  simp only [call, Properties.keys, List.map_nil, List.any_nil, Bool.false_eq_true, if_false,
    Properties.lookup, Properties.get?, List.filter_nil]

/-- The name of a codec's scheme is resolved. -/
theorem resolve_identifier (codec : Codec) :
    resolve (.text codec.identifier) = .ok codec.scheme := by
  rw [resolve, identifier, CodecId.ofText?_name]

/-- The configuration of a codec makes what is kept of it. -/
theorem call_configuration {codec : Codec} (printable : codec.isPrintable = true) :
    (call [.dict codec.configuration] []).result = .ok codec.kept := by
  have alike (name : String) (other : name ≠ "id") :
      codec.configuration.given? name = codec.parameters.given? name :=
    Properties.given?_cons_of_ne other.symm _ _
  have gathered : gather (.dict codec.configuration) [] =
      .ok (.text codec.identifier, codec.configuration) := by
    rw [gather, configuration, Properties.lookup_cons_text]
    rfl
  simp only [call_cons_nil, create, gathered, resolve_identifier]
  exact result_build_of_configure (configure_of_alike alike) (codec.isPrintable_kept.trans printable)

/-- The identifier and the parameters of a codec make what is kept of it. -/
theorem call_parameters {codec : Codec} (printable : codec.isPrintable = true) :
    (call [.text codec.identifier, .dict codec.parameters] []).result = .ok codec.kept := by
  simp only [call_cons_nil, create, gather, resolve_identifier]
  exact result_build_of_configure (configure_of_alike fun _ _ => rfl)
    (codec.isPrintable_kept.trans printable)

/-- A codec that was built, from whatever arguments, is built again from its configuration,
and from its identifier and its parameters. What is built is equal to the codec exactly if
the parameters hold the codec in full. -/
theorem rebuilt_agrees_iff {arguments : List Value} {options : Properties} {codec : Codec}
    (created : (call arguments options).result = .ok codec) :
    ∃ rebuilt, (call [.dict codec.configuration] []).result = .ok rebuilt ∧
      (call [.text codec.identifier, .dict codec.parameters] []).result = .ok rebuilt ∧
      (rebuilt.agrees codec = true ↔ codec.IsHeld) := by
  have printable := isPrintable_of_call created
  refine ⟨codec.kept, ?_, ?_, ?_⟩
  · exact call_configuration printable
  · exact call_parameters printable
  · exact codec.kept_agrees_iff

/-- A deflate codec asked for by a further name and a level in a text is rebuilt. -/
theorem deflate_rebuilt :
    (call [.text " Deflate ", .text "level", .text "5.0"] []).result = .ok (deflate ⟨5⟩) ∧
      ∃ rebuilt, (call [.dict (deflate ⟨5⟩).configuration] []).result = .ok rebuilt ∧
        (call [.text "zlib", .dict (deflate ⟨5⟩).parameters] []).result = .ok rebuilt ∧
        (rebuilt.agrees (deflate ⟨5⟩) = true ↔ (deflate ⟨5⟩).IsHeld) := by
  have gathered : gather (.text " Deflate ") [.text "level", .text "5.0"] =
      .ok (.text " Deflate ", [(.text "level", .text "5.0")]) := rfl
  have resolved : resolve (.text " Deflate ") = .ok .zlib := rfl
  have configured : configure .zlib [(.text "level", .text "5.0")] = .ok (deflate ⟨5⟩) := rfl
  have created : (call [.text " Deflate ", .text "level", .text "5.0"] []).result =
      .ok (deflate ⟨5⟩) := by
    simp only [call_cons_nil, create, gathered, resolved]
    exact result_build_of_configure configured (isPrintable_deflate _)
  exact ⟨created, rebuilt_agrees_iff created⟩

/-- Minus five. -/
def minusFive : Double := .finite ⟨true, 5 * 2 ^ 50, -50, by decide⟩

/-- A raster codec that is asked for with the quality minus five is built and rebuilt, but
the rebuilt codec is another one. -/
theorem negative_quality_lost :
    ∃ codec rebuilt, (call [.text "j2k", .dict [(.text "quality", .float minusFive)]] []).result =
        .ok codec ∧
      (call [.dict codec.configuration] []).result = .ok rebuilt ∧
      rebuilt.agrees codec = false := by
  have hidden : minusFive.isNonnegative = false := rfl
  have printable : (raster { quality := minusFive }).isPrintable = true := by
    simp [isPrintable, parameters, Raster.Settings.toProperties, hidden,
      Value.isPrintable, Value.intIsPrintable_of_lt,
      Raster.SampleWidth.bits, Raster.SampleWidth.bytes]
  have resolved : resolve (.text "j2k") = .ok .j2k := rfl
  have configured : configure .j2k [(.text "quality", .float minusFive)] =
      .ok (raster { quality := minusFive }) := rfl
  have accepted : (call [.text "j2k", .dict [(.text "quality", .float minusFive)]] []).result =
      .ok (raster { quality := minusFive }) := by
    simp only [call_cons_nil, create, gather, resolved]
    exact result_build_of_configure configured printable
  exact ⟨_, _, accepted, call_configuration printable, rfl⟩

end Codec

end ChunkCodecs
