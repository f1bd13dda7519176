import ChunkCodecs.Codec.Create
import ChunkCodecs.Proofs.Stored

/-!
# What refusals name

The wording of a refusal begins with what is refused: with the name of the parameter whose value
cannot be used, which begins with the name of the codec, or with the words about the identifier if
there is no codec for it. So a refusal tells which codec was asked for, and two codecs never refuse
with the same words.
-/

namespace ChunkCodecs

/-- A text begins with the given words. -/
def BeginsWith (text words : String) : Prop := ∃ rest, text = words ++ rest

/-- A text goes on after its first words. -/
theorem BeginsWith.append {text words : String} (begins : BeginsWith text words) (more : String) :
    BeginsWith (text ++ more) words := by
  obtain ⟨rest, rfl⟩ := begins
  exact ⟨rest ++ more, String.append_assoc⟩

namespace ConfigurationFault

/-- The parameter whose value a reader refuses. -/
def parameter? : ConfigurationFault → Option ParameterName
  | truthForInteger parameter _ | notWhole parameter _ | notIntegerNumeral parameter _
  | notInteger parameter _ | truthForNumber parameter _ | notNumeral parameter _
  | notNumber parameter _ | notTruth parameter _ | notAscii parameter _ | notText parameter _ =>
    some parameter
  | _ => none

/-- The refusal of a value begins with the name of its parameter. -/
theorem beginsWith_parameter {cause : ConfigurationFault} {parameter : ParameterName}
    (refuses : cause.parameter? = some parameter) :
    BeginsWith cause.message parameter.shown := by
  cases cause <;> cases refuses <;> exact ⟨_, String.append_assoc⟩

/-- The refusal of a value begins with the words that lead the name of its parameter. -/
theorem beginsWith_owner {cause : ConfigurationFault} {parameter : ParameterName}
    (refuses : cause.parameter? = some parameter) :
    BeginsWith cause.message parameter.owner := by
  obtain ⟨rest, wording⟩ := beginsWith_parameter refuses
  exact ⟨parameter.key ++ rest, wording.trans String.append_assoc⟩

/-- The codec whose settings are out of range, as its parameters are named. -/
def owner? : ConfigurationFault → Option String
  | deflateLevel _ => some "zlib: "
  | bloscCompressor _ | bloscLevel _ | bloscShuffle _ | bloscBlockSize _ => some "blosc: "
  | sampleBits _ | channelCount _ | imageSide _ _ => some "j2k: "
  | _ => none

/-- The refusal of settings begins with the name of their codec. -/
theorem beginsWith_of_owner? {cause : ConfigurationFault} {words : String}
    (refuses : cause.owner? = some words) : BeginsWith cause.message words := by
  cases cause <;> cases refuses
  case deflateLevel level =>
    have start : BeginsWith "zlib: invalid compression level: " "zlib: " :=
      ⟨"invalid compression level: ", by simp⟩
    exact start.append _
  case bloscCompressor name =>
    have start : BeginsWith "blosc: compressor not supported: '" "blosc: " :=
      ⟨"compressor not supported: '", by simp⟩
    exact ((start.append name).append _).append _
  case bloscLevel level =>
    have start : BeginsWith "blosc: clevel parameter must be between 0 and 9 but was: " "blosc: " :=
      ⟨"clevel parameter must be between 0 and 9 but was: ", by simp⟩
    exact start.append _
  case bloscShuffle shuffle =>
    have start : BeginsWith "blosc: shuffle type not supported: '" "blosc: " :=
      ⟨"shuffle type not supported: '", by simp⟩
    exact ((start.append (toString shuffle)).append _).append _
  case bloscBlockSize size =>
    have start : BeginsWith
        "blosc: blocksize must be 0 (automatic) or a positive number of bytes but was: "
        "blosc: " :=
      ⟨"blocksize must be 0 (automatic) or a positive number of bytes but was: ", by simp⟩
    exact start.append _
  case sampleBits bits =>
    have start : BeginsWith "j2k: bitsPerSample not supported: " "j2k: " :=
      ⟨"bitsPerSample not supported: ", by simp⟩
    exact (start.append (toString bits)).append _
  case channelCount channels =>
    have start : BeginsWith "j2k: channels must be positive but was: " "j2k: " :=
      ⟨"channels must be positive but was: ", by simp⟩
    exact start.append _
  case imageSide key length =>
    have start : BeginsWith "j2k: " "j2k: " := ⟨"", by simp⟩
    exact ((start.append key).append _).append _

end ConfigurationFault

/-- Nothing goes wrong but refusals with certain first words and faults of foreign origin. -/
def RefusesWith {α : Type} (words : String) (result : Except Fault α) : Prop :=
  ∀ fault, result = .error fault →
    (∃ cause : ConfigurationFault, fault = .configuration cause ∧ BeginsWith cause.message words) ∨
      ∃ cause, fault = .foreign cause

section

variable {α β : Type} {words : String}

/-- What succeeds refuses nothing. -/
theorem refusesWith_ok (value : α) : RefusesWith words (.ok value : Except Fault α) := nofun

/-- What is of foreign origin has no words of its own. -/
theorem refusesWith_foreign (cause : ForeignFault) :
    RefusesWith words (.error (.foreign cause) : Except Fault α) := by
  rintro _ ⟨⟩
  exact .inr ⟨cause, rfl⟩

/-- A refusal has the first words of its wording, if this can be given. -/
theorem refusesWith_refuse {cause : ConfigurationFault} (begins : BeginsWith cause.message words) :
    RefusesWith words (.error (Fault.refuse cause) : Except Fault α) := by
  rintro _ ⟨⟩
  rw [Fault.refuse]
  split
  · exact .inl ⟨cause, rfl, begins⟩
  · exact .inr ⟨_, rfl⟩

/-- Two steps refuse with the words with which each of them does. -/
theorem RefusesWith.bind {result : Except Fault α} {further : α → Except Fault β}
    (first : RefusesWith words result) (second : ∀ value, RefusesWith words (further value)) :
    RefusesWith words (result >>= further) := by
  cases result with
  | ok value => exact second value
  | error fault =>
    rintro _ ⟨⟩
    exact first fault rfl

/-- What is made of a result does not matter to the refusals. -/
theorem RefusesWith.map {result : Except Fault α} (refuses : RefusesWith words result)
    (make : α → β) : RefusesWith words (result.map make) := by
  cases result with
  | ok value => exact refusesWith_ok _
  | error fault =>
    rintro _ ⟨⟩
    exact refuses fault rfl

/-- A check refuses with the first words of its refusals. -/
theorem refusesWith_check {checked : Except ConfigurationFault α}
    (begins : ∀ cause, checked = .error cause → BeginsWith cause.message words) :
    RefusesWith words (checked.mapError Fault.refuse) := by
  cases checked with
  | ok value => exact refusesWith_ok value
  | error cause => exact refusesWith_refuse (begins cause rfl)

end

namespace Parameter

variable (parameter : ParameterName) (value : Value)

/-- A parameter that is refused is named. -/
theorem refusesWith_parameter {α : Type} {cause : ConfigurationFault}
    (refuses : cause.parameter? = some parameter) :
    RefusesWith parameter.owner (refuse cause : Reading α) :=
  refusesWith_refuse (ConfigurationFault.beginsWith_owner refuses)

/-- The reader of whole numbers names the parameter. -/
theorem refusesWith_readInt : RefusesWith parameter.owner (readInt parameter value) := by
  unfold readInt
  split
  · exact refusesWith_parameter parameter rfl
  · exact refusesWith_ok _
  · exact refusesWith_ok _
  · split
    · exact refusesWith_ok _
    · exact refusesWith_parameter parameter rfl
  · split
    · exact refusesWith_ok _
    · exact refusesWith_parameter parameter rfl
  · split
    · exact refusesWith_foreign _
    · split
      · exact refusesWith_ok _
      · exact refusesWith_parameter parameter rfl
  · split
    · exact refusesWith_ok _
    · exact refusesWith_parameter parameter rfl
  · split
    · exact refusesWith_ok _
    · exact refusesWith_parameter parameter rfl
  · exact refusesWith_parameter parameter rfl

/-- A number that has a nearest double, or none, names nothing. -/
theorem refusesWith_mapError_foreign {α : Type} (words : String)
    (result : Except ForeignFault α) : RefusesWith words (result.mapError Fault.foreign) := by
  cases result with
  | ok value => exact refusesWith_ok value
  | error cause => exact refusesWith_foreign cause

/-- The reader of numbers names the parameter. -/
theorem refusesWith_readDouble : RefusesWith parameter.owner (readDouble parameter value) := by
  unfold readDouble
  split
  · exact refusesWith_parameter parameter rfl
  · exact refusesWith_mapError_foreign _ _
  · exact refusesWith_mapError_foreign _ _
  · exact refusesWith_ok _
  · exact refusesWith_ok _
  · exact refusesWith_mapError_foreign _ _
  · split
    · exact refusesWith_ok _
    · exact refusesWith_parameter parameter rfl
  · split
    · exact refusesWith_ok _
    · exact refusesWith_parameter parameter rfl
  · exact refusesWith_parameter parameter rfl

/-- The reader of truth values names the parameter. -/
theorem refusesWith_readBool : RefusesWith parameter.owner (readBool parameter value) := by
  unfold readBool
  dsimp only
  split
  · exact refusesWith_ok _
  · exact refusesWith_parameter parameter rfl

/-- The reader of texts names the parameter. -/
theorem refusesWith_readText : RefusesWith parameter.owner (readText parameter value) := by
  unfold readText
  split
  · exact refusesWith_ok _
  · exact refusesWith_ok _
  · split
    · exact refusesWith_ok _
    · exact refusesWith_parameter parameter rfl
  · exact refusesWith_parameter parameter rfl

variable {parameter}

/-- A parameter that is not given is not refused. -/
theorem refusesWith_readOptional {α : Type} {read : ParameterName → Value → Reading α}
    (refuses : ∀ value, RefusesWith parameter.owner (read parameter value))
    (properties : Properties) :
    RefusesWith parameter.owner (readOptional read properties parameter) := by
  rw [readOptional]
  split
  · exact refusesWith_ok _
  · exact (refuses _).map some

end Parameter

open Parameter (refusesWith_readOptional refusesWith_readInt refusesWith_readDouble
  refusesWith_readBool refusesWith_readText)

/-- Deflate settings are refused with the name of their codec. -/
theorem Deflate.Settings.refusesWith_ofProperties (properties : Properties) :
    RefusesWith "zlib: " (ofProperties properties) := by
  refine (refusesWith_readOptional (refusesWith_readInt ⟨"zlib: ", "level"⟩) properties).bind ?_
  intro level
  apply refusesWith_check
  intro cause refused
  apply ConfigurationFault.beginsWith_of_owner?
  rw [ofLevel] at refused
  split at refused <;> cases refused
  rfl

/-- Blosc settings are refused with the name of their codec. -/
theorem Blosc.Settings.refusesWith_ofProperties (properties : Properties) :
    RefusesWith "blosc: " (ofProperties properties) := by
  have whole (key : String) := refusesWith_readOptional (refusesWith_readInt ⟨"blosc: ", key⟩)
    properties
  refine (refusesWith_readOptional (refusesWith_readText ⟨"blosc: ", "cname"⟩) properties).bind ?_
  intro label
  refine (whole "clevel").bind fun level => (whole "shuffle").bind fun shuffle =>
    (whole "blocksize").bind fun blockSize => ?_
  apply refusesWith_check
  intro cause refused
  apply ConfigurationFault.beginsWith_of_owner?
  rw [ofParts] at refused
  split at refused
  · cases refused
    rfl
  split at refused
  · cases refused
    rfl
  split at refused
  · cases refused
    rfl
  split at refused <;> cases refused
  rfl

/-- Raster settings are refused with the name of their codec. -/
theorem Raster.Settings.refusesWith_ofProperties (properties : Properties) :
    RefusesWith "j2k: " (ofProperties properties) := by
  have whole (key : String) := refusesWith_readOptional (refusesWith_readInt ⟨"j2k: ", key⟩)
    properties
  have truth (key : String) := refusesWith_readOptional (refusesWith_readBool ⟨"j2k: ", key⟩)
    properties
  refine (refusesWith_readOptional (refusesWith_readDouble ⟨"j2k: ", "quality"⟩) properties).bind
    fun asked => ?_
  refine (truth "littleEndian").bind fun littleEndian => (truth "interleaved").bind
    fun interleaved => (whole "imageWidth").bind fun width => (whole "imageHeight").bind
    fun height => (whole "bitsPerSample").bind fun bits => (whole "channels").bind
    fun channels => (truth "lossless").bind fun lossless => ?_
  apply refusesWith_check
  intro cause refused
  apply ConfigurationFault.beginsWith_of_owner?
  rw [ofParts] at refused
  split at refused
  · cases refused
    rfl
  split at refused
  · split at refused
    · split at refused <;> cases refused
      rfl
    · cases refused
      rfl
  · cases refused
    rfl

namespace Codec

/-- A codec is refused with its own name. -/
theorem refusesWith_configure (scheme : CodecId) (properties : Properties) :
    RefusesWith (scheme.name ++ ": ") (configure scheme properties) := by
  cases scheme with
  | identity => exact refusesWith_ok _
  | zlib => exact (Deflate.Settings.refusesWith_ofProperties properties).map deflate
  | blosc => exact (Blosc.Settings.refusesWith_ofProperties properties).map blosc
  | j2k => exact (Raster.Settings.refusesWith_ofProperties properties).map raster

/-- A request for a codec is refused with the name of the codec, whatever the properties are. -/
theorem refusesWith_build (scheme : CodecId) (properties : Properties) :
    RefusesWith (scheme.name ++ ": ") (build scheme properties).result := by
  rw [result_build]
  refine (refusesWith_configure scheme properties).bind fun codec => ?_
  rw [record]
  split
  · exact refusesWith_ok _
  · exact refusesWith_foreign _

end Codec

end ChunkCodecs
