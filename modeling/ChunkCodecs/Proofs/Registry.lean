import ChunkCodecs.Proofs.Document.Dictionaries
import ChunkCodecs.Proofs.Rebuilding
import ChunkCodecs.Storage.ArrayCodec

/-!
# Codecs of array stores rebuilt from the registry

An array store keeps the configuration of a codec and looks the codec up by it. What is found
is what is kept of the codec, and so is what is made anew of the codec inside. That may be
another codec, since a quality that is negative or not a number is not kept; but such a quality
is not part of the configuration either, and it counts neither when an image is encoded nor
when one is decoded. So both codecs equal the one that was stored, and do the same to every
array and to every chunk.
-/

namespace ChunkCodecs

/-- Numbers that are zero or greater equal themselves as keys. -/
theorem Value.sameKey_float_self {number : Double} (shown : number.isNonnegative = true) :
    (Value.float number).sameKey (.float number) = true := by
  cases number with
  | nan => cases shown
  | infinite negative => simp [sameKey, keyNumber?, KeyNumber.ofDouble, KeyNumber.equals]
  | finite value => simp [sameKey, keyNumber?, KeyNumber.ofDouble, KeyNumber.equals]

/-- Whole numbers equal themselves as keys. -/
theorem Value.sameKey_int_self (number : Int) :
    (Value.int number).sameKey (.int number) = true := by
  simp [sameKey, keyNumber?, KeyNumber.equals]

/-- Truth values equal themselves as keys. -/
theorem Value.sameKey_bool_self (truth : Bool) : (Value.bool truth).sameKey (.bool truth) = true := by
  simp [sameKey, keyNumber?, KeyNumber.equals]

/-- Labels equal themselves as keys. -/
theorem Value.sameKey_label_self (label : Parameter.Label) :
    label.toValue.sameKey label.toValue = true := by
  cases label <;> simp [Parameter.Label.toValue, sameKey, keyNumber?, text?]

/-- Dictionaries of different names agree with themselves if all values equal themselves. -/
theorem Properties.agree_named_self {entries : List (String × Value)}
    (different : (entries.map Prod.fst).Nodup)
    (equal : ∀ entry ∈ entries, entry.2.sameKey entry.2 = true) :
    (named entries).agree (named entries) = true := by
  simp only [agree, beq_self_eq_true, Bool.true_and, List.all_eq_true]
  intro entry member
  obtain ⟨present, there, rfl⟩ := List.mem_map.mp member
  have found : (named entries).get? (.text present.1) = some present.2 :=
    lookup_named different there
  simp only [found, equal present there]

namespace Codec

/-- The parameters of a codec have different names, none of which has another use in requests
for codecs of array stores, and their values equal themselves. -/
theorem exists_named_parameters (codec : Codec) :
    ∃ entries, codec.parameters = Properties.named entries ∧
      ("id" :: "self" :: ArrayCodec.compressorKey :: entries.map Prod.fst).Nodup ∧
      ∀ entry ∈ entries, entry.2.sameKey entry.2 = true := by
  cases codec with
  | identity => exact ⟨[], rfl, by decide, List.forall_mem_nil _⟩
  | deflate settings =>
    refine ⟨[("level", .int settings.level.val)], rfl, by simp [ArrayCodec.compressorKey], ?_⟩
    simp [Value.sameKey_int_self]
  | blosc settings =>
    refine ⟨[("cname", settings.label.toValue), ("clevel", .int settings.level.val),
      ("shuffle", .int settings.shuffle.code), ("blocksize", .int settings.blockSize)], rfl,
      by simp [ArrayCodec.compressorKey], ?_⟩
    simp [Value.sameKey_int_self, Value.sameKey_label_self]
  | raster settings =>
    refine ⟨[("littleEndian", .bool settings.littleEndian),
      ("interleaved", .bool settings.interleaved), ("imageWidth", .int settings.width),
      ("imageHeight", .int settings.height), ("bitsPerSample", .int settings.sampleWidth.bits),
      ("channels", .int settings.channels), ("lossless", .bool settings.lossless)] ++
      if settings.quality.isNonnegative then [("quality", .float settings.quality)] else [],
      ?_, ?_, ?_⟩ <;> by_cases shown : settings.quality.isNonnegative = true
    · simp [parameters, Raster.Settings.toProperties, Properties.named, shown]
    · simp [parameters, Raster.Settings.toProperties, Properties.named, shown]
    · simp [ArrayCodec.compressorKey, shown]
    · simp [ArrayCodec.compressorKey, shown]
    · simp [Value.sameKey_int_self, Value.sameKey_bool_self, Value.sameKey_float_self, shown]
    · simp [Value.sameKey_int_self, Value.sameKey_bool_self, shown]

end Codec

/-- An image is encoded in the same way if the quality is not kept: then it does not count. -/
theorem Raster.Settings.encoding_kept (settings : Settings) :
    settings.kept.encoding = settings.encoding := by
  by_cases shown : settings.quality.isNonnegative = true
  · simp only [kept, encoding, shown, if_true]
  · have not_positive : settings.quality.isPositive = false := by
      cases quality : settings.quality with
      | nan => rfl
      | infinite negative =>
        rw [quality] at shown
        cases negative with
        | false => exact absurd rfl shown
        | true => rfl
      | finite value =>
        rw [quality] at shown
        cases sign : value.negative with
        | false => simp [Double.isNonnegative, Double.isNegative, sign] at shown
        | true => simp [Double.isPositive, sign]
    have unset : Double.minusOne.isPositive = false := rfl
    simp [kept, encoding, shown, not_positive, unset]

namespace Codec

/-- What is kept of a codec compresses every source as the codec does. -/
theorem compress_kept (backing : Backing) (codec : Codec) (source : Source) :
    codec.kept.compress backing source = codec.compress backing source := by
  cases codec with
  | raster settings =>
    have encoding := settings.encoding_kept
    simp only [kept, compress, Raster.compress, encoding]
    rfl
  | _ => rfl

/-- What is kept of a codec takes every source apart as the codec does. -/
theorem uncompress_kept (backing : Backing) (codec : Codec) (source : Source) :
    codec.kept.uncompress backing source = codec.uncompress backing source := by
  cases codec <;> rfl

end Codec

namespace ArrayCodec

/-- Two codecs of array stores are equal and do the same to every array and every chunk, with
the same libraries behind them: they give the same, or fail for the same reason. -/
structure BehavesAs (left right : ArrayCodec) : Prop where
  /-- Their configurations are equal. -/
  agrees : left.agrees right = true
  /-- They encode alike. -/
  encode_eq : ∀ backing array, left.encode backing array = right.encode backing array
  /-- They decode alike. -/
  decode_eq : ∀ backing encoded, left.decode backing encoded = right.decode backing encoded
  /-- They fill arrays alike. -/
  decodeInto_eq : ∀ backing encoded array,
    left.decodeInto backing encoded array = right.decodeInto backing encoded array

/-- What is kept of the codec inside behaves as the codec. -/
theorem behavesAs_kept (codec : Codec) : BehavesAs ⟨codec.kept⟩ ⟨codec⟩ := by
  obtain ⟨entries, parameters, different, equal⟩ := codec.exists_named_parameters
  have identifier : codec.kept.identifier = codec.identifier := by cases codec <;> rfl
  have all_kept : configuration ⟨codec.kept⟩ = configuration ⟨codec⟩ := by
    simp only [configuration, identifier, codec.parameters_kept]
  have all_named : configuration ⟨codec⟩ = Properties.named
      (("id", .text registeredName) :: (compressorKey, .text codec.identifier) :: entries) := by
    rw [configuration, parameters]
    rfl
  have decode_same (backing : Backing) (encoded : Bytes) :
      codec.kept.decode backing encoded = codec.decode backing encoded := by
    simp only [Codec.decode, Codec.uncompress_kept]
  refine ⟨?_, ?_, decode_same, ?_⟩
  · rw [agrees, all_kept, all_named]
    apply Properties.agree_named_self
    · exact different.sublist (.cons_cons "id" (List.sublist_cons_self _ _))
    · simpa [Value.sameKey_text] using equal
  · intro backing array
    simp only [encode, Codec.encode, Codec.compress_kept]
  · intro backing encoded array
    simp only [decodeInto, decode, decode_same]

section

variable {compressor : Value} {entries : List (String × Value)}
  (fresh : ("self" :: compressorKey :: entries.map Prod.fst).Nodup)

include fresh

/-- A request with an identifier in front of named properties is for the codec of both. -/
theorem call_cons_named :
    call [compressor] (Properties.named entries) = create compressor (Properties.named entries) := by
  simp only [List.nodup_cons, List.mem_cons, not_or] at fresh
  obtain ⟨⟨_, no_self⟩, no_compressor, _⟩ := fresh
  have taken : ∀ name ∈ ["self", compressorKey], name ∉ entries.map Prod.fst :=
    List.forall_mem_cons.mpr ⟨no_self, List.forall_mem_singleton.mpr no_compressor⟩
  simp only [call, Properties.any_keys_named, List.isEmpty_cons, Bool.false_eq_true, if_false,
    Properties.find?_keys_named taken, Properties.filter_named_of_fresh no_compressor]

/-- A request with an identifier among named properties is for the codec of both. -/
theorem call_named :
    call [] (Properties.named ((compressorKey, compressor) :: entries)) =
      create compressor (Properties.named entries) := by
  simp only [List.nodup_cons, List.mem_cons, not_or] at fresh
  obtain ⟨⟨other, no_self⟩, no_compressor, _⟩ := fresh
  have taken : ∀ name ∈ ["self"],
      name ∉ ((compressorKey, compressor) :: entries).map Prod.fst := by
    rw [List.forall_mem_singleton, List.map_cons, List.mem_cons, not_or]
    exact ⟨other, no_self⟩
  have found : Properties.lookup (Properties.named ((compressorKey, compressor) :: entries))
      compressorKey = some compressor := by
    have first := Properties.lookup_cons_text compressorKey compressor
      (Properties.named entries) compressorKey
    rwa [if_pos rfl] at first
  have others : (Properties.named ((compressorKey, compressor) :: entries)).filter
      (fun entry => !entry.1.sameKey (.text compressorKey)) = Properties.named entries := by
    have itself : (Value.text compressorKey).sameKey (.text compressorKey) = true := by
      simp [Value.sameKey_text]
    rw [← Properties.filter_named_of_fresh no_compressor]
    exact List.filter_cons_of_neg (by simp [itself])
  simp only [call, Properties.any_keys_named, List.isEmpty_nil, if_true, Bool.false_eq_true,
    if_false, Properties.find?_keys_named taken, found, others, Option.getD_some]

end

/-- The codec inside a codec that was made as a caller asks for it can be shown. -/
theorem isPrintable_of_made {arguments : List Value} {options : Properties}
    {arrayCodec : ArrayCodec} (made : (call arguments options).result = .ok arrayCodec) :
    arrayCodec.codec.isPrintable = true := by
  have of_create {compressor : Value} {properties : Properties}
      (created : (create compressor properties).result = .ok arrayCodec) :
      arrayCodec.codec.isPrintable = true := by
    rw [create] at created
    cases inside : (Codec.create compressor [.dict properties] []).result with
    | error fault =>
      simp only [inside] at created
      cases created
    | ok codec =>
      simp only [inside] at created
      obtain rfl := Except.ok.inj created
      exact Codec.isPrintable_of_create inside
  simp only [call] at made
  split at made
  · cases made
  · split at made
    · cases made
    · split at made
      · exact of_create made
      · exact of_create made
      · cases made

/-- A name and properties that give the settings of a codec which can be shown make it. -/
theorem create_of_configure {name : String} {scheme : CodecId} {properties : Properties}
    {codec : Codec} (resolved : Codec.resolve (.text name) = .ok scheme)
    (configured : Codec.configure scheme properties = .ok codec)
    (printable : codec.isPrintable = true) :
    (create (.text name) properties).result = .ok ⟨codec⟩ := by
  have built : (Codec.build scheme (properties.update [])).result = .ok codec :=
    Codec.result_build_of_configure configured printable
  simp only [create, Codec.create, Codec.gather, resolved, built]
  rfl

/-- The identifier and the parameters of a codec make what is kept of it. -/
theorem create_parameters {codec : Codec} (printable : codec.isPrintable = true) :
    (create (.text codec.identifier) codec.parameters).result = .ok ⟨codec.kept⟩ :=
  create_of_configure codec.resolve_identifier (Codec.configure_of_alike fun _ _ => rfl)
    (codec.isPrintable_kept.trans printable)

/-- A codec that was made, from whatever arguments, is found again by its configuration and
made anew of the codec inside. Both what is found and what is made anew equal it, encode every
array as it does and decode every chunk as it does, whatever the libraries do. -/
theorem rebuilt_behavesAs {arguments : List Value} {options : Properties}
    {arrayCodec : ArrayCodec} (made : (call arguments options).result = .ok arrayCodec) :
    (∃ found, (ofConfiguration arrayCodec.configuration).result = .ok found ∧
        found.BehavesAs arrayCodec) ∧
      ∃ remade, (ofCodec arrayCodec.codec).result = .ok remade ∧ remade.BehavesAs arrayCodec := by
  obtain ⟨codec⟩ := arrayCodec
  have created := create_parameters (isPrintable_of_made made)
  obtain ⟨entries, parameters, different, _⟩ := codec.exists_named_parameters
  rw [List.nodup_cons] at different
  obtain ⟨no_id, fresh⟩ := different
  rw [parameters] at created
  refine ⟨⟨⟨codec.kept⟩, ?_, behavesAs_kept codec⟩, ⟨codec.kept⟩, ?_, behavesAs_kept codec⟩
  · have no_id_among : "id" ∉ (((compressorKey, Value.text codec.identifier) :: entries).map
        Prod.fst) := by
      simp only [List.mem_cons, not_or] at no_id
      simpa using no_id.2
    have registered : (Properties.lookup (configuration ⟨codec⟩) "id").getD .none =
        .text registeredName := by
      rw [configuration, Properties.lookup_cons_text]
      rfl
    have others : (configuration ⟨codec⟩).filter (fun entry => !entry.1.sameKey (.text "id")) =
        Properties.named ((compressorKey, .text codec.identifier) :: entries) := by
      rw [configuration, parameters, ← Properties.filter_named_of_fresh no_id_among]
      exact List.filter_cons_of_neg (by simp [Value.sameKey_text])
    simp only [ofConfiguration, registered, Value.sameKey_text, beq_self_eq_true, if_true, others,
      call_named fresh, created]
  · simp only [ofCodec, parameters, call_cons_named fresh, created]

/-- The codec of images of five pixels with a quality that is not a number. -/
def unmeasuredCodec : ArrayCodec :=
  ⟨.raster { width := 5, height := 1, lossless := false, quality := .nan }⟩

/-- A raster codec that was asked for by a further name, with its sides as texts and a quality
that is not a number, is found again and made anew. -/
theorem unmeasuredCodec_rebuilt :
    (call [.text "jpeg2000"] [(.text "imageWidth", .text "5"), (.text "imageHeight", .text " 1.0"),
        (.text "quality", .float .nan)]).result = .ok unmeasuredCodec ∧
      (∃ found, (ofConfiguration unmeasuredCodec.configuration).result = .ok found ∧
        found.BehavesAs unmeasuredCodec) ∧
      ∃ remade, (ofCodec unmeasuredCodec.codec).result = .ok remade ∧
        remade.BehavesAs unmeasuredCodec := by
  have fresh : ("self" :: compressorKey :: ["imageWidth", "imageHeight", "quality"]).Nodup := by
    decide
  have requested := @call_cons_named (.text "jpeg2000") [("imageWidth", .text "5"),
    ("imageHeight", .text " 1.0"), ("quality", .float .nan)] fresh
  have resolved : Codec.resolve (.text "jpeg2000") = .ok .j2k := rfl
  have configured : Codec.configure .j2k [(.text "imageWidth", .text "5"),
      (.text "imageHeight", .text " 1.0"), (.text "quality", .float .nan)] =
        .ok unmeasuredCodec.codec := rfl
  have hidden : Double.nan.isNonnegative = false := rfl
  have printable : unmeasuredCodec.codec.isPrintable = true := by
    simp [unmeasuredCodec, Codec.isPrintable, Codec.parameters, Raster.Settings.toProperties,
      hidden, Value.isPrintable, Value.intIsPrintable_of_lt, Raster.SampleWidth.bits,
      Raster.SampleWidth.bytes]
  have made : (call [.text "jpeg2000"] [(.text "imageWidth", .text "5"),
      (.text "imageHeight", .text " 1.0"), (.text "quality", .float .nan)]).result =
        .ok unmeasuredCodec :=
    (congrArg Logged.result requested).trans (create_of_configure resolved configured printable)
  exact ⟨made, rebuilt_behavesAs made⟩

end ArrayCodec

end ChunkCodecs
