import ChunkCodecs.Command.Settings
import ChunkCodecs.Proofs.Requests
import ChunkCodecs.Proofs.SingleParameter
import ChunkCodecs.Proofs.Wording
import ChunkCodecs.Storage.ArrayCodec

/-!
# Chosen codecs

A command is told the name of a compressor and options, a caller gives both to the library, and an
array store gives the options by name. All three lead to one codec or to one fault, with one
exception: options may hold an identifier of their own, and then the command alone heeds it and lets
it take the place of the name. What it builds is the same still if the two ask for the same.
-/

namespace ChunkCodecs

open Properties

/-- Two faults are the same, or they are refusals with one wording. -/
inductive SameReport : Fault → Fault → Prop
  /-- The faults are the same. -/
  | same (fault : Fault) : SameReport fault fault
  /-- The wordings are the same. -/
  | wording {cause other : ConfigurationFault} (equal : cause.message = other.message) :
      SameReport (.configuration cause) (.configuration other)

/-- The same comes of two requests: one result, or faults that are reported alike. -/
inductive SameOutcome {α : Type} : Except Fault α → Except Fault α → Prop
  /-- There is one result. -/
  | result (value : α) : SameOutcome (.ok value) (.ok value)
  /-- The faults are reported alike. -/
  | fault {fault other : Fault} (alike : SameReport fault other) :
      SameOutcome (.error fault) (.error other)

/-- The same comes of a request and itself. -/
theorem SameOutcome.refl {α : Type} (outcome : Except Fault α) : SameOutcome outcome outcome := by
  cases outcome with
  | ok value => exact .result value
  | error fault => exact .fault (.same fault)

/-- The same comes of two steps if the same comes of the first ones. -/
theorem SameOutcome.bind {α β : Type} {outcome other : Except Fault α}
    (same : SameOutcome outcome other) (further : α → Except Fault β) :
    SameOutcome (outcome >>= further) (other >>= further) := by
  cases same with
  | result value => exact .refl (further value)
  | fault alike => exact .fault alike

/-- Requests that are refused with different words come to the same only if they have one result,
or one fault of foreign origin. -/
theorem SameOutcome.result_or_foreign {α : Type} {outcome other : Except Fault α}
    {words others : String} (same : SameOutcome outcome other) (left : RefusesWith words outcome)
    (right : RefusesWith others other)
    (apart : ∀ text, BeginsWith text words → ¬ BeginsWith text others) :
    (∃ value, outcome = .ok value ∧ other = .ok value) ∨
      ∃ cause, outcome = .error (.foreign cause) ∧ other = .error (.foreign cause) := by
  cases same with
  | result value => exact .inl ⟨value, rfl, rfl⟩
  | fault alike =>
    obtain ⟨cause, rfl, begins⟩ | ⟨cause, rfl⟩ := left _ rfl
    · obtain ⟨second, rfl, second_begins⟩ | ⟨second, rfl⟩ := right _ rfl
      · cases alike with
        | same => exact absurd second_begins (apart _ begins)
        | wording equal => exact absurd (equal ▸ second_begins) (apart _ begins)
      · cases alike
    · cases alike with
      | same => exact .inr ⟨cause, rfl, rfl⟩

/-- A text does not begin with words that begin with different characters. -/
theorem not_beginsWith {text words others : String} {first second : Char}
    (head : words.toList.head? = some first) (second_head : others.toList.head? = some second)
    (different : first ≠ second) (begins : BeginsWith text words) : ¬ BeginsWith text others := by
  rintro ⟨rest, other⟩
  obtain ⟨before, rfl⟩ := begins
  have heads := congrArg (fun characters : String => characters.toList.head?) other
  simp only [String.toList_append, List.head?_append, head, second_head, Option.some_or] at heads
  exact different (Option.some.inj heads)

namespace Codec

/-- The scheme that an identifier names, or the fault if there is none. -/
def identify (id : Value) : Except Fault CodecId := (resolve id).mapError Fault.refuse

/-- An identifier that is refused is spoken of as one. -/
theorem refusesWith_identify (id : Value) : RefusesWith "Compressor id" (identify id) := by
  apply refusesWith_check
  intro cause refused
  have unknown (given : Value) :
      BeginsWith (ConfigurationFault.unknownId given).message "Compressor id" := by
    have start : BeginsWith "Compressor id:'" "Compressor id" := ⟨":'", by simp⟩
    exact ((start.append given.display).append _).append _
  have missing : BeginsWith ConfigurationFault.missingId.message "Compressor id" := by
    have start : BeginsWith "Compressor id is missing." "Compressor id" := ⟨" is missing.", by simp⟩
    exact start
  rw [resolve.eq_def] at refused
  split at refused
  · cases refused
    exact missing
  · cases refused
  · split at refused <;> cases refused
    exact unknown _
  · cases refused
    exact unknown _

/-- A request with an identifier and a dictionary builds what the identifier names. -/
theorem result_call_dict {id : Value} (plain : ∀ entries, id ≠ .dict entries)
    (properties : Properties) :
    (call [id, .dict properties] []).result =
      identify id >>= fun scheme => (build scheme properties).result := by
  rw [call_cons_nil, create_of_gather (gather_dict plain properties), identify]
  cases resolve id <;> rfl

/-- Two schemes are never refused with the same words. -/
theorem scheme_words_apart {scheme other : CodecId} (different : scheme ≠ other) (text : String)
    (begins : BeginsWith text (scheme.name ++ ": ")) : ¬ BeginsWith text (other.name ++ ": ") := by
  revert begins
  cases scheme <;> cases other <;>
    first
    | exact absurd rfl different
    | exact not_beginsWith rfl rfl (by decide)

/-- A scheme is never refused with the words about identifiers. -/
theorem identifier_words_apart (scheme : CodecId) (text : String)
    (begins : BeginsWith text "Compressor id") : ¬ BeginsWith text (scheme.name ++ ": ") := by
  revert begins
  cases scheme <;> exact not_beginsWith rfl rfl (by decide)

/-- What is refused stays refused in the next step. -/
theorem refusesWith_error_congr {α β : Type} {words : String} {fault : Fault}
    (refuses : RefusesWith words (.error fault : Except Fault α)) :
    RefusesWith words (.error fault : Except Fault β) := by
  rintro _ ⟨⟩
  exact refuses fault rfl

/-- Requests for two identifiers with the same properties come to the same exactly if the
identifiers do, or if both fail with one fault of foreign origin. -/
theorem sameOutcome_identify_bind_iff (id other : Value) (properties : Properties) :
    SameOutcome (identify id >>= fun scheme => (build scheme properties).result)
        (identify other >>= fun scheme => (build scheme properties).result) ↔
      SameOutcome (identify id) (identify other) ∨ ∃ cause,
        (identify id >>= fun scheme => (build scheme properties).result) =
            .error (.foreign cause) ∧
          (identify other >>= fun scheme => (build scheme properties).result) =
            .error (.foreign cause) := by
  constructor
  · intro same
    have id_words := refusesWith_identify id
    have other_words := refusesWith_identify other
    cases identified : identify id with
    | ok scheme =>
      have refuses := refusesWith_build scheme properties
      cases also : identify other with
      | ok second =>
        by_cases different : scheme = second
        · subst different
          exact .inl (.result scheme)
        · rw [identified, also] at same
          obtain ⟨codec, built, also_built⟩ | foreign := same.result_or_foreign refuses
            (refusesWith_build second properties) (scheme_words_apart different)
          · exact absurd ((scheme_of_build built).symm.trans (scheme_of_build also_built)) different
          · exact .inr foreign
      | error fault =>
        rw [identified, also] at same
        rw [also] at other_words
        obtain ⟨_, _, ⟨⟩⟩ | foreign := same.result_or_foreign refuses
          (refusesWith_error_congr other_words)
          fun text begins identifies => identifier_words_apart scheme text identifies begins
        exact .inr foreign
    | error fault =>
      cases also : identify other with
      | ok second =>
        rw [identified, also] at same
        rw [identified] at id_words
        obtain ⟨_, ⟨⟩, _⟩ | foreign := same.result_or_foreign (refusesWith_error_congr id_words)
          (refusesWith_build second properties) (identifier_words_apart second)
        exact .inr foreign
      | error second =>
        rw [identified, also] at same
        cases same with
        | fault alike => exact .inl (.fault alike)
  · rintro (same | ⟨cause, left, right⟩)
    · exact same.bind _
    · rw [left, right]
      exact .refl _

end Codec

/-- Options are given as a dictionary, or as a text that is read as it. -/
inductive GivesOptions (options : Properties) : Value → Prop
  /-- The dictionary is given. -/
  | dictionary : GivesOptions options (.dict options)
  /-- A text is given. -/
  | text {given : Value} {content : String} (is_text : given.text? = some content)
      (read : Options.read content = .ok options) : GivesOptions options given

/-- A choice keeps the name as it is given, and the options as a dictionary. -/
theorem GivesOptions.make {options : Properties} {given : Value}
    (gives : GivesOptions options given) (compressor : Value) :
    CodecChoice.make compressor given = .ok ⟨compressor, .dict options⟩ := by
  cases gives with
  | dictionary => rfl
  | text is_text read =>
    rw [CodecChoice.make, is_text]
    simp only [read]
    rfl

namespace Codec

variable {compressor : Value} {name : String} {options : Properties}

/-- A name is no dictionary. -/
theorem ne_dict_of_text? (named : compressor.text? = some name) (entries : Properties) :
    compressor ≠ .dict entries := by
  rintro rfl
  cases named

/-- The properties of a choice hold what the options hold, and the name as the identifier if the
options have none. -/
theorem lookup_properties_choice (compressor : Value) (textual : options.IsTextual)
    (name : String) :
    (update [(.text "id", compressor)] options).lookup name =
      (options.lookup name).or (if "id" = name then some compressor else none) := by
  rw [lookup_update textual, lookup_cons_text]
  rfl

/-- The properties of a choice are a dictionary. -/
theorem isTextual_properties_choice (compressor : Value) (textual : options.IsTextual) :
    (update [(.text "id", compressor)] options).IsTextual := by
  have single : IsTextual [(.text "id", compressor)] :=
    isTextual_cons_iff.mpr ⟨⟨"id", rfl⟩, List.not_mem_nil, isTextual_nil⟩
  exact single.update textual.hasTexts

/-- A choice builds what the identifier in its options names, or what its name does if the options
have none. -/
theorem result_choice (compressor : Value) (textual : options.IsTextual) :
    (CodecChoice.build ⟨compressor, .dict options⟩).result =
      identify ((options.lookup "id").getD compressor) >>= fun scheme =>
        (build scheme options).result := by
  have held : (update [(.text "id", compressor)] options).lookup "id" =
      some ((options.lookup "id").getD compressor) := by
    rw [lookup_properties_choice compressor textual]
    cases options.lookup "id" <;> rfl
  have gathered : gather (.dict (update [(.text "id", compressor)] options)) [] =
      .ok ((options.lookup "id").getD compressor, update [(.text "id", compressor)] options) := by
    rw [gather, held]
    rfl
  show (create (.dict (update [(.text "id", compressor)] options)) [] []).result = _
  rw [create_of_gather gathered, identify]
  cases resolve ((options.lookup "id").getD compressor) with
  | error cause => rfl
  | ok scheme =>
    have same : build scheme (update [(.text "id", compressor)] options) = build scheme options := by
      apply build_congr (isTextual_properties_choice compressor textual) textual
      intro name other
      rw [lookup_properties_choice compressor textual, if_neg other.symm, Option.or_none]
    exact congrArg Logged.result same

/-- A choice whose options have no identifier is the request with its name and its options. -/
theorem build_choice (named : compressor.text? = some name) (textual : options.IsTextual)
    (no_id : options.lookup "id" = none) :
    CodecChoice.build ⟨compressor, .dict options⟩ = call [compressor, .dict options] [] := by
  show create (.dict (update [(.text "id", compressor)] options)) [] [] = _
  rw [call_cons_nil]
  apply create_congr (gather_embedded textual no_id) (gather_dict (ne_dict_of_text? named) options)
  · exact isTextual_properties_choice compressor textual
  · exact textual
  · intro name other
    show (update [(.text "id", compressor)] options).lookup name = _
    rw [lookup_properties_choice compressor textual, if_neg other.symm, Option.or_none]
    rfl

/-- An array store asks for the same as a request with a dictionary, if the options do not have the
names of its own parameters. -/
theorem call_arrayCodec (compressor : Value) (textual : options.IsTextual)
    (no_compressor : options.lookup ArrayCodec.compressorKey = none)
    (no_self : options.lookup "self" = none) :
    (ArrayCodec.call [compressor] options).journal = (call [compressor, .dict options] []).journal ∧
      (ArrayCodec.call [compressor] options).result =
        (call [compressor, .dict options] []).result.map ArrayCodec.mk := by
  have free : options.keys.find? (fun key =>
      ["self", ArrayCodec.compressorKey].any fun name => key.sameKey (.text name)) = none := by
    rw [List.find?_eq_none]
    intro key member
    simp [textual.hasTexts.sameKey_eq_false no_compressor member,
      textual.hasTexts.sameKey_eq_false no_self member]
  have called : ArrayCodec.call [compressor] options = ArrayCodec.create compressor options := by
    simp only [ArrayCodec.call, textual.hasTexts.any_isNone, Bool.false_eq_true, if_false,
      List.isEmpty_cons, free, textual.hasTexts.filter_not_sameKey no_compressor]
  rw [called, call_cons_nil]
  exact ⟨rfl, rfl⟩

/-- What a command builds of a name and options, given as a dictionary or as a text, is what a
request with the two builds, or both are reported alike, unless the options hold an identifier that
does not come to the same as the name. The identifier is what the command heeds then, and the request
does not: the two come to the same still only if both run into one number that the language cannot
convert. An array store always builds what the request builds. And what is built equals itself, unless
its quality is no number. -/
theorem choice_builds_named_iff (named : compressor.text? = some name) (textual : options.IsTextual)
    {given : Value} (gives : GivesOptions options given) :
    ∃ choice, CodecChoice.make compressor given = .ok choice ∧
      (SameOutcome choice.build.result (call [compressor, .dict options] []).result ↔
        ∀ id, options.lookup "id" = some id →
          SameOutcome (identify id) (identify compressor) ∨
            ∃ cause, choice.build.result = .error (.foreign cause) ∧
              (call [compressor, .dict options] []).result = .error (.foreign cause)) ∧
      (options.lookup "id" = none → choice.build = call [compressor, .dict options] []) ∧
      (options.lookup ArrayCodec.compressorKey = none → options.lookup "self" = none →
        (ArrayCodec.call [compressor] options).journal =
            (call [compressor, .dict options] []).journal ∧
          (ArrayCodec.call [compressor] options).result =
            (call [compressor, .dict options] []).result.map ArrayCodec.mk) ∧
      ∀ codec, choice.build.result = .ok codec →
        (∀ settings, codec = .raster settings → settings.quality ≠ .nan) →
          codec.agrees codec = true := by
  refine ⟨_, gives.make compressor, ?_, build_choice named textual, call_arrayCodec compressor textual,
    fun codec _ is_number => agrees_self is_number⟩
  rw [result_choice compressor textual, result_call_dict (ne_dict_of_text? named)]
  cases options.lookup "id" with
  | none => exact iff_of_true (.refl _) nofun
  | some id =>
    simp only [Option.getD_some, Option.some.injEq, forall_eq']
    exact sameOutcome_identify_bind_iff id compressor options

/-- Whether options are read that hold nothing but the level three. -/
def isLevelThree : Except Fault Properties → Bool
  | .ok [(.text "level", .int 3)] => true
  | _ => false

/-- A level that is given as a text is that of the codec with the given name. -/
theorem level_choice_builds_named :
    (Value.text "zlib").text? = some "zlib" ∧ IsTextual [(.text "level", .int 3)] ∧
      GivesOptions [(.text "level", .int 3)] (.text "\x7b'level': 3\x7d") ∧
      ∃ choice, CodecChoice.make (.text "zlib") (.text "\x7b'level': 3\x7d") = .ok choice ∧
        choice.build.result = .ok (deflate ⟨3⟩) ∧
        SameOutcome choice.build.result
          (call [.text "zlib", .dict [(.text "level", .int 3)]] []).result ∧
        (ArrayCodec.call [.text "zlib"] [(.text "level", .int 3)]).result = .ok ⟨deflate ⟨3⟩⟩ := by
  have named : (Value.text "zlib").text? = some "zlib" := rfl
  have textual : IsTextual [(.text "level", .int 3)] :=
    isTextual_cons_iff.mpr ⟨⟨"level", rfl⟩, List.not_mem_nil, isTextual_nil⟩
  have read : Options.read "\x7b'level': 3\x7d" = .ok [(.text "level", .int 3)] := by
    have evaluated : isLevelThree (Options.read "\x7b'level': 3\x7d") = true := by decide +kernel
    generalize Options.read "\x7b'level': 3\x7d" = result at evaluated ⊢
    rw [isLevelThree.eq_def] at evaluated
    split at evaluated
    · rfl
    · cases evaluated
  have gives : GivesOptions [(.text "level", .int 3)] (.text "\x7b'level': 3\x7d") := .text rfl read
  obtain ⟨choice, made, same_iff, same, stored, _⟩ := choice_builds_named_iff named textual gives
  have resolved : resolve (.text "zlib") = .ok .zlib := rfl
  have called : (call [.text "zlib", .dict [(.text "level", .int 3)]] []).result =
      .ok (deflate ⟨3⟩) := by
    rw [call_cons_nil, result_create_dict resolved]
    exact result_build_of_configure rfl (isPrintable_deflate _)
  refine ⟨named, textual, gives, choice, made, ?_, same_iff.mpr nofun, ?_⟩
  · rw [same rfl, called]
  · rw [(stored rfl rfl).2, called]
    rfl

/-- A command that is told blosc, with options that hold another identifier, builds that one. -/
theorem identifier_overrides_named :
    ∃ choice, CodecChoice.make (.text "blosc") (.dict [(.text "id", .text "zlib")]) = .ok choice ∧
      choice.build.result = .ok (deflate ⟨1⟩) ∧
      (call [.text "blosc", .dict [(.text "id", .text "zlib")]] []).result =
        .ok (.blosc .standard) ∧
      (ArrayCodec.call [.text "blosc"] [(.text "id", .text "zlib")]).result =
        .ok ⟨.blosc .standard⟩ ∧
      ¬ SameOutcome choice.build.result
        (call [.text "blosc", .dict [(.text "id", .text "zlib")]] []).result := by
  have textual : IsTextual [(.text "id", .text "zlib")] :=
    isTextual_cons_iff.mpr ⟨⟨"id", rfl⟩, List.not_mem_nil, isTextual_nil⟩
  have chosen : (CodecChoice.build ⟨.text "blosc", .dict [(.text "id", .text "zlib")]⟩).result =
      .ok (deflate ⟨1⟩) := by
    have configured : configure .zlib [(.text "id", .text "zlib")] = .ok (deflate ⟨1⟩) := rfl
    have identified : identify ((lookup [(.text "id", .text "zlib")] "id").getD (.text "blosc")) =
        .ok .zlib := rfl
    rw [result_choice _ textual, identified, ok_bind]
    exact result_build_of_configure configured (isPrintable_deflate _)
  have resolved : resolve (.text "blosc") = .ok .blosc := rfl
  have called : (call [.text "blosc", .dict [(.text "id", .text "zlib")]] []).result =
      .ok (.blosc .standard) := by
    rw [call_cons_nil, result_create_dict resolved]
    have configured : configure .blosc [(.text "id", .text "zlib")] = .ok (.blosc .standard) := rfl
    exact result_build_of_configure configured
      (isPrintable_blosc (Value.intIsPrintable_of_lt (by decide)))
  refine ⟨_, rfl, chosen, called, ?_, ?_⟩
  · rw [(call_arrayCodec _ textual rfl rfl).2, called]
    rfl
  · rw [chosen, called]
    nofun

end Codec

end ChunkCodecs
