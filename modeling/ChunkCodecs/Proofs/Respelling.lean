import ChunkCodecs.Proofs.Spelling
import ChunkCodecs.Proofs.Stored

/-!
# Numbers and their texts are interchangeable

Properties may give a number or a truth value as such or show it in a text, with blanks around
it: the codec that is built is the same one, and where there is none there is none either way.

Two requests are compared reading by reading. A third request that leaves the numbers out tells
what they are to blame for: whatever else fails there is no fault of theirs.
-/

namespace ChunkCodecs

/-- A whole number of at most as many digits as can be shown, or a truth value. -/
inductive Value.IsRespellable : Value → Prop
  | int {number : Int} (printable : intIsPrintable number = true) : IsRespellable (.int number)
  | bool (truth : Bool) : IsRespellable (.bool truth)

/-- How the readings of a parameter hang together, as it is given, as it is shown in a text and
as it is left out: the same is read twice and something related if it is left out, or both are
refused, or all three fail alike. -/
inductive Follows {α : Type} (related : α → α → Prop) :
    Except Fault α → Except Fault α → Except Fault α → Prop
  | read {value other : α} (apart : related value other) :
      Follows related (.ok value) (.ok value) (.ok other)
  | refused (cause cause' : ConfigurationFault) (left : Except Fault α) :
      Follows related (.error (.configuration cause)) (.error (.configuration cause')) left
  | failed (fault : Fault) : Follows related (.error fault) (.error fault) (.error fault)

/-- Two results are equal, or there is a configuration fault instead of both. -/
def SameEnd {α : Type} (result other : Except Fault α) : Prop :=
  result = other ∨ (∃ cause, result = .error (.configuration cause)) ∧
    ∃ cause, other = .error (.configuration cause)

/-- The results of three requests hang together: the first two are the same, and what is no
configuration fault comes of the third one, too. -/
structure Agrees {α : Type} (given spelled left : Except Fault α) : Prop where
  /-- The first two results are the same. -/
  sameEnd : SameEnd given spelled
  /-- A fault of the first one is a configuration fault or a fault of the third one. -/
  left_eq : ∀ fault, given = .error fault → (∀ cause, fault ≠ .configuration cause) →
    left = .error fault

section

variable {α β : Type} {related : α → α → Prop} {given spelled left : Except Fault α}

/-- What is read three times alike is read of three equal results. -/
theorem follows_self (reflexive : ∀ value, related value value) (result : Except Fault α) :
    Follows related result result result := by
  cases result with
  | error fault => exact .failed fault
  | ok value => exact .read (reflexive value)

/-- Readings that hang together lead to results that do, if what is done with related values
does. -/
theorem Follows.bind {further leftFurther : α → Except Fault β}
    (first : Follows related given spelled left) {spelledFurther : α → Except Fault β}
    (second : ∀ value other, related value other →
      Agrees (further value) (spelledFurther value) (leftFurther other)) :
    Agrees (given >>= further) (spelled >>= spelledFurther) (left >>= leftFurther) := by
  cases first with
  | read apart => exact second _ _ apart
  | refused cause cause' left =>
    refine ⟨.inr ⟨⟨cause, rfl⟩, cause', rfl⟩, ?_⟩
    rintro _ ⟨⟩ other
    exact absurd rfl (other cause)
  | failed fault =>
    refine ⟨.inl rfl, ?_⟩
    rintro _ ⟨⟩ _
    rfl

end

namespace Codec

open Parameter (Kind)

/-- Properties for a scheme, the same with some numbers and truth values shown in texts, and the
same with these left out. -/
inductive Respelled (scheme : CodecId) : Properties → Properties → Properties → Prop
  | nil : Respelled scheme [] [] []
  /-- An entry is kept as it is. -/
  | kept (entry : Value × Value) {given spelled left : Properties}
      (rest : Respelled scheme given spelled left) :
      Respelled scheme (entry :: given) (entry :: spelled) (entry :: left)
  /-- A number or a truth value is shown in a text. -/
  | shown {name : String} {kind : Kind} {value : Value} {text : String}
      {given spelled left : Properties} (known : (name, kind) ∈ parameterKinds scheme)
      (numeric : kind = .whole ∨ kind = .truth) (number : value.IsRespellable)
      (isShown : value.IsShownIn text) (rest : Respelled scheme given spelled left) :
      Respelled scheme ((.text name, value) :: given) ((.text name, .text text) :: spelled)
        ((.text name, .none) :: left)

theorem Respelled.given?_cases {scheme : CodecId} {given spelled left : Properties}
    (respelled : Respelled scheme given spelled left) (name : String) :
    (spelled.given? name = given.given? name ∧ left.given? name = given.given? name) ∨
      ∃ kind value text, (name, kind) ∈ parameterKinds scheme ∧ (kind = .whole ∨ kind = .truth) ∧
        value.IsRespellable ∧ value.IsShownIn text ∧ given.given? name = some value ∧
        spelled.given? name = some (.text text) ∧ left.given? name = none := by
  induction respelled with
  | nil => exact .inl ⟨rfl, rfl⟩
  | kept entry rest inductionHypothesis =>
    obtain ⟨key, value⟩ := entry
    by_cases same : key.sameKey (.text name) = true
    · simp only [Properties.given?_cons_of_sameKey same]
      exact .inl ⟨trivial, trivial⟩
    · simp only [Properties.given?_cons_of_not_sameKey same]
      exact inductionHypothesis
  | @shown other kind value text given spelled left known numeric number isShown rest
      inductionHypothesis =>
    by_cases same : (Value.text other).sameKey (.text name) = true
    · have found := @Properties.given?_cons_of_sameKey (.text other) name same
      rw [Value.sameKey_text, beq_iff_eq] at same
      subst same
      refine .inr ⟨kind, value, text, known, numeric, number, isShown, ?_, ?_, ?_⟩
      · rw [found]
        cases number <;> rfl
      · exact found (.text text) spelled
      · exact found .none left
    · simp only [Properties.given?_cons_of_not_sameKey same]
      exact inductionHypothesis

/-- A whole number is that of other properties, or these give none and the number can be
shown. -/
def WholeStands (number other : Option Int) : Prop :=
  number = other ∨ other = none ∧ ∃ whole, number = some whole ∧ Value.intIsPrintable whole = true

/-- With the default put in, a whole number is that of other properties, or these have the
default and the number can be shown. -/
theorem WholeStands.getD {number other : Option Int} (stands : WholeStands number other)
    (standard : Int) : number.getD standard = other.getD standard ∨
      other.getD standard = standard ∧ Value.intIsPrintable (number.getD standard) = true := by
  rcases stands with rfl | ⟨rfl, whole, rfl, shown⟩
  · exact .inl rfl
  · exact .inr ⟨rfl, shown⟩

section

variable {scheme : CodecId} {given spelled left : Properties}
  (respelled : Respelled scheme given spelled left) {name : String} (owner : String)

include respelled

/-- A parameter that is neither a whole number nor a truth value is left alone. -/
theorem Respelled.follows_other {kind : Kind} (known : (name, kind) ∈ parameterKinds scheme)
    (other : kind ≠ .whole ∧ kind ≠ .truth) {α : Type}
    (read : ParameterName → Value → Parameter.Reading α) :
    Follows (· = ·) (Parameter.readOptional read given ⟨owner, name⟩)
      (Parameter.readOptional read spelled ⟨owner, name⟩)
      (Parameter.readOptional read left ⟨owner, name⟩) := by
  rcases respelled.given?_cases name with ⟨same, same'⟩ | ⟨kind', _, _, known', numeric, _⟩
  · simp only [Parameter.readOptional, same, same']
    exact follows_self (fun _ => rfl) _
  · obtain rfl := kind_unique known known'
    rcases numeric with rfl | rfl
    · exact absurd rfl other.1
    · exact absurd rfl other.2

/-- A whole number is read as it is given and as it is shown in a text; a truth value that is
given instead is refused both times. -/
theorem Respelled.follows_whole :
    Follows WholeStands (Parameter.readOptional Parameter.readInt given ⟨owner, name⟩)
      (Parameter.readOptional Parameter.readInt spelled ⟨owner, name⟩)
      (Parameter.readOptional Parameter.readInt left ⟨owner, name⟩) := by
  rcases respelled.given?_cases name with
    ⟨same, same'⟩ | ⟨_, value, text, _, _, number, isShown, found, shown, missing⟩
  · simp only [Parameter.readOptional, same, same']
    exact follows_self (fun _ => .inl rfl) _
  · rw [Parameter.readOptional_of_given found, Parameter.readOptional_of_given shown,
      Parameter.readOptional_of_not_given missing]
    cases number with
    | @int number printable =>
      have read : Parameter.readInt ⟨owner, name⟩ (.text text) = .ok number := by
        simp only [Parameter.readInt, Value.text?, Option.bind_some,
          Parameter.intOfText?_of_int printable isShown]
      rw [read]
      exact .read (.inr ⟨rfl, number, rfl, printable⟩)
    | bool truth =>
      have refused : Parameter.readInt ⟨owner, name⟩ (.text text) =
          .error (.configuration (.notIntegerNumeral ⟨owner, name⟩ (.text text))) := by
        simp only [Parameter.readInt, Value.text?, Option.bind_some,
          Parameter.intOfText?_of_bool isShown]
        rfl
      rw [refused]
      exact .refused _ _ _

/-- A truth value is read as it is given and as it is shown in a text; a whole number that is
given instead is read or refused both times. -/
theorem Respelled.follows_truth :
    Follows (fun _ _ => True) (Parameter.readOptional Parameter.readBool given ⟨owner, name⟩)
      (Parameter.readOptional Parameter.readBool spelled ⟨owner, name⟩)
      (Parameter.readOptional Parameter.readBool left ⟨owner, name⟩) := by
  rcases respelled.given?_cases name with
    ⟨same, same'⟩ | ⟨_, value, text, _, _, number, isShown, found, shown, missing⟩
  · simp only [Parameter.readOptional, same, same']
    exact follows_self (fun _ => trivial) _
  · rw [Parameter.readOptional_of_given found, Parameter.readOptional_of_given shown,
      Parameter.readOptional_of_not_given missing]
    cases number with
    | @int number printable =>
      simp only [Parameter.readBool, Value.text?, Option.bind_some,
        Parameter.truthOfText?_of_int printable isShown]
      cases Parameter.truthOfInt? number with
      | some truth => exact .read trivial
      | none =>
        have worded : [Value.int number].all Value.isPrintable = true := by
          simp [Value.isPrintable, printable]
        simp only [Parameter.refuse, Fault.refuse, ConfigurationFault.shownValues, worded]
        exact .refused _ _ _
    | bool truth =>
      simp only [Parameter.readBool, Value.text?, Option.bind_some,
        Parameter.truthOfText?_of_bool isShown]
      exact .read trivial

end

/-- What is made of the result of two steps and recorded is what the first one leads to. -/
theorem bind_map_bind_record {α β : Type} (result : Except Fault α) (further : α → Except Fault β)
    (make : β → Codec) : ((result >>= further).map make >>= record) =
      result >>= fun value => (further value).map make >>= record := by
  cases result <;> rfl

/-- A check that refuses what it does not let pass leads to a good end, or what is shown cannot
be: in the wording of the refusal, or in the record of the codec. -/
theorem endsWith_or_unprintable {α : Type} (checked : Except ConfigurationFault α)
    (make : α → Codec) :
    EndsWith (fun value => (make value).isPrintable = true) (checked.mapError Fault.refuse) ∧
        EndsProperly ((checked.mapError Fault.refuse).map make >>= record) ∨
      ¬ EndsWith (fun value => (make value).isPrintable = true)
          (checked.mapError Fault.refuse) ∧
        ((checked.mapError Fault.refuse).map make >>= record) =
          .error (.foreign .unprintableNumber) := by
  cases checked with
  | error cause =>
    by_cases shown : cause.shownValues.all Value.isPrintable = true
    · exact .inl ⟨endsWith_refuse_iff.mpr shown, endsProperly_refuse_iff.mpr shown⟩
    · refine .inr ⟨mt endsWith_refuse_iff.mp shown, ?_⟩
      show Except.error (Fault.refuse cause) = _
      rw [Fault.refuse, if_neg shown]
  | ok value =>
    show EndsWith _ (.ok value) ∧ EndsProperly (record (make value)) ∨
      ¬ EndsWith _ (.ok value) ∧ record (make value) = _
    rw [endsWith_ok_iff, record]
    by_cases shown : (make value).isPrintable = true
    · simp [shown]
    · simp [shown]

/-- Checks agree if what can be shown after the second one can be shown after the first one. -/
theorem agrees_finish {α : Type} {checked other : Except ConfigurationFault α} {make : α → Codec}
    (implies : EndsWith (fun value => (make value).isPrintable = true)
        (other.mapError Fault.refuse) →
      EndsWith (fun value => (make value).isPrintable = true) (checked.mapError Fault.refuse)) :
    Agrees ((checked.mapError Fault.refuse).map make >>= record)
      ((checked.mapError Fault.refuse).map make >>= record)
      ((other.mapError Fault.refuse).map make >>= record) := by
  refine ⟨.inl rfl, ?_⟩
  intro fault failed escapes
  rcases endsWith_or_unprintable checked make with ⟨_, proper⟩ | ⟨hidden, unprintable⟩
  · rw [failed] at proper
    obtain ⟨cause, refused⟩ := endsWith_error_iff.mp proper
    exact absurd refused (escapes cause)
  · rcases endsWith_or_unprintable other make with ⟨ends, _⟩ | ⟨_, unprintable'⟩
    · exact absurd (implies ends) hidden
    · rw [unprintable', ← unprintable, failed]

/-- Building agrees on properties that are given, on the same ones in another spelling, and on
those that are left of them. -/
theorem Respelled.agrees_build {scheme : CodecId} {given spelled left : Properties}
    (respelled : Respelled scheme given spelled left) :
    Agrees (build scheme given).result (build scheme spelled).result
      (build scheme left).result := by
  simp only [result_build]
  cases scheme with
  | identity => exact ⟨.inl rfl, fun _ failed _ => failed⟩
  | zlib =>
    simp only [configure, Deflate.Settings.ofProperties, bind_map_bind_record]
    apply (respelled.follows_whole _).bind
    intro level other_level level_stands
    apply agrees_finish
    intro ends
    rcases level_stands.getD 1 with same | ⟨_, shown⟩
    · rwa [same]
    · exact (Deflate.Settings.endsWith_ofLevel_iff.mpr shown).mono
        fun settings _ => isPrintable_deflate settings
  | blosc =>
    simp only [configure, Blosc.Settings.ofProperties, bind_map_bind_record]
    apply (respelled.follows_other _ (by decide : ("cname", Kind.text) ∈ _) (by decide) _).bind
    rintro label _ rfl
    apply (respelled.follows_whole _).bind
    intro level other_level level_stands
    apply (respelled.follows_whole _).bind
    intro shuffle other_shuffle shuffle_stands
    apply (respelled.follows_whole _).bind
    intro size other_size size_stands
    apply agrees_finish
    simp only [isPrintable_blosc_iff, Blosc.Settings.endsWith_ofParts_iff]
    have level_inRange : 0 ≤ (Blosc.Settings.standard.level.val : Int) ∧
        (Blosc.Settings.standard.level.val : Int) ≤ 9 := by decide
    have shuffle_inRange : 0 ≤ (Blosc.Settings.standard.shuffle.code : Int) ∧
        (Blosc.Settings.standard.shuffle.code : Int) ≤ 2 := by decide
    have level := level_stands.getD Blosc.Settings.standard.level.val
    have shuffle := shuffle_stands.getD Blosc.Settings.standard.shuffle.code
    have size := size_stands.getD Blosc.Settings.standard.blockSize
    grind
  | j2k =>
    simp only [configure, Raster.Settings.ofProperties, bind_map_bind_record]
    apply (respelled.follows_other _ (by decide : ("quality", Kind.real) ∈ _) (by decide) _).bind
    rintro quality _ rfl
    apply (respelled.follows_truth _).bind
    intro littleEndian other_littleEndian _
    apply (respelled.follows_truth _).bind
    intro interleaved other_interleaved _
    apply (respelled.follows_whole _).bind
    intro width other_width width_stands
    apply (respelled.follows_whole _).bind
    intro height other_height height_stands
    apply (respelled.follows_whole _).bind
    intro bits other_bits bits_stands
    apply (respelled.follows_whole _).bind
    intro channels other_channels channels_stands
    apply (respelled.follows_truth _).bind
    intro lossless other_lossless _
    apply agrees_finish
    simp only [isPrintable_raster_iff, Raster.Settings.endsWith_ofParts_iff]
    -- The default of a side is a side, so a check that comes to a later number with the defaults
    -- comes to it without them or refuses a number that was shown in a text.
    have unknown : Raster.IsSide (-1) := by decide
    have width := width_stands.getD (-1)
    have height := height_stands.getD (-1)
    have bits := bits_stands.getD 8
    have channels := channels_stands.getD 1
    grind

/-- An identifier that identifies nothing is refused whatever the dictionary is. -/
theorem result_create_dict_of_not_resolved {id : Value} {cause : ConfigurationFault}
    (unresolved : resolve id = .error cause) :
    ∃ fault, ∀ properties, (create id [.dict properties] []).result = .error fault := by
  by_cases plain : ∀ entries, id ≠ .dict entries
  · refine ⟨Fault.refuse cause, fun properties => ?_⟩
    simp only [create, gather_dict plain, unresolved]
  · push Not at plain
    obtain ⟨entries, rfl⟩ := plain
    exact ⟨Fault.refuse .argumentsAfterProperties, fun _ => rfl⟩

/-- An identifier and properties lead to the same codec whether numbers and truth values are given
as such or shown in texts, or to no codec either way: both requests fail for the same reason, or
there is a configuration fault for each of them. What is no configuration fault comes of the
properties without these numbers as well, so no number that is shown in a text is to blame for
it. A codec that is built has every whole number as it was given. -/
theorem create_respelled {id : Value} {given spelled left : Properties}
    (respelled : ∀ scheme, resolve id = .ok scheme → Respelled scheme given spelled left) :
    SameEnd (create id [.dict given] []).result (create id [.dict spelled] []).result ∧
      (∀ fault, (create id [.dict given] []).result = .error fault →
        (∀ cause, fault ≠ .configuration cause) →
          (create id [.dict left] []).result = .error fault) ∧
      ∀ codec, (create id [.dict given] []).result = .ok codec →
        (create id [.dict spelled] []).result = .ok codec ∧
          ∀ name number, (name, Kind.whole) ∈ parameterKinds codec.scheme →
            given.given? name = some (.int number) →
              codec.parameters.given? name = some (.int number) := by
  cases resolved : resolve id with
  | error cause =>
    obtain ⟨fault, refused⟩ := result_create_dict_of_not_resolved resolved
    simp only [refused]
    exact ⟨.inl rfl, fun _ failed _ => failed, fun _ built => nomatch built⟩
  | ok scheme =>
    simp only [result_create_dict resolved]
    have agrees := (respelled scheme resolved).agrees_build
    refine ⟨agrees.sameEnd, agrees.left_eq, ?_⟩
    intro codec built
    constructor
    · rcases agrees.sameEnd with same | ⟨⟨cause, refused⟩, _⟩
      · exact same.symm.trans built
      · exact absurd (built.symm.trans refused) nofun
    · intro name number known number_given
      rw [scheme_of_build built] at known
      exact given?_parameters_of_build built known number_given

/-- A side, a count and a truth value. -/
def plainProperties : Properties :=
  [(.text "imageWidth", .int 12), (.text "channels", .int 3), (.text "littleEndian", .bool true)]

/-- The same with the side and the truth value in texts. -/
def shownProperties : Properties :=
  [(.text "imageWidth", .text "\t12 "), (.text "channels", .int 3),
    (.text "littleEndian", .text " True")]

/-- The same without the side and the truth value. -/
def remainingProperties : Properties :=
  [(.text "imageWidth", .none), (.text "channels", .int 3), (.text "littleEndian", .none)]

/-- Shown in texts, the side and the truth value lead to the codec that they lead to as such. -/
theorem create_shownProperties :
    Respelled .j2k plainProperties shownProperties remainingProperties ∧
      ∃ codec, (create (.text "j2k") [.dict plainProperties] []).result = .ok codec ∧
        (create (.text "j2k") [.dict shownProperties] []).result = .ok codec ∧
        codec.parameters.given? "imageWidth" = some (.int 12) := by
  have side_printable : Value.intIsPrintable 12 = true := Value.intIsPrintable_of_lt (by decide)
  have unknown_printable : Value.intIsPrintable (-1) = true :=
    Value.intIsPrintable_of_lt (by decide)
  have channels_printable : Value.intIsPrintable 3 = true := Value.intIsPrintable_of_lt (by decide)
  have side_shown : (Value.int 12).IsShownIn "\t12 " :=
    ⟨"\t", " ", by decide, by decide, rfl⟩
  have order_shown : (Value.bool true).IsShownIn " True" :=
    ⟨" ", "", by decide, by decide, rfl⟩
  have respelled : Respelled .j2k plainProperties shownProperties remainingProperties :=
    .shown (show ("imageWidth", Kind.whole) ∈ parameterKinds .j2k by decide) (.inl rfl)
      (.int side_printable) side_shown <| .kept _ <|
        .shown (show ("littleEndian", Kind.truth) ∈ parameterKinds .j2k by decide) (.inr rfl)
          (.bool true) order_shown .nil
  have resolved : resolve (.text "j2k") = .ok .j2k := rfl
  have built : (create (.text "j2k") [.dict plainProperties] []).result =
      .ok (.raster { littleEndian := true, width := 12, channels := 3 }) := by
    rw [result_create_dict resolved]
    exact result_build_of_configure rfl
      ((isPrintable_raster_iff _).mpr ⟨side_printable, unknown_printable, channels_printable⟩)
  obtain ⟨_, _, stored⟩ := @create_respelled (.text "j2k") _ _ _ fun scheme asked => by
    obtain rfl := Except.ok.inj (resolved.symm.trans asked)
    exact respelled
  obtain ⟨built_of_shown, numbers⟩ := stored _ built
  exact ⟨respelled, _, built, built_of_shown, numbers "imageWidth" 12 (by decide) rfl⟩

end Codec

end ChunkCodecs
