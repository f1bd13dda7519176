import ChunkCodecs.Proofs.SingleParameter
import ChunkCodecs.Proofs.WholeNumbers
import ChunkCodecs.Proofs.Words

/-!
# Parameters as numerals and as doubles

A parameter may be given as a numeral, or as the double that the numeral stands for. Both lead to
equal codecs, or both are refused, with three exceptions. The digits for true and false are numbers,
and a number is no truth value. A whole number that is no double is rounded on the way, or refused,
so another size or count is asked for. And a codec with a quality that is no number does not equal
itself.
-/

namespace ChunkCodecs

open Parameter (Kind)

/-- Settings of an unknown compressor are refused. -/
theorem Blosc.Settings.ofParts_of_unknown {label : Parameter.Label}
    (unknown : Compressor.ofName? label.content = none) (level shuffle blockSize : Int) :
    ofParts label level shuffle blockSize = .error (.bloscCompressor label.content) := by
  rw [ofParts]
  split
  · rfl
  · next known => cases unknown.symm.trans known

namespace Codec

/-- Two requests mean the same: they lead to equal codecs, or both are refused. -/
inductive MeanSame : Except Fault Codec → Except Fault Codec → Prop
  /-- The codecs are equal. -/
  | equal {left right : Codec} (agree : left.agrees right = true) : MeanSame (.ok left) (.ok right)
  /-- Both requests are refused. -/
  | refused (cause other : ConfigurationFault) :
      MeanSame (.error (.configuration cause)) (.error (.configuration other))

/-- A numeral is read in another way than the double that it stands for. -/
inductive IsReadApart (key : String) (token : String) : Kind → Prop
  /-- The text is a digit for a truth value, and a number. -/
  | truth (digit : Text.trim token = "0" ∨ Text.trim token = "1") : IsReadApart key token .truth
  /-- The text is the numeral of a size or a count that is no double. -/
  | whole {number : ℤ} (unbounded : key ∈ unboundedKeys)
      (spelled : Numeral.SpellsWhole (Text.trimChars token.toList) number) (positive : 0 < number)
      (rounded : ¬ Double.RoundsToWhole number number) : IsReadApart key token .whole
  /-- The text is the word for what is no number. -/
  | undefined (word : Numeral.readDouble? (Text.trimChars token.toList) = some .nan) :
      IsReadApart key token .real

/-- What means the same as a refusal is a refusal. -/
theorem meanSame_refused_iff {cause : ConfigurationFault} {result : Except Fault Codec} :
    MeanSame (.error (.configuration cause)) result ↔
      ∃ other, result = .error (.configuration other) := by
  constructor
  · intro same
    cases same with
    | refused _ other => exact ⟨other, rfl⟩
  · rintro ⟨other, rfl⟩
    exact .refused cause other

variable {scheme : CodecId} {key : String} {kind : Kind}

/-- A request means the same as itself unless it asks for a quality that is no number. -/
theorem meanSame_self (known : (key, kind) ∈ parameterKinds scheme) {value : Value}
    (some_value : value ≠ .none) (manageable : kind.IsManageable value)
    (is_number : kind = .real → ∀ parameter, Parameter.readDouble parameter value ≠ .ok .nan) :
    MeanSame (build scheme [(.text key, value)]).result
      (build scheme [(.text key, value)]).result := by
  obtain ⟨cause, refused⟩ | ⟨codec, built⟩ := build_single_cases known manageable
  · rw [refused]
    exact .refused cause cause
  · rw [built]
    refine .equal (agrees_self ?_)
    rintro settings rfl undefined
    obtain unset | ⟨real, parameter, read⟩ := quality_of_build_single known some_value built
    · cases undefined.symm.trans unset
    · exact is_number real parameter (undefined ▸ read)

/-- A text can be managed by every parameter. -/
theorem isManageable_text (kind : Kind) (token : String) : kind.IsManageable (.text token) := by
  cases kind with
  | truth => exact ⟨rfl, trivial⟩
  | _ => exact ⟨trivial, trivial⟩

/-- A name that is a number makes no codec. -/
theorem build_single_refused_of_numeral (known : (key, Kind.text) ∈ parameterKinds scheme)
    {token : String} {number : Double}
    (numeral : Numeral.readDouble? (Text.trimChars token.toList) = some number) :
    ∃ cause, (build scheme [(.text key, .text token)]).result = .error (.configuration cause) := by
  have unknown : Blosc.Compressor.ofName? token = none := by
    cases found : Blosc.Compressor.ofName? token with
    | none => rfl
    | some compressor =>
      obtain rfl := Blosc.Compressor.name_of_ofName? found
      have no_numeral : Numeral.readDouble? (Text.trimChars compressor.name.toList) = none := by
        cases compressor <;> rfl
      cases numeral.symm.trans no_numeral
  cases scheme with
  | blosc =>
    simp only [parameterKinds, List.mem_cons, Prod.mk.injEq, List.not_mem_nil, or_false,
      reduceCtorEq, and_false, and_true] at known
    subst known
    have configured : configure .blosc [(.text "cname", .text token)] =
        .error (.configuration (.bloscCompressor token)) := by
      have is_text : Value.text token ≠ .none := Value.noConfusion
      rw [configure, Blosc.Settings.ofProperties, readOptional_single _ _ _ _ is_text, if_pos rfl]
      exact congrArg (fun made => (made.mapError Fault.refuse).map blosc)
        (@Blosc.Settings.ofParts_of_unknown (.plain token) unknown 5 1 0)
    rw [result_build, configured]
    exact ⟨_, rfl⟩
  | _ => simp [parameterKinds] at known

/-- A quality that is no number makes a codec that does not equal itself. -/
theorem not_meanSame_undefined (known : (key, Kind.real) ∈ parameterKinds scheme) :
    ¬ MeanSame (build scheme [(.text key, .float .nan)]).result
      (build scheme [(.text key, .float .nan)]).result := by
  have built : (build .j2k [(.text "quality", .float .nan)]).result =
      .ok (.raster { lossless := false, quality := .nan }) :=
    result_build_of_configure rfl (isPrintable_unmeasured rfl rfl rfl)
  cases scheme with
  | j2k =>
    simp only [parameterKinds, List.mem_cons, Prod.mk.injEq, List.not_mem_nil, or_false,
      reduceCtorEq, and_false, false_or, and_true] at known
    subst known
    rw [built]
    intro same
    cases same with
    | equal agree => cases agree
  | _ => simp [parameterKinds] at known

variable {token : String} {number : Double}

/-- A number that a parameter refuses means the same as its text exactly if the text is refused. -/
theorem meanSame_iff_of_refused (known : (key, kind) ∈ parameterKinds scheme)
    (refused : ∀ parameter, ∃ cause,
      kind.read parameter (.float number) = .error (.configuration cause)) :
    MeanSame (build scheme [(.text key, .float number)]).result
        (build scheme [(.text key, .text token)]).result ↔
      ∃ cause, (build scheme [(.text key, .text token)]).result = .error (.configuration cause) := by
  have is_number : Value.float number ≠ .none := Value.noConfusion
  obtain ⟨cause, no_codec⟩ := build_single_refused known is_number refused
  rw [no_codec, meanSame_refused_iff]

/-- Texts are read as qualities as doubles are. -/
theorem real_meanSame_iff (known : (key, Kind.real) ∈ parameterKinds scheme)
    (numeral : Numeral.readDouble? (Text.trimChars token.toList) = some number) :
    MeanSame (build scheme [(.text key, .float number)]).result
        (build scheme [(.text key, .text token)]).result ↔ ¬ IsReadApart key token .real := by
  have is_number : Value.float number ≠ .none := Value.noConfusion
  have is_text : Value.text token ≠ .none := Value.noConfusion
  have alike : (build scheme [(.text key, .text token)]).result =
      (build scheme [(.text key, .float number)]).result := by
    apply result_build_single_congr known is_text is_number
    intro parameter
    simp only [Kind.read, Parameter.readDouble, Value.text?, Option.bind_some, numeral]
    rfl
  rw [alike]
  by_cases undefined : number = .nan
  · subst undefined
    exact iff_of_false (not_meanSame_undefined known) (not_not.mpr (.undefined numeral))
  · refine iff_of_true (meanSame_self known is_number ⟨trivial, trivial⟩ ?_) ?_
    · rintro _ parameter read
      exact undefined (Except.ok.inj read)
    · intro apart
      cases apart with
      | undefined word => exact undefined (Option.some.inj (numeral.symm.trans word))

/-- A number is no truth value, so a text for a truth value is read apart. -/
theorem truth_meanSame_iff (known : (key, Kind.truth) ∈ parameterKinds scheme)
    (numeral : Numeral.readDouble? (Text.trimChars token.toList) = some number) :
    MeanSame (build scheme [(.text key, .float number)]).result
        (build scheme [(.text key, .text token)]).result ↔ ¬ IsReadApart key token .truth := by
  have is_text : Value.text token ≠ .none := Value.noConfusion
  have apart_iff : IsReadApart key token .truth ↔
      (Parameter.truthOfText? token).isSome = true := by
    have digit_iff := Parameter.truth_isNumeral_iff token
    rw [numeral, Option.isSome_some, and_iff_left rfl] at digit_iff
    rw [digit_iff]
    constructor
    · intro apart
      cases apart with
      | truth digit => exact digit
    · exact .truth
  rw [meanSame_iff_of_refused known fun _ => ⟨_, rfl⟩, apart_iff]
  cases read : Parameter.truthOfText? token with
  | none =>
    refine iff_of_true (build_single_refused known is_text ?_) Bool.false_ne_true
    intro parameter
    refine ⟨.notTruth parameter (.text token), ?_⟩
    simp only [Kind.read, Parameter.readBool, Value.text?, Option.bind_some, read]
    rfl
  | some truth =>
    have alike : (build scheme [(.text key, .text token)]).result =
        (build scheme [(.text key, .bool truth)]).result := by
      have is_truth : Value.bool truth ≠ .none := Value.noConfusion
      apply result_build_single_congr known is_text is_truth
      intro parameter
      simp only [Kind.read, Parameter.readBool, Value.text?, Option.bind_some, read]
      rfl
    obtain ⟨codec, built⟩ := exists_build_single_of_truth known truth
    rw [alike, built]
    refine iff_of_false ?_ (not_not.mpr rfl)
    rintro ⟨cause, refused⟩
    cases refused

/-- A text is read as the whole number that is read of it. -/
theorem result_build_text (known : (key, Kind.whole) ∈ parameterKinds scheme) {whole : ℤ}
    (read : Parameter.intOfText? token = some whole) :
    (build scheme [(.text key, .text token)]).result =
      (build scheme [(.text key, .int whole)]).result := by
  have is_text : Value.text token ≠ .none := Value.noConfusion
  have is_whole : Value.int whole ≠ .none := Value.noConfusion
  apply result_build_single_congr known is_text is_whole
  intro parameter
  show Parameter.readInt parameter (.text token) = .ok whole
  rw [@Parameter.readInt_of_text? parameter (.text token) token rfl, read]

/-- A double is read as the whole number that it is. -/
theorem result_build_float (known : (key, Kind.whole) ∈ parameterKinds scheme) {whole : ℤ}
    (taken : number.toInt? = some whole) :
    (build scheme [(.text key, .float number)]).result =
      (build scheme [(.text key, .int whole)]).result := by
  have is_number : Value.float number ≠ .none := Value.noConfusion
  have is_whole : Value.int whole ≠ .none := Value.noConfusion
  apply result_build_single_congr known is_number is_whole
  intro parameter
  simp only [Kind.read, Parameter.readInt, taken]
  rfl

/-- A double that is not whole is refused as a whole number. -/
theorem readInt_refused_of_toInt? (taken : number.toInt? = none) (parameter : ParameterName) :
    ∃ cause, Kind.whole.read parameter (.float number) = .error (.configuration cause) := by
  refine ⟨.notWhole parameter (.float number), ?_⟩
  simp only [Kind.read, Parameter.readInt, taken]
  rfl

/-- A size or a count that no double holds does not mean the same as its double: the text makes a
codec, and one that equals it would hold the number, which is rounded. -/
theorem not_meanSame_rounded (known : (key, Kind.whole) ∈ parameterKinds scheme) {whole : ℤ}
    (read : Parameter.intOfText? token = some whole) (rounding : number.IsRoundingOf whole)
    (rounded : ¬ Double.RoundsToWhole whole whole) (unbounded : key ∈ unboundedKeys)
    (positive : 0 < whole) :
    ¬ MeanSame (build scheme [(.text key, .float number)]).result
      (build scheme [(.text key, .text token)]).result := by
  have printable := Parameter.intIsPrintable_of_intOfText? read
  obtain ⟨codec, built⟩ := exists_build_single_of_pos known unbounded printable positive
  rw [result_build_text known read, built]
  intro same
  cases taken : number.toInt? with
  | none =>
    have is_number : Value.float number ≠ .none := Value.noConfusion
    obtain ⟨cause, refused⟩ :=
      build_single_refused known is_number (readInt_refused_of_toInt? taken)
    rw [refused] at same
    cases same
  | some other =>
    rw [result_build_float known taken] at same
    cases also_built : (build scheme [(.text key, .int other)]).result with
    | error fault =>
      rw [also_built] at same
      cases same
    | ok left =>
      rw [also_built] at same
      cases same with
      | equal agree =>
        obtain rfl := eq_of_build_single known also_built built agree
        exact rounded (rounding.toInt?_eq_some_iff.mp taken)

/-- A numeral that is out of bounds means the same as its double: rounding does not take the
number past the bounds, so both are refused. -/
theorem meanSame_of_outside (known : (key, Kind.whole) ∈ parameterKinds scheme) {whole : ℤ}
    (read : Parameter.intOfText? token = some whole) (rounding : number.IsRoundingOf whole)
    (outside : whole ≤ -2 ∨ 17 ≤ whole ∧ key ∉ unboundedKeys) :
    MeanSame (build scheme [(.text key, .float number)]).result
      (build scheme [(.text key, .text token)]).result := by
  have refused {other : ℤ} (printable : Value.intIsPrintable other = true)
      (outside : other ≤ -2 ∨ 17 ≤ other ∧ key ∉ unboundedKeys) :
      ∃ cause, (build scheme [(.text key, .int other)]).result =
        .error (.configuration cause) := by
    apply build_single_refused_of_bounds known printable
    exact outside.imp (fun below => by omega) (And.imp_left fun above => by omega)
  obtain ⟨cause, no_codec⟩ := refused (Parameter.intIsPrintable_of_intOfText? read) outside
  rw [result_build_text known read, no_codec]
  cases taken : number.toInt? with
  | none =>
    have is_number : Value.float number ≠ .none := Value.noConfusion
    obtain ⟨other, also_refused⟩ :=
      build_single_refused known is_number (readInt_refused_of_toInt? taken)
    rw [also_refused]
    exact .refused other cause
  | some other =>
    have near := rounding.toInt?_eq_some_iff.mp taken
    have also_outside : other ≤ -2 ∨ 17 ≤ other ∧ key ∉ unboundedKeys :=
      outside.imp (near.bounds (by decide)).2 (And.imp_left (near.bounds (by decide)).1)
    obtain ⟨also, also_refused⟩ := refused
      (Parameter.intIsPrintable_of_lt_pow (Double.natAbs_toInt?_lt taken) (by decide))
      also_outside
    rw [result_build_float known taken, also_refused]
    exact .refused also cause

/-- A numeral that is too large for a double to hold it is read apart exactly if it is given as a
size or a count. -/
theorem rounded_meanSame_iff (known : (key, Kind.whole) ∈ parameterKinds scheme) {whole : ℤ}
    (read : Parameter.intOfText? token = some whole) (rounding : number.IsRoundingOf whole)
    (rounded : ¬ Double.RoundsToWhole whole whole) :
    MeanSame (build scheme [(.text key, .float number)]).result
        (build scheme [(.text key, .text token)]).result ↔ ¬ (key ∈ unboundedKeys ∧ 0 < whole) := by
  have large : 2 ^ 53 ≤ whole.natAbs := not_lt.mp (mt Double.roundsToWhole_self rounded)
  by_cases accepted : key ∈ unboundedKeys ∧ 0 < whole
  · refine iff_of_false ?_ (not_not.mpr accepted)
    exact not_meanSame_rounded known read rounding rounded accepted.1 accepted.2
  · refine iff_of_true (meanSame_of_outside known read rounding ?_) accepted
    obtain negative | positive := le_or_gt whole 0
    · omega
    · exact .inr ⟨by omega, fun unbounded => accepted ⟨unbounded, positive⟩⟩

/-- Texts are read as whole numbers as doubles are, as far as doubles hold the numbers. -/
theorem whole_meanSame_iff (known : (key, Kind.whole) ∈ parameterKinds scheme)
    (numeral : Numeral.readDouble? (Text.trimChars token.toList) = some number) :
    MeanSame (build scheme [(.text key, .float number)]).result
        (build scheme [(.text key, .text token)]).result ↔ ¬ IsReadApart key token .whole := by
  have alike {whole : ℤ} (read : Parameter.intOfText? token = some whole)
      (taken : number.toInt? = some whole) :
      MeanSame (build scheme [(.text key, .float number)]).result
        (build scheme [(.text key, .text token)]).result := by
    rw [result_build_text known read, result_build_float known taken]
    have is_whole : Value.int whole ≠ .none := Value.noConfusion
    apply meanSame_self known is_whole ⟨trivial, Parameter.intIsPrintable_of_intOfText? read⟩
    rintro ⟨⟩
  cases plain : Numeral.readInt? (Text.trimChars token.toList) with
  | none =>
    have read : Parameter.intOfText? token = number.toInt? := by
      simp only [Parameter.intOfText?, plain, numeral]
    refine iff_of_true ?_ ?_
    · cases taken : number.toInt? with
      | some whole => exact alike (read.trans taken) taken
      | none =>
        have is_text : Value.text token ≠ .none := Value.noConfusion
        apply (meanSame_iff_of_refused known (readInt_refused_of_toInt? taken)).mpr
        apply build_single_refused known is_text
        intro parameter
        refine ⟨.notIntegerNumeral parameter (.text token), ?_⟩
        show Parameter.readInt parameter (.text token) = _
        rw [@Parameter.readInt_of_text? parameter (.text token) token rfl, read.trans taken]
        rfl
    · intro apart
      cases apart with
      | whole _ spelled _ _ => cases plain.symm.trans (Numeral.readInt?_eq_some_iff.mpr spelled)
  | some whole =>
    have read : Parameter.intOfText? token = some whole := by
      simp only [Parameter.intOfText?, plain]
    have apart_iff : IsReadApart key token .whole ↔
        (key ∈ unboundedKeys ∧ 0 < whole) ∧ ¬ Double.RoundsToWhole whole whole := by
      constructor
      · intro apart
        cases apart with
        | whole unbounded spelled positive rounded =>
          rw [← Numeral.readInt?_eq_some_iff, plain] at spelled
          obtain rfl := Option.some.inj spelled
          exact ⟨⟨unbounded, positive⟩, rounded⟩
      · rintro ⟨⟨unbounded, positive⟩, rounded⟩
        exact .whole unbounded (Numeral.readInt?_eq_some_iff.mp plain) positive rounded
    obtain ⟨double, found, rounding⟩ :=
      (Numeral.readInt?_eq_some_iff.mp plain).spells.exists_readDouble?
    obtain rfl := Option.some.inj (numeral.symm.trans found)
    rw [apart_iff]
    by_cases rounded : Double.RoundsToWhole whole whole
    · exact iff_of_true (alike read (rounding.toInt?_eq_some_iff.mpr rounded))
        fun apart => apart.2 rounded
    · rw [rounded_meanSame_iff known read rounding rounded, and_iff_left rounded]

/-- A number is no name, and no compressor has a number as its name. -/
theorem text_meanSame (known : (key, Kind.text) ∈ parameterKinds scheme)
    (numeral : Numeral.readDouble? (Text.trimChars token.toList) = some number) :
    MeanSame (build scheme [(.text key, .float number)]).result
        (build scheme [(.text key, .text token)]).result :=
  (meanSame_iff_of_refused known fun _ => ⟨_, rfl⟩).mpr
    (build_single_refused_of_numeral known numeral)

/-- A text that is no numeral means the same as itself. -/
theorem text_meanSame_self (known : (key, kind) ∈ parameterKinds scheme)
    (no_numeral : Numeral.readDouble? (Text.trimChars token.toList) = none) :
    MeanSame (build scheme [(.text key, .text token)]).result
      (build scheme [(.text key, .text token)]).result := by
  have is_text : Value.text token ≠ .none := Value.noConfusion
  apply meanSame_self known is_text (isManageable_text kind token)
  intro _ parameter read
  simp only [Parameter.readDouble, Value.text?, Option.bind_some, no_numeral] at read
  cases read

/-- Only numerals are read apart. -/
theorem not_isReadApart (no_numeral : Numeral.readDouble? (Text.trimChars token.toList) = none) :
    ¬ IsReadApart key token kind := by
  intro apart
  cases apart with
  | truth digit =>
    have numeral := ((Parameter.truth_isNumeral_iff token).mpr digit).2
    rw [no_numeral] at numeral
    cases numeral
  | whole _ spelled _ _ =>
    obtain ⟨_, found, _⟩ := spelled.spells.exists_readDouble?
    cases no_numeral.symm.trans found
  | undefined word => cases no_numeral.symm.trans word

end Codec

end ChunkCodecs
