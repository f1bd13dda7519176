import ChunkCodecs.Proofs.Number.Spelled
import ChunkCodecs.Proofs.Refusals

/-!
# Whole numbers in loosely typed values

A whole number may be given as any number that has no fractional part, or as a decimal numeral of
one. What is read is the number that is given, and a number that is not whole is refused, with
exceptions that come from the way over a double.

A numeral with a point or an exponent, or with too many digits, is rounded to a double, and it is
the double that has to be whole. A fraction is rounded as well before it is called whole, though
its own whole part is taken then; and one beyond the doubles, or one too long to be shown, is
refused by a fault of foreign origin.
-/

namespace ChunkCodecs

namespace Value

/-- A value is a number, or a text that spells one. -/
inductive Denotes : Value → ℚ → Prop
  /-- A whole number. -/
  | int (number : ℤ) : Denotes (.int number) number
  /-- A whole number of a numeric array. -/
  | integer (typeName : String) (number : ℤ) : Denotes (.element (.integer typeName number)) number
  /-- A finite double. -/
  | float (number : FiniteDouble) : Denotes (.float (.finite number)) number.toRat
  /-- A finite floating-point number of a numeric array. -/
  | floating (typeName : String) (format : BinaryFormat) (number : FiniteDouble) :
      Denotes (.element (.floating typeName format (.finite number))) number.toRat
  /-- A fraction. -/
  | fraction (numerator : ℤ) (denominator : ℕ) :
      Denotes (.fraction numerator denominator) (numerator / denominator)
  /-- A text that is a decimal numeral, with blanks around it. -/
  | text {value : Value} {text : String} {number : ℚ} (is_text : value.text? = some text)
      (spelled : Numeral.Spells (Text.trimChars text.toList) number) : Denotes value number

/-- A fraction has a positive denominator. -/
def HasDenominator : Value → Prop
  | .fraction _ denominator => 0 < denominator
  | _ => True

/-- A number that is not whole. -/
def IsFractional (number : ℚ) : Prop := ∀ whole : ℤ, (whole : ℚ) ≠ number

/-- A value that denotes a number is not read as that number, or not refused as it should be. -/
inductive IsMisread (number : ℚ) : Value → Prop
  /-- A text that is not read as a numeral of a whole number is rounded to another number that is
  whole. -/
  | text {value : Value} {text : String} {whole : ℤ} (is_text : value.text? = some text)
      (not_plain : ∀ plain, ¬ Numeral.SpellsWhole (Text.trimChars text.toList) plain)
      (rounded : Double.RoundsToWhole number whole) (other : (whole : ℚ) ≠ number) :
      IsMisread number value
  /-- A fraction that is not whole is rounded to a whole number. -/
  | fraction {numerator : ℤ} {denominator : ℕ} {whole : ℤ} (fractional : IsFractional number)
      (rounded : Double.RoundsToWhole number whole) :
      IsMisread number (.fraction numerator denominator)
  /-- A fraction that is not whole is beyond the doubles. -/
  | beyond {numerator : ℤ} {denominator : ℕ} (fractional : IsFractional number)
      (beyond : Double.limit ≤ |number|) : IsMisread number (.fraction numerator denominator)
  /-- A fraction that is not whole cannot be shown. -/
  | unprintable {numerator : ℤ} {denominator : ℕ} (fractional : IsFractional number)
      (long : (Value.fraction numerator denominator).isPrintable = false) :
      IsMisread number (.fraction numerator denominator)

/-- Only texts and fractions are misread. -/
theorem not_isMisread {value : Value} {number : ℚ} (no_text : value.text? = Option.none)
    (no_fraction : ∀ numerator denominator, value ≠ .fraction numerator denominator) :
    ¬ value.IsMisread number := by
  intro away
  cases away with
  | text is_text _ _ _ => cases no_text.symm.trans is_text
  | fraction _ _ => exact no_fraction _ _ rfl
  | beyond _ _ => exact no_fraction _ _ rfl
  | unprintable _ _ => exact no_fraction _ _ rfl

/-- A fraction that is misread if it is not whole is misread only then. -/
theorem isMisread_fraction_iff {numerator : ℤ} {denominator : ℕ} {number : ℚ}
    (away : IsFractional number → (fraction numerator denominator).IsMisread number) :
    (fraction numerator denominator).IsMisread number ↔ IsFractional number := by
  refine ⟨?_, away⟩
  intro is_away
  cases is_away with
  | text is_text _ _ _ => cases is_text
  | fraction fractional _ => exact fractional
  | beyond fractional _ => exact fractional
  | unprintable fractional _ => exact fractional

end Value

namespace Parameter

/-- A number is read as it is or not at all, and refused properly if it is not whole. -/
structure IsExact (number : ℚ) (reading : Reading ℤ) : Prop where
  /-- What is read is the number. -/
  same {whole : ℤ} (read : reading = .ok whole) : (whole : ℚ) = number
  /-- A number that is not whole is refused. -/
  refuses (fractional : Value.IsFractional number) : ∃ cause, reading = .error (.configuration cause)

section

variable {parameter : ParameterName} {value : Value} {number : ℚ}

/-- A number that is read as it is is read exactly. -/
theorem IsExact.ok {whole : ℤ} (same : (whole : ℚ) = number) : IsExact number (.ok whole) where
  same read := by
    cases read
    exact same
  refuses fractional := absurd same (fractional whole)

/-- A number that is refused properly is read exactly. -/
theorem IsExact.refused (cause : ConfigurationFault) :
    IsExact number (.error (.configuration cause)) where
  same read := by cases read
  refuses _ := ⟨cause, rfl⟩

/-- A whole number that is read as another one is not read exactly. -/
theorem isExact_ok_iff {whole : ℤ} : IsExact number (.ok whole) ↔ (whole : ℚ) = number :=
  ⟨fun isExact => isExact.same rfl, .ok⟩

/-- A fault of foreign origin is exact only for a whole number. -/
theorem isExact_foreign_iff {cause : ForeignFault} :
    IsExact number (.error (.foreign cause)) ↔ ¬ Value.IsFractional number := by
  constructor
  · intro isExact fractional
    obtain ⟨_, refused⟩ := isExact.refuses fractional
    cases refused
  · intro whole
    exact { same := nofun, refuses := fun fractional => absurd fractional whole }

/-- A double is read exactly. -/
theorem isExact_double (value : FiniteDouble) (cause : ConfigurationFault) :
    IsExact value.toRat (match (Double.finite value).toInt? with
      | some whole => .ok whole
      | none => .error (.configuration cause)) := by
  cases taken : (Double.finite value).toInt? with
  | some whole => exact .ok (FiniteDouble.toInt?_eq_some_iff.mp taken).symm
  | none => exact .refused cause

/-- A text is read as the numeral of a whole number, and otherwise as the double that it is rounded
to if this is whole. -/
theorem readInt_of_text? {text : String} (is_text : value.text? = some text) :
    readInt parameter value = match intOfText? text with
      | some whole => .ok whole
      | none => .error (.configuration (.notIntegerNumeral parameter value)) := by
  cases value with
  | text content =>
    cases is_text
    rfl
  | codec scheme =>
    cases is_text
    rfl
  | _ => cases is_text

/-- What is read of a text is a number that it spells. -/
theorem exists_denotes_of_intOfText? {text : String} (is_text : value.text? = some text)
    {whole : ℤ} (read : intOfText? text = some whole) : ∃ number, value.Denotes number := by
  simp only [intOfText?] at read
  split at read
  · next plain found =>
    exact ⟨_, .text is_text (Numeral.readInt?_eq_some_iff.mp found).spells⟩
  · split at read
    · next double found =>
      cases double with
      | nan => cases read
      | infinite negative => cases read
      | finite value =>
        obtain ⟨_, _, _, decimal⟩ := Numeral.exists_isDecimal_of_readDouble? found
        exact ⟨_, .text is_text ⟨_, _, _, decimal, rfl⟩⟩
    · cases read

/-- Every value that is read denotes a number. -/
theorem exists_denotes_of_readInt {whole : ℤ} (read : readInt parameter value = .ok whole) :
    ∃ number, value.Denotes number := by
  have text {content : String} (is_text : value.text? = some content) :
      ∃ number, value.Denotes number := by
    rw [readInt_of_text? is_text] at read
    split at read
    · next found => exact exists_denotes_of_intOfText? is_text found
    · cases read
  cases value with
  | int number => exact ⟨_, .int number⟩
  | text content => exact text rfl
  | codec scheme => exact text rfl
  | fraction numerator denominator => exact ⟨_, .fraction numerator denominator⟩
  | float number =>
    cases number with
    | finite value => exact ⟨_, .float value⟩
    | nan => cases read
    | infinite negative => cases read
  | element content =>
    cases content with
    | integer typeName number => exact ⟨_, .integer typeName number⟩
    | boolean truth => cases read
    | floating typeName format number =>
      cases number with
      | finite value => exact ⟨_, .floating typeName format value⟩
      | nan => cases read
      | infinite negative => cases read
  | _ => cases read

/-- A text that spells a number is read exactly unless it is misread. -/
theorem isExact_text_iff {text : String} (is_text : value.text? = some text)
    (spelled : Numeral.Spells (Text.trimChars text.toList) number) :
    IsExact number (readInt parameter value) ↔ ¬ value.IsMisread number := by
  have away_iff : value.IsMisread number ↔
      (∀ plain, ¬ Numeral.SpellsWhole (Text.trimChars text.toList) plain) ∧
        ∃ whole, Double.RoundsToWhole number whole ∧ (whole : ℚ) ≠ number := by
    constructor
    · intro away
      cases away with
      | text is_other not_plain rounded other =>
        obtain rfl := Option.some.inj (is_text.symm.trans is_other)
        exact ⟨not_plain, _, rounded, other⟩
      | fraction _ _ => cases is_text
      | beyond _ _ => cases is_text
      | unprintable _ _ => cases is_text
    · rintro ⟨not_plain, whole, rounded, other⟩
      exact .text is_text not_plain rounded other
  rw [away_iff, readInt_of_text? is_text]
  cases plain : Numeral.readInt? (Text.trimChars text.toList) with
  | some whole =>
    have read : intOfText? text = some whole := by
      simp only [intOfText?, plain]
    rw [read]
    refine iff_of_true (.ok (spelled.eq_of_readInt? plain).symm) ?_
    rintro ⟨not_plain, _⟩
    exact not_plain whole (Numeral.readInt?_eq_some_iff.mp plain)
  | none =>
    have not_plain (whole : ℤ) : ¬ Numeral.SpellsWhole (Text.trimChars text.toList) whole := by
      rw [← Numeral.readInt?_eq_some_iff, plain]
      exact Option.some_ne_none whole ∘ Eq.symm
    obtain ⟨double, doubled, rounding⟩ := spelled.exists_readDouble?
    have read : intOfText? text = double.toInt? := by
      simp only [intOfText?, plain, doubled]
    rw [read]
    cases taken : double.toInt? with
    | some whole =>
      have rounded := rounding.toInt?_eq_some_iff.mp taken
      rw [isExact_ok_iff]
      constructor
      · rintro same ⟨_, other, also_rounded, apart⟩
        rw [also_rounded.unique rounded] at apart
        exact apart same
      · intro kept
        by_contra apart
        exact kept ⟨not_plain, whole, rounded, apart⟩
    | none =>
      refine iff_of_true (.refused _) ?_
      rintro ⟨_, whole, rounded, _⟩
      cases taken.symm.trans (rounding.toInt?_eq_some_iff.mpr rounded)

/-- A whole fraction has its own whole part. -/
theorem tdiv_eq {numerator whole : ℤ} {denominator : ℕ} (positive : 0 < denominator)
    (same : (whole : ℚ) = numerator / denominator) : numerator.tdiv denominator = whole := by
  have nonzero : (denominator : ℚ) ≠ 0 := by exact_mod_cast positive.ne'
  rw [eq_div_iff nonzero] at same
  have product : numerator = whole * denominator := by exact_mod_cast same.symm
  rw [product, Int.mul_tdiv_cancel _ (by exact_mod_cast positive.ne')]

/-- A fraction is refused properly if it can be shown. -/
theorem refuse_fraction (numerator : ℤ) (denominator : ℕ) :
    (refuse (.notWhole parameter (.fraction numerator denominator)) : Reading ℤ) =
      if (Value.fraction numerator denominator).isPrintable then
        .error (.configuration (.notWhole parameter (.fraction numerator denominator)))
      else .error (.foreign .unprintableNumber) := by
  simp only [refuse, Fault.refuse, ConfigurationFault.shownValues, List.all_cons, List.all_nil,
    Bool.and_true]
  split <;> rfl

/-- A fraction is read exactly unless it is misread. -/
theorem isExact_fraction_iff (numerator : ℤ) {denominator : ℕ} (positive : 0 < denominator) :
    IsExact (numerator / denominator) (readInt parameter (.fraction numerator denominator)) ↔
      ¬ (Value.fraction numerator denominator).IsMisread (numerator / denominator) := by
  have rounding : (Double.ofQuotient (numerator < 0) numerator.natAbs denominator).IsRoundingOf
      (numerator / denominator) := by
    rw [← signFactor_mul_natAbs_div]
    exact Double.isRoundingOf_ofQuotient _ _ positive
  simp only [readInt, doubleOfFraction]
  generalize Double.ofQuotient (numerator < 0) numerator.natAbs denominator = double at rounding
  cases double with
  | nan => exact rounding.elim
  | infinite negative =>
    have beyond : Double.limit ≤ |(numerator : ℚ) / denominator| := by
      rw [← abs_signFactor_mul negative]
      exact le_trans rounding (le_abs_self _)
    rw [isExact_foreign_iff,
      Value.isMisread_fraction_iff fun fractional => .beyond fractional beyond]
  | finite value =>
    cases taken : (Double.finite value).toInt? with
    | some whole =>
      have rounded := rounding.toInt?_eq_some_iff.mp taken
      simp only [taken]
      rw [isExact_ok_iff,
        Value.isMisread_fraction_iff fun fractional => .fraction fractional rounded]
      constructor
      · intro same fractional
        exact fractional _ same
      · intro whole
        obtain ⟨whole, same⟩ := not_forall_not.mp whole
        rw [tdiv_eq positive same, same]
    | none =>
      simp only [taken, refuse_fraction]
      split
      · next printable =>
        refine iff_of_true (.refused _) ?_
        intro away
        cases away with
        | text is_text _ _ _ => cases is_text
        | fraction _ rounded => cases taken.symm.trans (rounding.toInt?_eq_some_iff.mpr rounded)
        | beyond _ beyond => exact absurd rounding.within (not_lt.mpr beyond)
        | unprintable _ long => cases printable.symm.trans long
      · next long =>
        rw [isExact_foreign_iff, Value.isMisread_fraction_iff fun fractional =>
          .unprintable fractional (Bool.eq_false_of_not_eq_true long)]

/-- The number that a value denotes is read exactly, or the value refused properly if the number is
not whole, unless the value is misread; and every value that is read denotes a number.

Proof: whole numbers and doubles are read as they are. A text is read as the number that it spells
if it is a numeral of a whole number, and else as the double nearest to that number; so is a
fraction, which differs in what is taken of it. -/
theorem readInt_isExact_iff (parameter : ParameterName) {value : Value}
    (proper : value.HasDenominator) :
    (∀ whole, readInt parameter value = .ok whole → ∃ number, value.Denotes number) ∧
      ∀ number, value.Denotes number →
        (IsExact number (readInt parameter value) ↔ ¬ value.IsMisread number) := by
  refine ⟨fun _ => exists_denotes_of_readInt, ?_⟩
  intro number denotes
  cases denotes with
  | int number => exact iff_of_true (.ok rfl) (Value.not_isMisread rfl nofun)
  | integer typeName number => exact iff_of_true (.ok rfl) (Value.not_isMisread rfl nofun)
  | float number =>
    exact iff_of_true (isExact_double number (.notWhole parameter _))
      (Value.not_isMisread rfl nofun)
  | floating typeName format number =>
    exact iff_of_true (isExact_double number (.notWhole parameter _))
      (Value.not_isMisread rfl nofun)
  | fraction numerator denominator => exact isExact_fraction_iff numerator proper
  | text is_text spelled => exact isExact_text_iff is_text spelled

/-- A value that denotes a whole number below 2 ^ 53 is not misread, however it is given. -/
theorem not_isMisread_of_small {whole : ℤ} (small : whole.natAbs < 2 ^ 53) :
    ¬ value.IsMisread whole := by
  intro away
  cases away with
  | text _ _ rounded other =>
    rw [rounded.unique (Double.roundsToWhole_self small)] at other
    exact other rfl
  | fraction fractional _ => exact fractional whole rfl
  | beyond fractional _ => exact fractional whole rfl
  | unprintable fractional _ => exact fractional whole rfl

end

/-- A name for a parameter. -/
def someParameter : ParameterName := ⟨"", "k"⟩

/-- Five with a point is read as five. -/
theorem wholeDecimal_isExact :
    (Value.text " 5.0 ").HasDenominator ∧ (Value.text " 5.0 ").Denotes 5 ∧
      ¬ (Value.text " 5.0 ").IsMisread 5 ∧
      IsExact 5 (readInt someParameter (.text " 5.0 ")) ∧
      readInt someParameter (.text " 5.0 ") = .ok 5 := by
  have decimal : Numeral.IsDecimal ['5', '.', '0'] false [5, 0] (-1) :=
    .written .none (.digits (.last rfl)) (.point (.digits (.last rfl))) (by decide) .none
  have denotes : (Value.text " 5.0 ").Denotes 5 :=
    .text rfl ⟨_, _, _, decimal, by norm_num [signFactor, Numeral.valueOf]⟩
  have kept : ¬ (Value.text " 5.0 ").IsMisread ((5 : ℤ) : ℚ) :=
    not_isMisread_of_small (by decide)
  have exact := ((readInt_isExact_iff someParameter (show (Value.text " 5.0 ").HasDenominator from
    trivial)).2 5 denotes).mpr kept
  exact ⟨trivial, denotes, kept, exact, rfl⟩

/-- The whole number after 2 ^ 53 is read as 2 ^ 53 if it is written with a point, a number just
below one is read as one, and a fraction just above a whole number as that number. -/
theorem longDecimals_misread :
    (Value.text "9007199254740993.0").Denotes 9007199254740993 ∧
      readInt someParameter (.text "9007199254740993.0") = .ok 9007199254740992 ∧
      ¬ IsExact 9007199254740993 (readInt someParameter (.text "9007199254740993.0")) ∧
      readInt someParameter (.text "0.99999999999999999999") = .ok 1 ∧
      readInt someParameter (.fraction 18014398509481985 2) = .ok 9007199254740992 := by
  have run : Numeral.IsRun "9007199254740993".toList
      [9, 0, 0, 7, 1, 9, 9, 2, 5, 4, 7, 4, 0, 9, 9, 3] :=
    @Numeral.isRun_of_isDigit '9' "007199254740993".toList (List.all_eq_true.mp rfl)
  have decimal : Numeral.IsDecimal "9007199254740993.0".toList false
      [9, 0, 0, 7, 1, 9, 9, 2, 5, 4, 7, 4, 0, 9, 9, 3, 0] (-1) :=
    .written .none (.digits run) (.point (.digits (.last rfl))) (by decide) .none
  have read : readInt someParameter (.text "9007199254740993.0") = .ok 9007199254740992 := rfl
  refine ⟨.text rfl ⟨_, _, _, decimal, ?_⟩, read, ?_, rfl, rfl⟩
  · norm_num [signFactor, Numeral.valueOf]
  · rw [read, isExact_ok_iff]
    norm_num

end Parameter

end ChunkCodecs
