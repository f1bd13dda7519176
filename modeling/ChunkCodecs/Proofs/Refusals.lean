import ChunkCodecs.Proofs.Number.Numerals
import ChunkCodecs.Proofs.Number.Rounding
import ChunkCodecs.Proofs.Parameters

/-!
# What the readers of parameters refuse

A reader gives what it reads or refuses the value with a configuration fault, unless the value
is a number that is too large for it: a number that is to become a double is beyond all of them,
or a number has too many digits for the wording of the refusal. Which values these are depends
on the kind of the parameter alone.
-/

namespace ChunkCodecs

/-- There is a good result, or a configuration fault instead. -/
inductive EndsWith {α : Type} (good : α → Prop) : Except Fault α → Prop
  /-- The result is good. -/
  | result {value : α} (isGood : good value) : EndsWith good (.ok value)
  /-- There is no result because something is configured wrongly. -/
  | refusal (cause : ConfigurationFault) : EndsWith good (.error (.configuration cause))

/-- There is a result, or a configuration fault instead. -/
def EndsProperly {α : Type} : Except Fault α → Prop := EndsWith fun _ => True

section

variable {α β : Type} {good : α → Prop} {result : Except Fault α}

/-- A result is a good end if it is good. -/
@[simp]
theorem endsWith_ok_iff {value : α} : EndsWith good (.ok value) ↔ good value := by
  constructor
  · rintro ⟨isGood⟩
    exact isGood
  · exact .result

/-- A fault is a good end if it is a configuration fault. -/
theorem endsWith_error_iff {fault : Fault} :
    EndsWith good (.error fault) ↔ ∃ cause, fault = .configuration cause := by
  constructor
  · rintro ⟨⟩
    exact ⟨_, rfl⟩
  · rintro ⟨cause, rfl⟩
    exact .refusal cause

/-- How a fault ends does not depend on what there would have been instead. -/
theorem endsWith_error_congr {fault : Fault} {better : β → Prop} :
    EndsWith good (.error fault) ↔ EndsWith better (.error fault) :=
  endsWith_error_iff.trans endsWith_error_iff.symm

instance [DecidablePred good] : DecidablePred (EndsWith good)
  | .ok _ => decidable_of_iff _ endsWith_ok_iff.symm
  | .error (.configuration cause) => isTrue (.refusal cause)
  | .error (.truncated _) => isFalse nofun
  | .error (.malformed _) => isFalse nofun
  | .error (.native _) => isFalse nofun
  | .error (.dependency _) => isFalse nofun
  | .error (.foreign _) => isFalse nofun

instance : DecidablePred (@EndsProperly α) :=
  inferInstanceAs (DecidablePred (EndsWith fun _ => True))

/-- A refusal is a configuration fault if its wording can be given. -/
theorem endsWith_refuse_iff {cause : ConfigurationFault} :
    EndsWith good (.error (Fault.refuse cause)) ↔
      cause.shownValues.all Value.isPrintable = true := by
  by_cases shown : cause.shownValues.all Value.isPrintable = true
  · simp [endsWith_error_iff, Fault.refuse, shown]
  · simp [endsWith_error_iff, Fault.refuse, shown]

/-- A result is a proper end. -/
@[simp]
theorem endsProperly_ok (value : α) : EndsProperly (.ok value) := .result trivial

/-- A refusal is a proper end if its wording can be given. -/
@[simp]
theorem endsProperly_refuse_iff {cause : ConfigurationFault} :
    EndsProperly (.error (Fault.refuse cause) : Except Fault α) ↔
      cause.shownValues.all Value.isPrintable = true := endsWith_refuse_iff

/-- A fault of foreign origin is no proper end. -/
@[simp]
theorem not_endsProperly_foreign (cause : ForeignFault) :
    ¬ EndsProperly (.error (.foreign cause) : Except Fault α) := nofun

/-- A check that refuses a number ends properly if the number can be shown. -/
theorem endsWith_refused_iff {cause : ConfigurationFault} {number : Int}
    (shown : cause.shownValues = [.int number]) :
    EndsWith good ((Except.error cause).mapError Fault.refuse) ↔
      Value.intIsPrintable number = true := by
  show EndsWith good (.error (Fault.refuse cause)) ↔ _
  rw [endsWith_refuse_iff, shown]
  simp [Value.isPrintable]

/-- What is made of a result is good if the result is good for it. -/
theorem endsWith_map_iff {further : β → α} {result : Except Fault β} :
    EndsWith good (result.map further) ↔ EndsWith (fun value => good (further value)) result := by
  cases result with
  | error fault => exact endsWith_error_congr
  | ok value =>
    show EndsWith good (.ok (further value)) ↔ _
    rw [endsWith_ok_iff, endsWith_ok_iff]

/-- A result that is good in one way is good in every way that follows. -/
theorem EndsWith.mono {better : α → Prop} (ends : EndsWith better result)
    (implies : ∀ value, better value → good value) : EndsWith good result := by
  cases ends with
  | result isBetter => exact .result (implies _ isBetter)
  | refusal cause => exact .refusal cause

/-- Two steps end with a good result if the second one does so on what is good for it. -/
theorem EndsWith.bind {enough : β → Prop} {result : Except Fault β} {further : β → Except Fault α}
    (first : EndsWith enough result)
    (second : ∀ value, enough value → EndsWith good (further value)) :
    EndsWith good (result >>= further) := by
  cases first with
  | result isEnough => exact second _ isEnough
  | refusal cause => exact .refusal cause

/-- A step that has a result goes on with it. -/
theorem ok_bind (value : β) (further : β → Except Fault α) :
    (Except.ok value >>= further) = further value := rfl

/-- Two steps that have a result have one each. -/
theorem exists_of_bind_eq_ok {result : Except Fault β} {further : β → Except Fault α} {last : α}
    (whole : (result >>= further) = .ok last) :
    ∃ value, result = .ok value ∧ further value = .ok last := by
  cases result with
  | error fault => cases whole
  | ok value => exact ⟨value, rfl, whole⟩

variable {Failure : Type} {rename : Failure → Fault}

/-- Naming faults differently leaves a result alone. -/
@[simp]
theorem mapError_ok (value : α) : (Except.ok value).mapError rename = .ok value := rfl

/-- Naming faults differently renames a fault. -/
@[simp]
theorem mapError_error (failure : Failure) :
    (Except.error failure : Except Failure α).mapError rename = .error (rename failure) := rfl

/-- Naming faults differently does not change which result there is. -/
theorem mapError_eq_ok_iff {result : Except Failure α} {value : α} :
    result.mapError rename = .ok value ↔ result = .ok value := by
  cases result <;> simp

/-- Two steps do not end properly if the first one does not. -/
theorem not_endsWith_bind {result : Except Fault β} {further : β → Except Fault α}
    (escapes : ¬ EndsProperly result) : ¬ EndsWith good (result >>= further) := by
  cases result with
  | error fault => exact mt endsWith_error_congr.mp escapes
  | ok value => exact absurd (endsProperly_ok value) escapes

end

namespace Parameter

/-- A quotient has a nearest double. -/
def HasNearestDouble (numerator : Int) (denominator : Nat) : Prop :=
  (Double.ofQuotient (numerator < 0) numerator.natAbs denominator).isFinite = true

/-- A quotient has a nearest double exactly if it is below the middle between the greatest
double and the power of two above it. -/
theorem hasNearestDouble_iff {numerator : Int} {denominator : Nat} (positive : 0 < denominator) :
    HasNearestDouble numerator denominator ↔
      numerator.natAbs < (2 ^ 54 - 1) * 2 ^ 970 * denominator :=
  Double.isFinite_ofQuotient_iff _ positive

/-- The kinds of parameters. -/
inductive Kind where
  /-- A whole number. -/
  | whole
  /-- A floating-point number. -/
  | real
  /-- A truth value. -/
  | truth
  /-- A text. -/
  | text
  deriving DecidableEq

namespace Kind

/-- What a parameter of a kind holds. -/
def Content : Kind → Type
  | whole => Int
  | real => Double
  | truth => Bool
  | text => Label

/-- The reader of a kind. -/
def read : (kind : Kind) → ParameterName → Value → Reading kind.Content
  | whole => readInt
  | real => readDouble
  | truth => readBool
  | text => readText

/-- Whether a parameter of a kind reads a value or refuses it properly. -/
def CanRead : Kind → Value → Prop
  | whole, .fraction numerator denominator =>
    HasNearestDouble numerator denominator ∧
      ((Double.ofQuotient (numerator < 0) numerator.natAbs denominator).toInt?.isSome = true ∨
        (Value.fraction numerator denominator).isPrintable = true)
  | real, .int number => HasNearestDouble number 1
  | real, .element (.integer _ number) => HasNearestDouble number 1
  | real, .fraction numerator denominator => HasNearestDouble numerator denominator
  | truth, value => value.isPrintable = true
  | _, _ => True

/-- Whether a value leads to a codec or to a proper refusal: it can be read, and a number that
is taken as it is can be shown. -/
def IsManageable (kind : Kind) (value : Value) : Prop :=
  kind.CanRead value ∧
    match kind, value with
    | whole, .int number => Value.intIsPrintable number = true
    | whole, .element (.integer _ number) => Value.intIsPrintable number = true
    | _, _ => True

end Kind

/-- A whole number has a nearest double or is too large for one. -/
theorem doubleOfInt_cases (number : Int) :
    HasNearestDouble number 1 ∧ doubleOfInt number = .ok (Double.ofInt number) ∨
      ¬ HasNearestDouble number 1 ∧ doubleOfInt number = .error .integerTooLarge := by
  rcases Double.ofQuotient_cases (number < 0) number.natAbs 1 with ⟨value, finite⟩ | infinite
  · left
    simp [HasNearestDouble, doubleOfInt, Double.ofInt, finite, Double.isFinite]
  · right
    simp [HasNearestDouble, doubleOfInt, Double.ofInt, infinite, Double.isFinite]

/-- A fraction has a nearest double or is too large for one. -/
theorem doubleOfFraction_cases (numerator : Int) (denominator : Nat) :
    HasNearestDouble numerator denominator ∧ doubleOfFraction numerator denominator =
        .ok (Double.ofQuotient (numerator < 0) numerator.natAbs denominator) ∨
      ¬ HasNearestDouble numerator denominator ∧
        doubleOfFraction numerator denominator = .error .fractionTooLarge := by
  rcases Double.ofQuotient_cases (numerator < 0) numerator.natAbs denominator
    with ⟨value, finite⟩ | infinite
  · left
    simp [HasNearestDouble, doubleOfFraction, finite, Double.isFinite]
  · right
    simp [HasNearestDouble, doubleOfFraction, infinite, Double.isFinite]

/-- A reader of whole numbers ends properly except on fractions beyond the doubles, and on
those that it refuses and cannot show. -/
theorem endsProperly_readInt_iff (parameter : ParameterName) (value : Value) :
    EndsProperly (readInt parameter value) ↔ Kind.whole.CanRead value := by
  have refused {cause : ConfigurationFault}
      (shown : cause.shownValues.all Value.isPrintable = true) :
      EndsProperly (refuse cause : Reading Int) := endsProperly_refuse_iff.mpr shown
  cases value with
  | fraction numerator denominator =>
    rcases doubleOfFraction_cases numerator denominator with ⟨near, rounded⟩ | ⟨far, refusal⟩
    · simp only [readInt, rounded, Kind.CanRead, near, true_and]
      split
      · next whole => simp [whole]
      · next other => simp [refuse, ConfigurationFault.shownValues, other]
    · simp [readInt, refusal, Kind.CanRead, far]
  | element content =>
    refine iff_of_true ?_ trivial
    cases content with
    | integer typeName number => exact endsProperly_ok _
    | boolean truth => exact refused rfl
    | floating typeName format number =>
      rw [readInt]
      split
      · exact endsProperly_ok _
      · exact refused rfl
  | float _ | text _ | codec _ =>
    refine iff_of_true ?_ trivial
    rw [readInt]
    split
    · exact endsProperly_ok _
    · exact refused rfl
  | int number => exact iff_of_true (endsProperly_ok _) trivial
  | _ => exact iff_of_true (refused rfl) trivial

/-- A reader of floating-point numbers ends properly except on numbers beyond the doubles. -/
theorem endsProperly_readDouble_iff (parameter : ParameterName) (value : Value) :
    EndsProperly (readDouble parameter value) ↔ Kind.real.CanRead value := by
  have refused {cause : ConfigurationFault}
      (shown : cause.shownValues.all Value.isPrintable = true) :
      EndsProperly (refuse cause : Reading Double) := endsProperly_refuse_iff.mpr shown
  have whole (number : Int) : EndsProperly ((doubleOfInt number).mapError Fault.foreign) ↔
      HasNearestDouble number 1 := by
    rcases doubleOfInt_cases number with ⟨near, rounded⟩ | ⟨far, refusal⟩
    · simp [rounded, near]
    · simp [refusal, far]
  cases value with
  | int number => exact whole number
  | fraction numerator denominator =>
    rcases doubleOfFraction_cases numerator denominator with ⟨near, rounded⟩ | ⟨far, refusal⟩
    · simp [readDouble, rounded, Kind.CanRead, near]
    · simp [readDouble, refusal, Kind.CanRead, far]
  | element content =>
    cases content with
    | integer typeName number => exact whole number
    | floating typeName format number => exact iff_of_true (endsProperly_ok _) trivial
    | boolean truth => exact iff_of_true (refused rfl) trivial
  | text _ | codec _ =>
    refine iff_of_true ?_ trivial
    rw [readDouble]
    split
    · exact endsProperly_ok _
    · exact refused rfl
  | float number => exact iff_of_true (endsProperly_ok _) trivial
  | _ => exact iff_of_true (refused rfl) trivial

/-- A reader of truth values ends properly on what can be shown: zero and one can. -/
theorem endsProperly_readBool_iff (parameter : ParameterName) (value : Value) :
    EndsProperly (readBool parameter value) ↔ Kind.truth.CanRead value := by
  simp only [readBool]
  split
  · next truth found =>
    refine iff_of_true (endsProperly_ok _) ?_
    cases value with
    | int number =>
      have small : number = 0 ∨ number = 1 := by
        simp only [truthOfInt?] at found
        grind
      apply Value.intIsPrintable_of_lt
      rcases small with rfl | rfl <;> decide
    | fraction _ _ | list _ | tuple _ | set _ | dict _ => cases found
    | _ => rfl
  · simp [refuse, ConfigurationFault.shownValues, Kind.CanRead]

/-- A reader of texts always ends properly. -/
theorem endsProperly_readText (parameter : ParameterName) (value : Value) :
    EndsProperly (readText parameter value) := by
  have refused {cause : ConfigurationFault}
      (shown : cause.shownValues.all Value.isPrintable = true) :
      EndsProperly (refuse cause : Reading Label) := endsProperly_refuse_iff.mpr shown
  cases value with
  | text _ | codec _ => exact endsProperly_ok _
  | bytes content =>
    rw [readText]
    split
    · exact endsProperly_ok _
    · exact refused rfl
  | _ => exact refused rfl

/-- A reader ends properly exactly on the values that it reads or refuses properly. -/
theorem endsProperly_read_iff (kind : Kind) (parameter : ParameterName) (value : Value) :
    EndsProperly (kind.read parameter value) ↔ kind.CanRead value := by
  cases kind with
  | whole => exact endsProperly_readInt_iff parameter value
  | real => exact endsProperly_readDouble_iff parameter value
  | truth => exact endsProperly_readBool_iff parameter value
  | text => exact iff_of_true (endsProperly_readText parameter value) trivial

variable {properties : Properties} {parameter : ParameterName}

/-- A parameter ends properly exactly if the value that it is given, if any, is read or refused
properly. -/
theorem endsProperly_readOptional_iff (kind : Kind) :
    EndsProperly (readOptional kind.read properties parameter) ↔
      ∀ value, properties.given? parameter.key = some value → kind.CanRead value := by
  cases given : properties.given? parameter.key with
  | none =>
    rw [readOptional_of_not_given given]
    exact iff_of_true (endsProperly_ok _) nofun
  | some value =>
    rw [readOptional_of_given given, EndsProperly, endsWith_map_iff]
    simp only [Option.some.injEq, forall_eq']
    exact endsProperly_read_iff kind parameter value

/-- A number of at most as many bits as numbers may have digits can be shown. -/
theorem intIsPrintable_of_lt_pow {number : Int} {bits : Nat} (below : number.natAbs < 2 ^ bits)
    (few : bits ≤ 4300) : Value.intIsPrintable number = true := by
  have wide (digits : Nat) (enough : bits ≤ digits) : number.natAbs < 10 ^ digits :=
    calc number.natAbs
      _ < 2 ^ bits := below
      _ ≤ 10 ^ bits := Nat.pow_le_pow_left (by decide) bits
      _ ≤ 10 ^ digits := Nat.pow_le_pow_right (by decide) enough
  exact decide_eq_true (wide 4300 few)

/-- The quotient of a fraction that has a nearest double can be shown. -/
theorem intIsPrintable_tdiv {numerator : Int} {denominator : Nat}
    (near : HasNearestDouble numerator denominator) :
    Value.intIsPrintable (numerator.tdiv denominator) = true := by
  have quotient : (numerator.tdiv denominator).natAbs = numerator.natAbs / denominator :=
    Int.natAbs_tdiv numerator denominator
  have middle_le (places : Nat) : (2 ^ 54 - 1) * 2 ^ places ≤ 2 ^ (54 + places) := by
    rw [Nat.pow_add]
    exact Nat.mul_le_mul_right _ (Nat.sub_le _ _)
  have below : (numerator.tdiv denominator).natAbs < 2 ^ (54 + 970) := by
    rw [quotient]
    rcases Nat.eq_zero_or_pos denominator with rfl | positive
    · have some_power := Nat.two_pow_pos (54 + 970)
      rwa [Nat.div_zero]
    · have middle := (hasNearestDouble_iff positive).mp near
      exact Nat.lt_of_lt_of_le ((Nat.div_lt_iff_lt_mul positive).mpr middle) (middle_le 970)
  exact intIsPrintable_of_lt_pow below (by decide)

/-- What is read of a text as a whole number can be shown. -/
theorem intIsPrintable_of_intOfText? {text : String} {number : Int}
    (read : intOfText? text = some number) : Value.intIsPrintable number = true := by
  simp only [intOfText?] at read
  split at read
  · next found =>
    obtain rfl := Option.some.inj read
    have below := Numeral.natAbs_readInt?_lt found
    rw [Numeral.maxDigits] at below
    exact decide_eq_true below
  · split at read
    · exact intIsPrintable_of_lt_pow (Double.natAbs_toInt?_lt read) (by decide)
    · cases read

/-- A whole number that is read of a value can be shown if the value is manageable. -/
theorem intIsPrintable_of_readInt {value : Value} (manageable : Kind.whole.IsManageable value)
    {number : Int} (read : readInt parameter value = .ok number) :
    Value.intIsPrintable number = true := by
  obtain ⟨_, shown⟩ := manageable
  cases value with
  | int whole =>
    obtain rfl := Except.ok.inj read
    exact shown
  | element content =>
    cases content with
    | integer typeName whole =>
      obtain rfl := Except.ok.inj read
      exact shown
    | floating typeName format double =>
      simp only [readInt] at read
      split at read
      · next found =>
        obtain rfl := Except.ok.inj read
        exact intIsPrintable_of_lt_pow (Double.natAbs_toInt?_lt found) (by decide)
      · cases read
    | boolean truth => cases read
  | float double =>
    simp only [readInt] at read
    split at read
    · next found =>
      obtain rfl := Except.ok.inj read
      exact intIsPrintable_of_lt_pow (Double.natAbs_toInt?_lt found) (by decide)
    · cases read
  | text _ | codec _ =>
    simp only [readInt] at read
    split at read
    · next found =>
      obtain rfl := Except.ok.inj read
      obtain ⟨text, _, spelled⟩ := Option.bind_eq_some_iff.mp found
      exact intIsPrintable_of_intOfText? spelled
    · cases read
  | fraction numerator denominator =>
    rcases doubleOfFraction_cases numerator denominator with ⟨near, rounded⟩ | ⟨_, refusal⟩
    · simp only [readInt, rounded] at read
      split at read
      · obtain rfl := Except.ok.inj read
        exact intIsPrintable_tdiv near
      · cases read
    · simp only [readInt, refusal, reduceCtorEq] at read
  | _ => cases read

/-- A whole number that is read of properties, or its default, can be shown if its value is
manageable and its default can be shown. -/
theorem endsWith_readOptional_readInt
    (manageable : ∀ value, properties.given? parameter.key = some value →
      Kind.whole.IsManageable value) :
    EndsWith (fun number => ∀ standard, Value.intIsPrintable standard = true →
        Value.intIsPrintable (number.getD standard) = true)
      (readOptional readInt properties parameter) := by
  cases given : properties.given? parameter.key with
  | none =>
    rw [readOptional_of_not_given given]
    exact .result fun _ shown => shown
  | some value =>
    rw [readOptional_of_given given, endsWith_map_iff]
    have proper := (endsProperly_readInt_iff parameter value).mpr (manageable value given).1
    cases read : readInt parameter value with
    | error fault =>
      rw [read] at proper
      exact endsWith_error_congr.mp proper
    | ok number =>
      exact .result fun _ _ => intIsPrintable_of_readInt (manageable value given) read

end Parameter

end ChunkCodecs
