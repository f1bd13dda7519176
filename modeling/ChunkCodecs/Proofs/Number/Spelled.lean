import ChunkCodecs.Proofs.Number.Decimal

/-!
# Decimal numerals

A decimal numeral is an optional sign, digits with an optional fraction, and an optional exponent.
Digits may be of any script, with single underscores between them. What it stands for is a
rational number.

The readers of numerals accept exactly these, the words for what is no finite number apart. A
numeral of a whole number is one without fraction and exponent that is not too long.
-/

namespace ChunkCodecs

namespace Numeral

/-- A sign or none, and whether it is minus. -/
inductive IsSign : List Char → Bool → Prop
  /-- No sign. -/
  | none : IsSign [] false
  /-- A plus sign. -/
  | plus : IsSign ['+'] false
  /-- A minus sign. -/
  | minus : IsSign ['-'] true

/-- A run of digits with their values; an underscore may stand between two digits. -/
inductive IsRun : List Char → List ℕ → Prop
  /-- One digit is a run. -/
  | last {c : Char} {value : ℕ} (digit : Text.digitValue? c = some value) : IsRun [c] [value]
  /-- A digit in front of a run makes a run. -/
  | next {c : Char} {value : ℕ} {characters : List Char} {values : List ℕ}
      (digit : Text.digitValue? c = some value) (run : IsRun characters values) :
      IsRun (c :: characters) (value :: values)
  /-- So does a digit with an underscore behind it. -/
  | spaced {c : Char} {value : ℕ} {characters : List Char} {values : List ℕ}
      (digit : Text.digitValue? c = some value) (run : IsRun characters values) :
      IsRun (c :: '_' :: characters) (value :: values)

/-- Nothing, or a run of digits. -/
inductive IsPart : List Char → List ℕ → Prop
  /-- Nothing. -/
  | nothing : IsPart [] []
  /-- A run of digits. -/
  | digits {characters : List Char} {values : List ℕ} (run : IsRun characters values) :
      IsPart characters values

/-- Nothing, or a point with the digits behind it. -/
inductive IsFraction : List Char → List ℕ → Prop
  /-- No fraction. -/
  | none : IsFraction [] []
  /-- A point, and digits or nothing behind it. -/
  | point {characters : List Char} {values : List ℕ} (part : IsPart characters values) :
      IsFraction ('.' :: characters) values

/-- The number of a sign and digits. -/
def signed (negative : Bool) (digits : List ℕ) : ℤ :=
  if negative then -(valueOf 10 digits : ℤ) else valueOf 10 digits

/-- Nothing, or an exponent. -/
inductive IsExponent : List Char → ℤ → Prop
  /-- No exponent. -/
  | none : IsExponent [] 0
  /-- A letter, a sign and digits. -/
  | marked {mark : Char} {sign characters : List Char} {negative : Bool} {values : List ℕ}
      (is_mark : mark = 'e' ∨ mark = 'E') (is_sign : IsSign sign negative)
      (run : IsRun characters values) :
      IsExponent (mark :: (sign ++ characters)) (signed negative values)

/-- A decimal numeral with its sign, its digits and the place of the last one. -/
inductive IsDecimal : List Char → Bool → List ℕ → ℤ → Prop
  /-- A numeral is written in this order, with a digit before or behind the point. -/
  | written {sign whole fraction power : List Char} {negative : Bool} {digits decimals : List ℕ}
      {exponent : ℤ} (is_sign : IsSign sign negative) (is_whole : IsPart whole digits)
      (is_fraction : IsFraction fraction decimals) (some_digits : digits ++ decimals ≠ [])
      (is_exponent : IsExponent power exponent) :
      IsDecimal (sign ++ (whole ++ (fraction ++ power))) negative (digits ++ decimals)
        (exponent - decimals.length)

/-- A decimal numeral stands for a number. -/
def Spells (characters : List Char) (number : ℚ) : Prop :=
  ∃ negative digits exponent, IsDecimal characters negative digits exponent ∧
    number = signFactor negative * (valueOf 10 digits * 10 ^ exponent)

/-- A numeral of a whole number, of no more digits than may be. -/
inductive SpellsWhole : List Char → ℤ → Prop
  /-- A numeral is written as a sign and digits. -/
  | written {sign characters : List Char} {negative : Bool} {values : List ℕ}
      (is_sign : IsSign sign negative) (run : IsRun characters values)
      (short : values.length ≤ maxDigits) :
      SpellsWhole (sign ++ characters) (signed negative values)

section

variable {c : Char} {value : ℕ} {characters rest : List Char} {values : List ℕ}

/-- A digit is no other character. -/
theorem ne_of_digit {other : Char} (digit : Text.digitValue? c = some value)
    (no_digit : Text.digitValue? other = none) : c ≠ other := by
  rintro rfl
  cases digit.symm.trans no_digit

/-- A run begins with a digit. -/
theorem IsRun.exists_digit (run : IsRun characters values) :
    ∃ c value others, characters = c :: others ∧ Text.digitValue? c = some value := by
  cases run with
  | last digit => exact ⟨_, _, _, rfl, digit⟩
  | next digit _ => exact ⟨_, _, _, rfl, digit⟩
  | spaced digit _ => exact ⟨_, _, _, rfl, digit⟩

/-- Decimal digits are a run. -/
theorem isRun_of_isDigit (digits : ∀ d ∈ c :: rest, d.isDigit = true) :
    IsRun (c :: rest) ((c :: rest).map fun d => d.toNat - 48) := by
  induction rest generalizing c with
  | nil => exact .last (digitValue?_of_isDigit (digits c List.mem_cons_self))
  | cons d others inductionHypothesis =>
    obtain ⟨digit, further⟩ := List.forall_mem_cons.mp digits
    exact .next (digitValue?_of_isDigit digit) (inductionHypothesis further)

/-- The digits of a run are below ten. -/
theorem IsRun.lt_of_mem (run : IsRun characters values) : ∀ digit ∈ values, digit < 10 := by
  induction run with
  | last digit =>
    rw [List.forall_mem_singleton]
    exact Text.digitValue?_lt _ _ digit
  | next digit _ inductionHypothesis =>
    exact List.forall_mem_cons.mpr ⟨Text.digitValue?_lt _ _ digit, inductionHypothesis⟩
  | spaced digit _ inductionHypothesis =>
    exact List.forall_mem_cons.mpr ⟨Text.digitValue?_lt _ _ digit, inductionHypothesis⟩

/-- A run does not go on with what follows. -/
def StopsRun (rest : List Char) : Prop :=
  ∀ c, rest.head? = some c → Text.digitValue? c = none ∧ c ≠ '_'

/-- A run goes on with a digit. -/
theorem takeMoreDigits_cons (digit : Text.digitValue? c = some value) :
    takeMoreDigits Text.digitValue? (c :: rest) =
      (value :: (takeMoreDigits Text.digitValue? rest).1,
        (takeMoreDigits Text.digitValue? rest).2) := by
  rw [takeMoreDigits]
  · simp only [digit]
  · exact fun _ _ underscore _ => ne_of_digit digit rfl underscore

/-- A run begins with a digit and goes on behind it. -/
theorem takeDigits_cons (digit : Text.digitValue? c = some value) :
    takeDigits (c :: rest) = takeMoreDigits Text.digitValue? (c :: rest) := by
  simp only [takeMoreDigits_cons digit, takeDigits, takeDigitsOf, digit]

/-- A run ends where it stops. -/
theorem takeMoreDigits_of_stopsRun (stops : StopsRun rest) :
    takeMoreDigits Text.digitValue? rest = ([], rest) := by
  cases rest with
  | nil => rfl
  | cons c others =>
    obtain ⟨no_digit, no_underscore⟩ := stops c rfl
    rw [takeMoreDigits]
    · simp only [no_digit]
    · exact fun _ _ underscore _ => no_underscore underscore

/-- A run is taken as a whole, from its first digit on. -/
theorem takeMoreDigits_run (run : IsRun characters values) (stops : StopsRun rest) :
    takeMoreDigits Text.digitValue? (characters ++ rest) = (values, rest) := by
  induction run with
  | last digit =>
    rw [List.singleton_append, takeMoreDigits_cons digit, takeMoreDigits_of_stopsRun stops]
  | next digit _ inductionHypothesis =>
    rw [List.cons_append, takeMoreDigits_cons digit, inductionHypothesis]
  | spaced digit run inductionHypothesis =>
    obtain ⟨c, value, others, rfl, next_digit⟩ := run.exists_digit
    have skipped : takeMoreDigits Text.digitValue? ('_' :: c :: (others ++ rest)) =
        takeMoreDigits Text.digitValue? (c :: (others ++ rest)) := by
      rw [takeMoreDigits_cons next_digit, takeMoreDigits]
      simp only [next_digit]
    simp only [List.cons_append] at inductionHypothesis ⊢
    rw [takeMoreDigits_cons digit, skipped, inductionHypothesis]

/-- Digits are taken as a whole, and nothing is if there are none. -/
theorem takeDigits_part (part : IsPart characters values) (stops : StopsRun rest) :
    takeDigits (characters ++ rest) = (values, rest) := by
  cases part with
  | nothing =>
    cases rest with
    | nil => rfl
    | cons c others => simp only [List.nil_append, takeDigits, takeDigitsOf, (stops c rfl).1]
  | digits run =>
    have taken := takeMoreDigits_run run stops
    obtain ⟨c, value, others, rfl, digit⟩ := run.exists_digit
    rw [List.cons_append, takeDigits_cons digit]
    exact taken

/-- What goes on a run makes one with the digit in front of it. -/
theorem isRun_takeMoreDigits (characters : List Char) :
    ∃ taken, characters = taken ++ (takeMoreDigits Text.digitValue? characters).2 ∧
      ∀ c value, Text.digitValue? c = some value →
        IsRun (c :: taken) (value :: (takeMoreDigits Text.digitValue? characters).1) := by
  fun_induction takeMoreDigits Text.digitValue? characters with
  | case1 => exact ⟨[], rfl, fun _ _ digit => .last digit⟩
  | case2 c rest value found values remaining taken inductionHypothesis =>
    rw [taken] at inductionHypothesis
    obtain ⟨run, whole, isRun⟩ := inductionHypothesis
    refine ⟨'_' :: c :: run, ?_, fun _ _ digit => .spaced digit (isRun c value found)⟩
    rw [whole]
    rfl
  | case3 => exact ⟨[], rfl, fun _ _ digit => .last digit⟩
  | case4 c rest _ value found values remaining taken inductionHypothesis =>
    rw [taken] at inductionHypothesis
    obtain ⟨run, whole, isRun⟩ := inductionHypothesis
    refine ⟨c :: run, ?_, fun _ _ digit => .next digit (isRun c value found)⟩
    rw [whole]
    rfl
  | case5 => exact ⟨[], rfl, fun _ _ digit => .last digit⟩

/-- What is taken as digits are digits. -/
theorem isPart_takeDigits (characters : List Char) :
    ∃ taken, characters = taken ++ (takeDigits characters).2 ∧
      IsPart taken (takeDigits characters).1 := by
  cases characters with
  | nil => exact ⟨[], rfl, .nothing⟩
  | cons c rest =>
    cases digit : Text.digitValue? c with
    | none =>
      simp only [takeDigits, takeDigitsOf, digit]
      exact ⟨[], rfl, .nothing⟩
    | some value =>
      obtain ⟨run, whole, isRun⟩ := isRun_takeMoreDigits rest
      rw [takeDigits_cons digit, takeMoreDigits_cons digit]
      exact ⟨c :: run, congrArg (c :: ·) whole, .digits (isRun c value digit)⟩

/-- A sign is taken, if what follows has none. -/
theorem takeSign_append {sign : List Char} {negative : Bool} (is_sign : IsSign sign negative)
    (unsigned : ∀ c, rest.head? = some c → c ≠ '-' ∧ c ≠ '+') :
    takeSign (sign ++ rest) = (negative, rest) := by
  cases is_sign with
  | plus => rfl
  | minus => rfl
  | none =>
    cases rest with
    | nil => rfl
    | cons c others =>
      obtain ⟨no_minus, no_plus⟩ := unsigned c rfl
      rw [List.nil_append, takeSign]
      · exact fun _ same => no_minus (List.cons.inj same).1
      · exact fun _ same => no_plus (List.cons.inj same).1

/-- What is taken as a sign is one. -/
theorem isSign_takeSign (characters : List Char) :
    ∃ sign, characters = sign ++ (takeSign characters).2 ∧
      IsSign sign (takeSign characters).1 := by
  unfold takeSign
  split
  · exact ⟨['-'], rfl, .minus⟩
  · exact ⟨['+'], rfl, .plus⟩
  · exact ⟨[], rfl, .none⟩

/-- A digit is no sign. -/
theorem not_sign_of_digit (digit : Text.digitValue? c = some value) : c ≠ '-' ∧ c ≠ '+' :=
  ⟨ne_of_digit digit rfl, ne_of_digit digit rfl⟩

/-- A run has a first digit. -/
theorem IsRun.exists_value (run : IsRun characters values) :
    ∃ first others, values = first :: others := by
  cases run <;> exact ⟨_, _, rfl⟩

/-- A sign and digits are taken as a whole. -/
theorem take_signed {sign : List Char} {negative : Bool} (is_sign : IsSign sign negative)
    (run : IsRun characters values) :
    takeSign (sign ++ characters) = (negative, characters) ∧ takeDigits characters = (values, []) := by
  have taken : takeDigits (characters ++ []) = (values, []) := takeDigits_part (.digits run) nofun
  rw [List.append_nil] at taken
  refine ⟨takeSign_append is_sign ?_, taken⟩
  obtain ⟨c, value, others, rfl, digit⟩ := run.exists_digit
  rintro _ ⟨⟩
  exact not_sign_of_digit digit

/-- An exponent is taken as a whole. -/
theorem takeExponent_of_isExponent {exponent : ℤ} (is_exponent : IsExponent characters exponent) :
    takeExponent characters = some (exponent, []) := by
  cases is_exponent with
  | none => rfl
  | @marked mark sign digits negative values is_mark is_sign run =>
    obtain ⟨unsigned, taken⟩ := take_signed is_sign run
    obtain ⟨first, further, rfl⟩ := run.exists_value
    simp only [takeExponent, Bool.or_eq_true, decide_eq_true_eq, is_mark, if_true, unsigned, taken]
    rfl

/-- What is taken as an exponent to the end is one. -/
theorem isExponent_of_takeExponent {exponent : ℤ}
    (taken : takeExponent characters = some (exponent, [])) : IsExponent characters exponent := by
  cases characters with
  | nil =>
    cases taken
    exact .none
  | cons mark rest =>
    obtain ⟨sign, behind_sign, is_sign⟩ := isSign_takeSign rest
    obtain ⟨run, behind_run, part⟩ := isPart_takeDigits (takeSign rest).2
    simp only [takeExponent, Bool.or_eq_true, decide_eq_true_eq] at taken
    split at taken
    · next is_mark =>
      generalize takeSign rest = split_sign at taken behind_sign behind_run is_sign part
      obtain ⟨negative, unsigned⟩ := split_sign
      generalize takeDigits unsigned = split_run at taken behind_run part
      obtain ⟨values, remaining⟩ := split_run
      cases part with
      | nothing => cases taken
      | digits isRun =>
        obtain ⟨first, others, rfl⟩ := isRun.exists_value
        obtain ⟨rfl, rfl⟩ := Prod.mk.inj (Option.some.inj taken)
        rw [behind_sign, behind_run, List.append_nil]
        exact .marked is_mark is_sign isRun
    · next no_mark =>
      cases taken

/-- What stands behind the digits of a numeral does not go on with them. -/
theorem IsExponent.stopsRun {power : List Char} {exponent : ℤ}
    (is_exponent : IsExponent power exponent) :
    StopsRun power ∧ ∀ c, power.head? = some c → c ≠ '.' := by
  cases is_exponent with
  | none => exact ⟨nofun, nofun⟩
  | marked is_mark _ _ =>
    constructor
    · rintro c ⟨⟩
      rcases is_mark with rfl | rfl <;> exact ⟨rfl, by decide⟩
    · rintro c ⟨⟩
      rcases is_mark with rfl | rfl <;> decide

/-- What stands behind the whole part does not go on with it. -/
theorem IsFraction.stopsRun {fraction power : List Char} {decimals : List ℕ} {exponent : ℤ}
    (is_fraction : IsFraction fraction decimals) (is_exponent : IsExponent power exponent) :
    StopsRun (fraction ++ power) := by
  cases is_fraction with
  | none => exact is_exponent.stopsRun.1
  | point _ =>
    rintro c ⟨⟩
    exact ⟨rfl, by decide⟩

/-- The digits behind the point, if there is one. -/
def takeFraction : List Char → List ℕ × List Char
  | '.' :: rest => takeDigits rest
  | rest => ([], rest)

/-- A fraction is taken as a whole. -/
theorem takeFraction_append {fraction power : List Char} {decimals : List ℕ} {exponent : ℤ}
    (is_fraction : IsFraction fraction decimals) (is_exponent : IsExponent power exponent) :
    takeFraction (fraction ++ power) = (decimals, power) := by
  obtain ⟨stops, no_point⟩ := is_exponent.stopsRun
  cases is_fraction with
  | point part => exact takeDigits_part part stops
  | none =>
    cases power with
    | nil => rfl
    | cons c others =>
      rw [List.nil_append, takeFraction]
      exact fun _ same => no_point c rfl (List.cons.inj same).1

/-- What is taken as a fraction is one. -/
theorem isFraction_takeFraction (characters : List Char) :
    ∃ fraction, characters = fraction ++ (takeFraction characters).2 ∧
      IsFraction fraction (takeFraction characters).1 := by
  unfold takeFraction
  split
  · next rest =>
    obtain ⟨taken, whole, part⟩ := isPart_takeDigits rest
    exact ⟨'.' :: taken, congrArg ('.' :: ·) whole, .point part⟩
  · exact ⟨[], rfl, .none⟩

/-- An unsigned numeral is read in three parts. -/
theorem readDecimal?_eq (negative : Bool) (characters : List Char) :
    readDecimal? negative characters =
      let (whole, afterWhole) := takeDigits characters
      let (fraction, afterFraction) := takeFraction afterWhole
      if whole = [] && fraction = [] then none
      else match takeExponent afterFraction with
        | some (exponent, []) =>
          some (ofDecimal negative (whole ++ fraction) (exponent - fraction.length))
        | _ => none := rfl

/-- A digit is no capital letter. -/
theorem toLower_of_digit (digit : Text.digitValue? c = some value) : c.toLower = c := by
  apply dif_neg
  rintro ⟨least, greatest⟩
  have capitals : ∀ code : Fin 26, (Text.digitZeros.find? fun first =>
      first ≤ code.val + 65 && code.val + 65 < first + 10) = none := by decide
  have least : 65 ≤ c.toNat := UInt32.le_iff_toNat_le.mp least
  have greatest : c.toNat ≤ 90 := UInt32.le_iff_toNat_le.mp greatest
  have no_digit := capitals ⟨c.toNat - 65, by omega⟩
  simp only [Nat.sub_add_cancel least] at no_digit
  rw [Text.digitValue?, no_digit] at digit
  cases digit

/-- What begins with a digit or a point, behind its sign, is no word and is read as a numeral. -/
theorem readDouble?_of_head {negative : Bool}
    (signed : takeSign characters = (negative, c :: rest))
    (plain : c = '.' ∨ ∃ value, Text.digitValue? c = some value) :
    readDouble? characters = readDecimal? negative (c :: rest) := by
  have lower : c.toLower = c := by
    rcases plain with rfl | ⟨value, digit⟩
    · rfl
    · exact toLower_of_digit digit
  have no_letter (letter : Char) (other : letter ≠ '.') (no_digit : Text.digitValue? letter = none) :
      c ≠ letter := by
    rcases plain with rfl | ⟨value, digit⟩
    · exact other.symm
    · exact ne_of_digit digit no_digit
  have no_word (letter : Char) (letters : List Char) (apart : c ≠ letter) :
      String.ofList ((c :: rest).map Char.toLower) ≠ String.ofList (letter :: letters) := by
    intro same
    have heads := congrArg String.toList same
    rw [String.toList_ofList, String.toList_ofList, List.map_cons, lower] at heads
    exact apart (List.cons.inj heads).1
  have not_i := no_letter 'i' (by decide) rfl
  have not_n := no_letter 'n' (by decide) rfl
  have infinite : String.ofList ((c :: rest).map Char.toLower) ≠ "inf" := no_word _ _ not_i
  have spelled_out : String.ofList ((c :: rest).map Char.toLower) ≠ "infinity" := no_word _ _ not_i
  have undefined : String.ofList ((c :: rest).map Char.toLower) ≠ "nan" := no_word _ _ not_n
  simp only [readDouble?, signed, infinite, spelled_out, undefined, decide_false, Bool.or_false,
    Bool.false_eq_true, if_false]

/-- A numeral begins with a digit or a point, behind its sign. -/
theorem exists_head {whole fraction : List Char} (power : List Char) {digits decimals : List ℕ}
    (is_whole : IsPart whole digits) (is_fraction : IsFraction fraction decimals)
    (some_digits : digits ++ decimals ≠ []) :
    ∃ c others, whole ++ (fraction ++ power) = c :: others ∧
      (c = '.' ∨ ∃ value, Text.digitValue? c = some value) := by
  cases is_whole with
  | digits run =>
    obtain ⟨c, value, others, rfl, digit⟩ := run.exists_digit
    exact ⟨c, _, rfl, .inr ⟨value, digit⟩⟩
  | nothing =>
    cases is_fraction with
    | none => exact absurd rfl some_digits
    | point part => exact ⟨'.', _, rfl, .inl rfl⟩

/-- Behind its sign a numeral has its digits, and behind these its fraction and exponent. -/
theorem take_written {sign whole fraction power : List Char} {negative : Bool}
    {digits decimals : List ℕ} {exponent : ℤ} (is_sign : IsSign sign negative)
    (is_whole : IsPart whole digits) (is_fraction : IsFraction fraction decimals)
    (some_digits : digits ++ decimals ≠ []) (is_exponent : IsExponent power exponent) :
    takeSign (sign ++ (whole ++ (fraction ++ power))) = (negative, whole ++ (fraction ++ power)) ∧
      takeDigits (whole ++ (fraction ++ power)) = (digits, fraction ++ power) := by
  refine ⟨takeSign_append is_sign ?_, takeDigits_part is_whole (is_fraction.stopsRun is_exponent)⟩
  obtain ⟨c, others, leading, plain⟩ := exists_head power is_whole is_fraction some_digits
  rw [leading]
  rintro _ ⟨⟩
  rcases plain with rfl | ⟨value, digit⟩
  · decide
  · exact not_sign_of_digit digit

/-- A numeral is read as the double that its digits are rounded to. -/
theorem readDouble?_of_isDecimal {negative : Bool} {digits : List ℕ} {exponent : ℤ}
    (decimal : IsDecimal characters negative digits exponent) :
    readDouble? characters = some (ofDecimal negative digits exponent) := by
  cases decimal with
  | @written sign whole fraction power _ digits decimals exponent is_sign is_whole is_fraction
      some_digits is_exponent =>
    obtain ⟨behind_sign, behind_whole⟩ :=
      take_written is_sign is_whole is_fraction some_digits is_exponent
    obtain ⟨c, others, leading, plain⟩ := exists_head power is_whole is_fraction some_digits
    have signed := behind_sign.trans (congrArg (Prod.mk negative) leading)
    rw [readDouble?_of_head signed plain, ← leading, readDecimal?_eq, behind_whole]
    have not_both : ¬ (digits = [] ∧ decimals = []) := by
      rwa [← List.append_eq_nil_iff]
    simp only [takeFraction_append is_fraction is_exponent, takeExponent_of_isExponent is_exponent,
      Bool.and_eq_true, decide_eq_true_eq, not_both, if_false]

/-- What is read as a finite double is a decimal numeral. -/
theorem exists_isDecimal_of_readDouble? {found : FiniteDouble}
    (read : readDouble? characters = some (.finite found)) :
    ∃ negative digits exponent, IsDecimal characters negative digits exponent := by
  obtain ⟨sign, behind_sign, is_sign⟩ := isSign_takeSign characters
  obtain ⟨whole, behind_whole, is_whole⟩ := isPart_takeDigits (takeSign characters).2
  obtain ⟨fraction, behind_fraction, is_fraction⟩ :=
    isFraction_takeFraction (takeDigits (takeSign characters).2).2
  have decimal : readDecimal? (takeSign characters).1 (takeSign characters).2 =
      some (.finite found) := by
    simp only [readDouble?] at read
    split at read
    · cases read
    · split at read
      · cases read
      · exact read
  simp only [readDecimal?_eq, Bool.and_eq_true, decide_eq_true_eq] at decimal
  generalize takeSign characters = split_sign at *
  obtain ⟨negative, unsigned⟩ := split_sign
  generalize takeDigits unsigned = split_whole at *
  obtain ⟨digits, after_whole⟩ := split_whole
  generalize takeFraction after_whole = split_fraction at *
  obtain ⟨decimals, power⟩ := split_fraction
  simp only at behind_sign behind_whole behind_fraction
  split at decimal
  · cases decimal
  · next not_both =>
    split at decimal
    · next exponent taken =>
      rw [behind_sign, behind_whole, behind_fraction]
      exact ⟨_, _, _, .written is_sign is_whole is_fraction (mt List.append_eq_nil_iff.mp not_both)
        (isExponent_of_takeExponent taken)⟩
    · cases decimal

/-- The digits of a numeral are below ten. -/
theorem IsDecimal.lt_of_mem {negative : Bool} {digits : List ℕ} {exponent : ℤ}
    (decimal : IsDecimal characters negative digits exponent) : ∀ digit ∈ digits, digit < 10 := by
  cases decimal with
  | written _ is_whole is_fraction _ _ =>
    have part {characters : List Char} {values : List ℕ} (part : IsPart characters values) :
        ∀ digit ∈ values, digit < 10 := by
      cases part with
      | nothing => exact List.forall_mem_nil _
      | digits run => exact run.lt_of_mem
    refine List.forall_mem_append.mpr ⟨part is_whole, ?_⟩
    cases is_fraction with
    | none => exact List.forall_mem_nil _
    | point decimals => exact part decimals

/-- A numeral is read as a double that its number is rounded to. -/
theorem Spells.exists_readDouble? {number : ℚ} (spelled : Spells characters number) :
    ∃ double, readDouble? characters = some double ∧ double.IsRoundingOf number := by
  obtain ⟨negative, digits, exponent, decimal, rfl⟩ := spelled
  exact ⟨_, readDouble?_of_isDecimal decimal,
    isRoundingOf_ofDecimal negative decimal.lt_of_mem exponent⟩

/-- What is read as a whole number is a numeral of one, and the other way round. -/
theorem readInt?_eq_some_iff {number : ℤ} :
    readInt? characters = some number ↔ SpellsWhole characters number := by
  constructor
  · intro read
    obtain ⟨sign, behind_sign, is_sign⟩ := isSign_takeSign characters
    obtain ⟨run, behind_run, part⟩ := isPart_takeDigits (takeSign characters).2
    simp only [readInt?] at read
    generalize takeSign characters = split_sign at *
    obtain ⟨negative, unsigned⟩ := split_sign
    generalize takeDigits unsigned = split_run at *
    obtain ⟨digits, remaining⟩ := split_run
    cases part with
    | nothing => cases read
    | digits isRun =>
      obtain ⟨first, others, rfl⟩ := isRun.exists_value
      cases remaining with
      | cons c further => cases read
      | nil =>
        simp only [Option.ite_none_right_eq_some, Option.some.injEq] at read
        obtain ⟨short, rfl⟩ := read
        simp only [List.append_nil] at behind_sign behind_run
        rw [behind_sign, behind_run]
        exact .written is_sign isRun short
  · rintro ⟨is_sign, run, short⟩
    obtain ⟨unsigned, taken⟩ := take_signed is_sign run
    obtain ⟨first, others, rfl⟩ := run.exists_value
    simp only [readInt?, unsigned, taken, short, if_true, signed]

/-- The number of a sign and digits as a rational. -/
theorem signed_eq (negative : Bool) (digits : List ℕ) :
    (signed negative digits : ℚ) = signFactor negative * valueOf 10 digits := by
  cases negative <;> simp [signed, signFactor]

/-- A numeral of a whole number spells that number. -/
theorem SpellsWhole.spells {number : ℤ} (spelled : SpellsWhole characters number) :
    Spells characters number := by
  obtain ⟨is_sign, run, _⟩ := spelled
  obtain ⟨first, others, same⟩ := run.exists_value
  have decimal := IsDecimal.written is_sign (.digits run) .none (by simp [same]) .none
  simp only [List.append_nil] at decimal
  refine ⟨_, _, _, decimal, ?_⟩
  rw [signed_eq, List.length_nil, Nat.cast_zero, sub_zero, zpow_zero, mul_one]

/-- What is read of a numeral as a whole number is the number that it spells: there is nothing
behind its digits. -/
theorem Spells.eq_of_readInt? {number : ℚ} (spelled : Spells characters number) {whole : ℤ}
    (read : readInt? characters = some whole) : number = whole := by
  obtain ⟨negative, digits, exponent, decimal, rfl⟩ := spelled
  cases decimal with
  | @written sign integral fraction power _ digits decimals exponent is_sign is_whole is_fraction
      some_digits is_exponent =>
    obtain ⟨behind_sign, behind_whole⟩ :=
      take_written is_sign is_whole is_fraction some_digits is_exponent
    simp only [readInt?, behind_sign, behind_whole] at read
    cases is_whole with
    | nothing => cases read
    | digits run =>
      obtain ⟨first, others, rfl⟩ := run.exists_value
      cases is_fraction with
      | point _ => cases read
      | none =>
        cases is_exponent with
        | marked _ _ _ => cases read
        | none =>
          simp only [List.append_nil, Option.ite_none_right_eq_some, Option.some.injEq] at read
          obtain ⟨_, rfl⟩ := read
          rw [List.append_nil, List.length_nil, Nat.cast_zero, sub_zero, zpow_zero, mul_one]
          exact (signed_eq negative (first :: others)).symm

end

end Numeral

end ChunkCodecs
