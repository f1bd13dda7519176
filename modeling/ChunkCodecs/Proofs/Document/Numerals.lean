import ChunkCodecs.Document.Reader

/-!
# Numerals in documents

A numeral is read up to where it ends: an optional minus sign, a whole part that does not
begin with a zero unless it is one, a fraction and an exponent. What is read of it depends
on its parts alone, as long as what follows does not continue it. With a fraction or an
exponent it is a double, and without them a whole number.
-/

namespace ChunkCodecs.Document

/-- What follows a numeral does not continue it. -/
def EndsNumeral (rest : List Char) : Prop :=
  ∀ c, rest.head? = some c → c.isDigit = false ∧ c ≠ '.' ∧ c ≠ 'e' ∧ c ≠ 'E'

/-- Nothing ends a numeral. -/
theorem EndsNumeral.nil : EndsNumeral [] := by
  rintro c ⟨⟩

/-- A character that no numeral has ends one. -/
theorem EndsNumeral.cons {c : Char} (other : c.isDigit = false ∧ c ≠ '.' ∧ c ≠ 'e' ∧ c ≠ 'E')
    (rest : List Char) : EndsNumeral (c :: rest) := by
  rintro _ ⟨⟩
  exact other

/-- What follows a whole number does not continue it. -/
structure EndsWhole (rest : List Char) : Prop where
  /-- It begins with no further digit. -/
  no_digit : ∀ c, rest.head? = some c → c.isDigit = false
  /-- It begins with no fraction. -/
  no_fraction : (takeFraction rest).1 = []
  /-- It begins with no exponent. -/
  no_exponent : (takeExponent rest).1 = none

/-- What ends a numeral ends a whole number. -/
theorem EndsNumeral.endsWhole {rest : List Char} (ends : EndsNumeral rest) : EndsWhole rest := by
  cases rest with
  | nil => exact ⟨nofun, rfl, rfl⟩
  | cons c further =>
    obtain ⟨digit, point, small, large⟩ := ends c rfl
    refine ⟨fun d leads => (ends d leads).1, ?_, ?_⟩
    · unfold takeFraction
      split
      · next same => exact absurd (List.cons.inj same).1 point
      · rfl
    · simp [takeExponent, small, large]

/-- Where no fraction is taken, nothing is. -/
theorem takeFraction_eq_of_nil {characters : List Char}
    (no_fraction : (takeFraction characters).1 = []) :
    takeFraction characters = ([], characters) := by
  unfold takeFraction at no_fraction ⊢
  grind

/-- Where no exponent is taken, nothing is. -/
theorem takeExponent_eq_of_none {characters : List Char}
    (no_exponent : (takeExponent characters).1 = none) :
    takeExponent characters = (none, characters) := by
  unfold takeExponent at no_exponent ⊢
  grind

/-- Only digits. -/
def AreDigits (characters : List Char) : Prop := ∀ c ∈ characters, c.isDigit = true

/-- Digits are taken up to a character that is none. -/
theorem takeDigits_append {digits rest : List Char} (all : AreDigits digits)
    (stop : ∀ c, rest.head? = some c → c.isDigit = false) :
    takeDigits (digits ++ rest) = (digits.map fun c => c.toNat - 48, rest) := by
  have taken : (digits ++ rest).takeWhile Char.isDigit = digits := by
    rw [List.takeWhile_append_of_pos all]
    cases rest with
    | nil => simp
    | cons c further => simp [stop c rfl]
  have dropped : (digits ++ rest).dropWhile Char.isDigit = rest := by
    rw [List.dropWhile_append_of_pos all]
    cases rest with
    | nil => rfl
    | cons c further => simp [stop c rfl]
  rw [takeDigits, taken, dropped]

/-- A digit is none of the other characters of a numeral. -/
theorem ne_of_isDigit {c other : Char} (digit : c.isDigit = true) (none : other.isDigit = false) :
    c ≠ other := by
  rintro rfl
  rw [digit] at none
  cases none

/-- A numeral as it is written. -/
structure NumeralText where
  /-- Whether it begins with a minus sign. -/
  negative : Bool
  /-- The whole part. -/
  whole : List Char
  /-- The fraction behind the point, empty if there is no point. -/
  fraction : List Char
  /-- The sign of the exponent and its digits. -/
  exponent : Option (Bool × List Char)

namespace NumeralText

/-- The fraction with its point. -/
def fractionChars (text : NumeralText) : List Char :=
  if text.fraction = [] then [] else '.' :: text.fraction

/-- The exponent with its letter and sign. -/
def exponentChars (text : NumeralText) : List Char :=
  match text.exponent with
  | none => []
  | some (negative, digits) => 'e' :: (if negative then '-' else '+') :: digits

/-- The characters of a numeral. -/
def chars (text : NumeralText) : List Char :=
  (if text.negative then ['-'] else []) ++ (text.whole ++ (text.fractionChars ++ text.exponentChars))

/-- A numeral that documents may have. -/
structure IsValid (text : NumeralText) : Prop where
  /-- There is a whole part. -/
  whole_ne_nil : text.whole ≠ []
  /-- It consists of digits. -/
  whole_digits : AreDigits text.whole
  /-- It does not begin with a zero unless it is one. -/
  whole_leading : text.whole = ['0'] ∨ text.whole.head? ≠ some '0'
  /-- The fraction consists of digits. -/
  fraction_digits : AreDigits text.fraction
  /-- An exponent has digits, and nothing else behind its sign. -/
  exponent_digits : ∀ negative digits, text.exponent = some (negative, digits) →
    digits ≠ [] ∧ AreDigits digits

variable {text : NumeralText} {rest : List Char}

/-- The sign is taken. -/
theorem takeMinus_append (valid : text.IsValid) (tail : List Char) :
    takeMinus ((if text.negative then ['-'] else []) ++ (text.whole ++ tail)) =
      (text.negative, text.whole ++ tail) := by
  cases negative : text.negative with
  | true => rfl
  | false =>
    cases whole : text.whole with
    | nil => exact absurd whole valid.whole_ne_nil
    | cons c digits =>
      have digit := valid.whole_digits c (by rw [whole]; exact List.mem_cons_self)
      have unsigned : c ≠ '-' := ne_of_isDigit digit rfl
      simp only [Bool.false_eq_true, if_false, List.nil_append, List.cons_append]
      unfold takeMinus
      split
      · rename_i same
        exact absurd (List.cons.inj same).1 unsigned
      · rfl

/-- The whole part is taken. -/
theorem takeWhole_append (valid : text.IsValid) {tail : List Char}
    (stop : ∀ c, tail.head? = some c → c.isDigit = false) :
    takeWhole (text.whole ++ tail) = (text.whole.map fun c => c.toNat - 48, tail) := by
  rcases valid.whole_leading with zero | other
  · rw [zero]
    rfl
  · unfold takeWhole
    split
    · rename_i same
      cases whole : text.whole with
      | nil => exact absurd whole valid.whole_ne_nil
      | cons c digits =>
        rw [whole] at same other
        obtain rfl := (List.cons.inj same).1
        exact absurd rfl other
    · exact takeDigits_append valid.whole_digits stop

/-- The fraction is taken. -/
theorem takeFraction_append (valid : text.IsValid) {tail : List Char}
    (stop : ∀ c, tail.head? = some c → c.isDigit = false ∧ c ≠ '.') :
    takeFraction (text.fractionChars ++ tail) =
      (text.fraction.map fun c => c.toNat - 48, tail) := by
  rw [fractionChars]
  cases fraction : text.fraction with
  | nil =>
    cases tail with
    | nil => rfl
    | cons c further =>
      have other := (stop c rfl).2
      simp only [if_true, List.nil_append, List.map_nil]
      unfold takeFraction
      split
      · rename_i same
        exact absurd (List.cons.inj same).1 other
      · rfl
  | cons c digits =>
    have all : AreDigits (c :: digits) := fraction ▸ valid.fraction_digits
    have taken := takeDigits_append all fun d leads => (stop d leads).1
    simp only [reduceCtorEq, if_false]
    show takeFraction ('.' :: (c :: digits ++ tail)) = _
    rw [takeFraction, taken]
    rfl

/-- The number that digits stand for. -/
def numberOf (digits : List Char) : Nat := Numeral.valueOf 10 (digits.map fun c => c.toNat - 48)

/-- The exponent as a number, if there is one. -/
def exponent? (text : NumeralText) : Option Int :=
  text.exponent.map fun (negative, digits) =>
    if negative then -(numberOf digits : Int) else numberOf digits

/-- The exponent is taken, if there is one. -/
theorem takeExponent_append (valid : text.IsValid) (ends : EndsNumeral rest) :
    takeExponent (text.exponentChars ++ rest) = (text.exponent?, rest) := by
  rw [exponentChars, exponent?]
  cases exponent : text.exponent with
  | none =>
    cases rest with
    | nil => rfl
    | cons c further =>
      obtain ⟨_, _, small, large⟩ := ends c rfl
      simp [takeExponent, small, large]
  | some found =>
    obtain ⟨negative, digits⟩ := found
    obtain ⟨nonempty, all⟩ := valid.exponent_digits negative digits exponent
    have taken := takeDigits_append all fun c leads => (ends c leads).1
    have signed : Numeral.takeSign ((if negative then '-' else '+') :: (digits ++ rest)) =
        (negative, digits ++ rest) := by
      cases negative <;> rfl
    cases digits with
    | nil => exact absurd rfl nonempty
    | cons d others =>
      simp only [List.cons_append] at taken signed ⊢
      simp [takeExponent, signed, taken, numberOf]

/-- What stands behind the whole part does not continue it. -/
theorem head_fraction (text : NumeralText) (ends : EndsNumeral rest) {c : Char}
    (leads : (text.fractionChars ++ (text.exponentChars ++ rest)).head? = some c) :
    c.isDigit = false := by
  rw [fractionChars, exponentChars] at leads
  split at leads
  · split at leads
    · exact (ends c leads).1
    · cases leads
      rfl
  · cases leads
    rfl

/-- What stands behind the fraction does not continue it. -/
theorem head_exponent (text : NumeralText) (ends : EndsNumeral rest) {c : Char}
    (leads : (text.exponentChars ++ rest).head? = some c) : c.isDigit = false ∧ c ≠ '.' := by
  rw [exponentChars] at leads
  split at leads
  · obtain ⟨digit, point, _⟩ := ends c leads
    exact ⟨digit, point⟩
  · cases leads
    exact ⟨rfl, by decide⟩

/-- The double that a numeral stands for. -/
def double (text : NumeralText) : Double :=
  Numeral.ofDecimal text.negative
    ((text.whole.map fun c => c.toNat - 48) ++ (text.fraction.map fun c => c.toNat - 48))
    (text.exponent?.getD 0 - text.fraction.length)

/-- The whole number that a numeral stands for if it has nothing but a whole part. -/
def int (text : NumeralText) : Int :=
  if text.negative then -(numberOf text.whole : Int) else numberOf text.whole

/-- A numeral with a fraction or an exponent is read as a double. -/
theorem readNumber_double (valid : text.IsValid) (ends : EndsNumeral rest)
    (parts : text.fraction ≠ [] ∨ text.exponent ≠ none) :
    readNumber (text.chars ++ rest) = .ok (.float text.double, rest) := by
  have whole := takeWhole_append valid fun c leads => head_fraction text ends leads
  have fraction := takeFraction_append valid fun c leads => head_exponent text ends leads
  have some_whole : (text.whole.map fun c => c.toNat - 48).isEmpty = false := by
    simpa using valid.whole_ne_nil
  have not_both :
      ((text.fraction.map fun c => c.toNat - 48).isEmpty && text.exponent?.isNone) = false := by
    rcases parts with some_fraction | some_exponent
    · simp [some_fraction]
    · cases exponent : text.exponent with
      | none => exact absurd exponent some_exponent
      | some found => simp [exponent?, exponent]
  rw [readNumber, chars, List.append_assoc, List.append_assoc, List.append_assoc,
    takeMinus_append valid]
  simp only [whole, fraction, takeExponent_append valid ends, some_whole, not_both,
    Bool.false_eq_true, if_false, List.length_map, double]

/-- A numeral without fraction and exponent is read as the whole number that its digits stand for,
or is refused if these are too many. -/
theorem readNumber_bare (valid : text.IsValid) (ends : EndsWhole rest)
    (bare : text.fraction = [] ∧ text.exponent = none) :
    readNumber (text.chars ++ rest) =
      if text.whole.length ≤ Numeral.maxDigits then .ok (.int text.int, rest)
      else .error (.longNumeral text.whole.length) := by
  have characters : text.chars ++ rest =
      (if text.negative then ['-'] else []) ++ (text.whole ++ rest) := by
    simp [chars, fractionChars, exponentChars, bare]
  have some_whole : (text.whole.map fun c => c.toNat - 48).isEmpty = false := by
    simpa using valid.whole_ne_nil
  rw [readNumber, characters, takeMinus_append valid]
  simp only [takeWhole_append valid ends.no_digit, takeFraction_eq_of_nil ends.no_fraction,
    takeExponent_eq_of_none ends.no_exponent, some_whole, Bool.false_eq_true, if_false,
    List.isEmpty_nil, Option.isNone_none, Bool.and_self, if_true, List.length_map, int, numberOf]

/-- A numeral without fraction and exponent, of not too many digits, is read as the whole
number that its digits stand for. -/
theorem readNumber_whole (valid : text.IsValid) (ends : EndsNumeral rest)
    (bare : text.fraction = [] ∧ text.exponent = none)
    (short : text.whole.length ≤ Numeral.maxDigits) :
    readNumber (text.chars ++ rest) = .ok (.int text.int, rest) := by
  rw [readNumber_bare valid ends.endsWhole bare, if_pos short]

end NumeralText

end ChunkCodecs.Document
