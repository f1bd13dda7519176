import Mathlib
import ChunkCodecs.Document.Printer
import ChunkCodecs.Document.Reader
import ChunkCodecs.Proofs.Document.Numerals
import ChunkCodecs.Proofs.Document.Texts
import ChunkCodecs.Proofs.Number.Numerals
import ChunkCodecs.Proofs.Number.Shortest

/-!
# Values without parts read back

The absent value, truth values, whole numbers and texts are read from their documents as
they were written. A double is read as some double: its text is a numeral with a fraction or
an exponent, or one of the words for what is not finite. A numeral is read up to where it
ends, so what follows must not continue it.
-/

namespace ChunkCodecs.Document

/-- Characters are read as a value at every depth, up to where a numeral would end. -/
def ReadsAs (written : List Char) (value : Value) : Prop :=
  ∀ room rest, EndsNumeral rest → readValue room (written ++ rest) = .ok (value, rest)

/-- A text reads as itself. -/
theorem readsAs_text (content : List Char) :
    ReadsAs (textChars content) (.text (String.ofList content)) := by
  intro room rest _
  have inside : textChars content ++ rest = '"' :: (content.flatMap escapeChar ++ '"' :: rest) := by
    simp [textChars]
  rw [inside, readValue.eq_def]
  simp only [readText_textChars, Except.map]

/-- Characters that open neither a text nor a list nor a dictionary are read as a word or as
a numeral. -/
theorem readValue_other {c : Char} (other : c ≠ '"' ∧ c ≠ '[' ∧ c ≠ '\x7b') (room : Nat)
    (rest : List Char) :
    readValue room (c :: rest) = match readWord? (c :: rest) with
      | some found => .ok found
      | none => readNumber (c :: rest) := by
  obtain ⟨quote, bracket, brace⟩ := other
  rw [readValue.eq_def]
  split <;> first | rfl | grind

/-- A word reads as its value. -/
theorem readsAs_word {word : List Char} {value : Value} (known : (word, value) ∈ words) :
    ReadsAs word value := by
  intro room rest _
  simp only [words, List.mem_cons, Prod.mk.injEq, List.not_mem_nil, or_false] at known
  rcases known with ⟨rfl, rfl⟩ | ⟨rfl, rfl⟩ | ⟨rfl, rfl⟩ | ⟨rfl, rfl⟩ | ⟨rfl, rfl⟩ | ⟨rfl, rfl⟩ <;>
    exact readValue_other (by decide) room _

/-- No word begins with a digit. -/
theorem readWord?_of_digit {c : Char} (digit : c.isDigit = true) (tail : List Char) :
    readWord? (c :: tail) = none := by
  have other (letter : Char) (none : letter.isDigit = false) : letter ≠ c :=
    (ne_of_isDigit digit none).symm
  simp [readWord?, words, other 'n' rfl, other 't' rfl, other 'f' rfl, other 'N' rfl,
    other 'I' rfl, other '-' rfl]

/-- No word begins with a minus sign and a digit. -/
theorem readWord?_of_minus {c : Char} (digit : c.isDigit = true) (tail : List Char) :
    readWord? ('-' :: c :: tail) = none := by
  have other : 'I' ≠ c := (ne_of_isDigit digit rfl).symm
  simp [readWord?, words, other]

/-- A numeral is read as a numeral. -/
theorem readValue_numeral {text : NumeralText} (valid : text.IsValid) (room : Nat)
    (rest : List Char) : readValue room (text.chars ++ rest) = readNumber (text.chars ++ rest) := by
  cases whole : text.whole with
  | nil => exact absurd whole valid.whole_ne_nil
  | cons c digits =>
    have digit : c.isDigit = true := valid.whole_digits c (by rw [whole]; exact List.mem_cons_self)
    cases negative : text.negative with
    | false =>
      have leading : text.chars ++ rest =
          c :: (digits ++ (text.fractionChars ++ text.exponentChars) ++ rest) := by
        simp [NumeralText.chars, whole, negative]
      have other : c ≠ '"' ∧ c ≠ '[' ∧ c ≠ '\x7b' :=
        ⟨ne_of_isDigit digit rfl, ne_of_isDigit digit rfl, ne_of_isDigit digit rfl⟩
      rw [leading, readValue_other other, readWord?_of_digit digit]
    | true =>
      have leading : text.chars ++ rest =
          '-' :: c :: (digits ++ (text.fractionChars ++ text.exponentChars) ++ rest) := by
        simp [NumeralText.chars, whole, negative]
      rw [leading, readValue_other (by decide), readWord?_of_minus digit]

/-- There is no value where neither a word nor a numeral begins. -/
theorem readValue_of_missing {c : Char} (other : c ≠ '"' ∧ c ≠ '[' ∧ c ≠ '\x7b')
    {rest : List Char} (no_word : readWord? (c :: rest) = none) (no_minus : c ≠ '-')
    (no_digit : c.isDigit = false) (room : Nat) :
    readValue room (c :: rest) = .error (.defective .missingValue (c :: rest).length) := by
  have no_sign : takeMinus (c :: rest) = (false, c :: rest) := by
    rw [takeMinus]
    exact fun _ same => no_minus (List.cons.inj same).1
  have no_whole : takeWhole (c :: rest) = ([], c :: rest) := by
    rw [takeWhole]
    · simp [takeDigits, no_digit]
    · rintro _ same
      obtain ⟨rfl, _⟩ := List.cons.inj same
      cases no_digit
  rw [readValue_other other, no_word, readNumber]
  simp only [no_sign, no_whole]
  rfl

/-- The digits of a number are the whole part of a numeral. -/
theorem toDigits_leading (number : Nat) :
    Nat.toDigits 10 number = ['0'] ∨ (Nat.toDigits 10 number).head? ≠ some '0' := by
  by_cases zero : number = 0
  · left
    rw [zero]
    rfl
  · right
    obtain ⟨c, rest, leading, other⟩ := Numeral.head_toDigits (Nat.pos_of_ne_zero zero)
    rw [leading]
    intro same
    exact other (Option.some.inj same)

/-- A whole number as a numeral. -/
def NumeralText.ofInt (number : Int) : NumeralText :=
  ⟨number < 0, Nat.toDigits 10 number.natAbs, [], none⟩

/-- The numeral of a whole number is one that documents may have. -/
theorem NumeralText.isValid_ofInt (number : Int) : (ofInt number).IsValid where
  whole_ne_nil := Nat.toDigits_ne_nil
  whole_digits := fun _ member => Numeral.isDigit_of_mem_toDigits member
  whole_leading := toDigits_leading number.natAbs
  fraction_digits := nofun
  exponent_digits := nofun

/-- A whole number is written as its numeral. -/
theorem NumeralText.chars_ofInt (number : Int) : (ofInt number).chars = Value.intChars number := by
  by_cases negative : number < 0 <;>
    simp [chars, fractionChars, exponentChars, ofInt, Value.intChars, negative]

/-- A whole number that may be shown reads as itself. -/
theorem readsAs_int {number : Int} (printable : Value.intIsPrintable number = true) :
    ReadsAs (Value.intChars number) (.int number) := by
  intro room rest ends
  have valid := NumeralText.isValid_ofInt number
  have short : (NumeralText.ofInt number).whole.length ≤ Numeral.maxDigits :=
    Numeral.length_toDigits_le printable
  have same : (NumeralText.ofInt number).int = number := by
    have magnitude : NumeralText.numberOf (Nat.toDigits 10 number.natAbs) = number.natAbs :=
      Numeral.valueOf_toDigits number.natAbs
    simp only [NumeralText.int, NumeralText.ofInt, magnitude, decide_eq_true_eq]
    split <;> omega
  rw [← NumeralText.chars_ofInt, readValue_numeral valid,
    NumeralText.readNumber_whole valid ends ⟨rfl, rfl⟩ short, same]

/-- Zeros are digits. -/
theorem areDigits_replicate (count : Nat) : AreDigits (List.replicate count '0') := by
  intro c member
  rw [List.eq_of_mem_replicate member]
  rfl

/-- Digits behind digits are digits. -/
theorem AreDigits.append {first second : List Char} (one : AreDigits first)
    (other : AreDigits second) : AreDigits (first ++ second) := by
  intro c member
  rcases List.mem_append.mp member with early | late
  · exact one c early
  · exact other c late

/-- Characters that are a numeral with a fraction or an exponent, behind either sign. -/
def IsFractional (chars : List Char) : Prop :=
  ∀ negative : Bool, ∃ text : NumeralText, text.IsValid ∧
    (text.fraction ≠ [] ∨ text.exponent ≠ none) ∧
      text.chars = (if negative then ['-'] else []) ++ chars

/-- Digits on both sides of a point are a numeral, unless a zero stands before further digits. -/
theorem isFractional_point {c : Char} {others fraction : List Char}
    (whole : AreDigits (c :: others)) (leading : c :: others = ['0'] ∨ c ≠ '0')
    (fractional : AreDigits fraction) (nonempty : fraction ≠ []) :
    IsFractional (c :: others ++ '.' :: fraction) := by
  intro negative
  refine ⟨⟨negative, c :: others, fraction, none⟩, ?_, .inl nonempty, ?_⟩
  · constructor
    · exact List.cons_ne_nil _ _
    · exact whole
    · rcases leading with zero | other
      · exact .inl zero
      · right
        intro same
        exact other (Option.some.inj same)
    · exact fractional
    · rintro _ _ ⟨⟩
  · simp [NumeralText.chars, NumeralText.fractionChars, NumeralText.exponentChars, nonempty]

/-- A digit other than zero, digits behind the point if there are any, and a power of ten are
a numeral. -/
theorem isFractional_power {c : Char} {others power : List Char} (all : AreDigits (c :: others))
    (other : c ≠ '0') (digits : AreDigits power) (nonempty : power ≠ []) (leading : Int) :
    IsFractional ([c] ++ (if others = [] then [] else '.' :: others) ++
      'e' :: (if leading < 0 then '-' else '+') :: power) := by
  intro negative
  refine ⟨⟨negative, [c], others, some (decide (leading < 0), power)⟩, ?_,
    .inr (Option.some_ne_none _), ?_⟩
  · constructor
    · exact List.cons_ne_nil _ _
    · exact List.forall_mem_singleton.mpr (all c List.mem_cons_self)
    · right
      intro same
      exact other (Option.some.inj same)
    · intro d member
      exact all d (List.mem_cons_of_mem c member)
    · rintro _ _ ⟨⟩
      exact ⟨nonempty, digits⟩
  · simp [NumeralText.chars, NumeralText.fractionChars, NumeralText.exponentChars]

/-- Positive decimal digits in the plain layout are a numeral with a fraction or an
exponent.

Proof: the layout writes a whole number with a zero behind the point, puts the point between
the digits or in front of them, or writes one digit in front of it and an exponent. The
digits do not begin with a zero, as the number is positive. -/
theorem isFractional_render {decimal : DecimalDigits} (positive : 0 < decimal.digits) :
    IsFractional (plainLayout.render decimal) := by
  have all : AreDigits (Nat.toDigits 10 decimal.digits) :=
    fun _ member => Numeral.isDigit_of_mem_toDigits member
  obtain ⟨c, others, digits, other⟩ := Numeral.head_toDigits positive
  simp only [DecimalLayout.render]
  rw [digits] at all ⊢
  split
  · split
    · exact isFractional_point (all.append (areDigits_replicate _)) (.inr other)
        (areDigits_replicate 1) (List.cons_ne_nil _ _)
    · split
      · rename_i fractional whole
        have taken (count : Nat) : AreDigits ((c :: others).take count) :=
          fun d member => all d (List.mem_of_mem_take member)
        apply @isFractional_point c (others.take _) _ (taken (_ + 1)) (.inr other)
        · intro d member
          exact all d (List.mem_of_mem_drop member)
        · intro none_left
          have ended := List.drop_eq_nil_iff.mp none_left
          simp only [List.length_cons] at whole ended
          omega
      · apply @isFractional_point '0' [] _ (areDigits_replicate 1) (.inl rfl)
        · exact (areDigits_replicate _).append all
        · simp
  · have power (exponent : Nat) : AreDigits (Nat.toDigits 10 exponent) :=
      fun _ member => Numeral.isDigit_of_mem_toDigits member
    have tail : ((c :: others).length = 1) = (others = []) := by simp
    simp only [tail]
    apply isFractional_power all other ((areDigits_replicate _).append (power _))
    simp

/-- A finite double is written as a numeral with a fraction or an exponent. -/
theorem exists_numeral_finite (value : FiniteDouble) :
    ∃ text : NumeralText, text.IsValid ∧ (text.fraction ≠ [] ∨ text.exponent ≠ none) ∧
      text.chars = doubleChars (.finite value) := by
  simp only [doubleChars, Double.renderIn]
  by_cases zero : value.significand = 0
  · rw [if_pos zero]
    exact isFractional_point (areDigits_replicate 1) (.inl rfl) (areDigits_replicate 1)
      (List.cons_ne_nil _ _) value.negative
  · obtain ⟨significand, exponent, rounded, positive⟩ :=
      FiniteDouble.roundQuotient_quotient zero
    have digits := Shortest.trimZeros_digits_pos 17
      (Shortest.digits_digits_pos .binary64 positive exponent)
    rw [if_neg zero, rounded]
    exact isFractional_render digits value.negative

/-- A double reads as some double. -/
theorem exists_readsAs_double (number : Double) :
    ∃ found, ReadsAs (doubleChars number) (.float found) := by
  cases number with
  | nan => exact ⟨.nan, readsAs_word (by simp [words, doubleChars])⟩
  | infinite negative =>
    cases negative with
    | false => exact ⟨.infinite false, readsAs_word (by simp [words, doubleChars])⟩
    | true => exact ⟨.infinite true, readsAs_word (by simp [words, doubleChars])⟩
  | finite value =>
    obtain ⟨text, valid, parts, written⟩ := exists_numeral_finite value
    refine ⟨text.double, ?_⟩
    intro room rest ends
    rw [← written, readValue_numeral valid, NumeralText.readNumber_double valid ends parts]

end ChunkCodecs.Document
