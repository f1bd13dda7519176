import ChunkCodecs.Literal.Reader
import ChunkCodecs.Proofs.Document.Scalars
import ChunkCodecs.Proofs.Literal.Texts
import ChunkCodecs.Proofs.Number.Numerals
import ChunkCodecs.Value.Printer

/-!
# Constants in literals read back

The absent value, truth values, whole numbers and texts are read from their literals as expressions
with these values. A negative number is read as a number with a sign. What is read ends at the first
character that does not belong to it, so it matters that a colon, a comma or a brace follows.
-/

namespace ChunkCodecs

/-- A value without parts that documents have as well: nothing, a truth value, a whole number that
may be shown, or a text. -/
inductive Value.IsScalar : Value → Prop where
  /-- The absent value. -/
  | absent : IsScalar .none
  /-- A truth value. -/
  | truth (value : Bool) : IsScalar (.bool value)
  /-- A whole number that may be shown. -/
  | whole {number : Int} (printable : Value.intIsPrintable number = true) : IsScalar (.int number)
  /-- A text. -/
  | text (content : String) : IsScalar (.text content)

namespace Literal

open Text

/-- The characters that follow a key or a value in braces. -/
def IsStop (c : Char) : Prop := c = ':' ∨ c = ',' ∨ c = '\x7d'

/-- A character that is left out nowhere, and that no sign leads. -/
structure IsStart (c : Char) : Prop where
  /-- It joins no lines. -/
  no_backslash : c ≠ '\\'
  /-- It begins no comment. -/
  no_comment : c ≠ '#'
  /-- It is no space. -/
  no_space : isSpace c = false
  /-- It ends no line. -/
  no_line_end : c ≠ '\n'

/-- Nothing is skipped in front of a character that is left out nowhere. -/
theorem skipInside_of_isStart {c : Char} (start : IsStart c) (rest : List Char) :
    skipInside false (c :: rest) = c :: rest := by
  obtain ⟨no_backslash, no_comment, no_space, no_line_end⟩ := start
  rw [skipInside]
  · rw [if_neg no_comment, if_neg (by simp [no_space, no_line_end])]
  · exact fun _ backslash _ => no_backslash backslash

/-- What follows a key or a value is left out nowhere. -/
theorem IsStop.isStart {c : Char} (stop : IsStop c) : IsStart c := by
  rcases stop with rfl | rfl | rfl <;> exact ⟨by decide, by decide, rfl, by decide⟩

/-- A digit is left out nowhere. -/
theorem isStart_of_isDigit {c : Char} (digit : c.isDigit = true) : IsStart c where
  no_backslash := Document.ne_of_isDigit digit rfl
  no_comment := Document.ne_of_isDigit digit rfl
  no_space := by
    have other (space : Char) (no_digit : space.isDigit = false) : c ≠ space :=
      Document.ne_of_isDigit digit no_digit
    simp [isSpace, other ' ' rfl, other '\t' rfl, other '\x0c' rfl]
  no_line_end := Document.ne_of_isDigit digit rfl

/-- Characters are read as an expression inside brackets, up to what follows a key or a value. -/
def Spells (written : List Char) (expression : Expression) : Prop :=
  ∀ room c rest, IsStop c →
    readSum .brackets (readAtom room .brackets) (written ++ c :: rest) = some (expression, c :: rest)

/-- Characters are read as a constant up to what follows a key or a value. -/
def SpellsConstant (written : List Char) (expression : Expression) : Prop :=
  ∀ c rest, IsStop c →
    readConstant .brackets (written ++ c :: rest) = some (expression, c :: rest)

variable {first : Char} {written : List Char} {expression : Expression}

/-- A constant is all that is read of an operand, if no bracket opens it. -/
theorem SpellsConstant.readAtom (constant : SpellsConstant (first :: written) expression)
    (no_bracket : first ≠ '(' ∧ first ≠ '[' ∧ first ≠ '\x7b') (room : Nat) {c : Char}
    (stop : IsStop c) (rest : List Char) :
    readAtom room .brackets (first :: written ++ c :: rest) = some (expression, c :: rest) := by
  cases room with
  | zero => exact constant c rest stop
  | succ room =>
    have no_call : readCall .brackets expression (c :: rest) = some (expression, c :: rest) := by
      rw [readCall, Surroundings.skip, skipInside_of_isStart stop.isStart]
      rcases stop with rfl | rfl | rfl <;> rfl
    have read := constant c rest stop
    rw [List.cons_append] at read ⊢
    simp only [Literal.readAtom, no_bracket, decide_false, Bool.or_false, Bool.false_eq_true,
      if_false, read]
    exact no_call

/-- No operand follows what a key or a value is followed by. -/
theorem readFurtherOperands_of_isStop (readOperand : List Char → Outcome Expression) (most : Nat)
    (left : Expression) {c : Char} (stop : IsStop c) (rest : List Char) :
    readFurtherOperands .brackets readOperand (most + 1) left (c :: rest) = some (left, c :: rest) := by
  rw [readFurtherOperands, Surroundings.skip, skipInside_of_isStart stop.isStart]
  rcases stop with rfl | rfl | rfl <;> rfl

/-- An operand without a sign is read as it is. -/
theorem readSigned_of_ne (place : Surroundings) (readAtom : List Char → Outcome Expression)
    (most : Nat) (no_sign : first ≠ '+' ∧ first ≠ '-') (rest : List Char) :
    readSigned place readAtom (most + 1) (first :: rest) = readAtom (first :: rest) := by
  rw [readSigned]
  · exact fun _ same => no_sign.1 (List.cons.inj same).1
  · exact fun _ same => no_sign.2 (List.cons.inj same).1

/-- A constant is read as itself, if it is led neither by a bracket nor by a sign. -/
theorem SpellsConstant.spells (constant : SpellsConstant (first :: written) expression)
    (no_bracket : first ≠ '(' ∧ first ≠ '[' ∧ first ≠ '\x7b')
    (no_sign : first ≠ '+' ∧ first ≠ '-') : Spells (first :: written) expression := by
  intro room c rest stop
  have operand (most : Nat) : readSigned .brackets (Literal.readAtom room .brackets) (most + 1)
      (first :: written ++ c :: rest) = some (expression, c :: rest) := by
    rw [List.cons_append, readSigned_of_ne _ _ _ no_sign, ← List.cons_append]
    exact constant.readAtom no_bracket room stop rest
  simp only [readSum, operand]
  exact readFurtherOperands_of_isStop _ _ _ stop rest

/-- A constant behind a minus sign is read as an operand with a sign. -/
theorem SpellsConstant.spells_minus (constant : SpellsConstant (first :: written) expression)
    (no_bracket : first ≠ '(' ∧ first ≠ '[' ∧ first ≠ '\x7b')
    (no_sign : first ≠ '+' ∧ first ≠ '-') (start : IsStart first) :
    Spells ('-' :: first :: written) (.signed true expression) := by
  intro room c rest stop
  have operand (most : Nat) : readSigned .brackets (Literal.readAtom room .brackets) (most + 2)
      ('-' :: first :: written ++ c :: rest) = some (.signed true expression, c :: rest) := by
    show (readSigned .brackets (Literal.readAtom room .brackets) (most + 1)
      (skipInside false (first :: (written ++ c :: rest)))).map _ = _
    rw [skipInside_of_isStart start, readSigned_of_ne _ _ _ no_sign, ← List.cons_append,
      constant.readAtom no_bracket room stop rest]
    rfl
  have enough : ('-' :: first :: written ++ c :: rest).length + 1 =
      (written ++ c :: rest).length + 1 + 2 := rfl
  simp only [readSum, enough, operand]
  exact readFurtherOperands_of_isStop _ _ _ stop rest

/-- The word for the absent value is read as this. -/
theorem spellsConstant_none : SpellsConstant "None".toList (.constant .none) := by
  rintro c rest (rfl | rfl | rfl) <;> rfl

/-- The words for truth values are read as these. -/
theorem spellsConstant_bool (truth : Bool) :
    SpellsConstant (Value.bool truth).literalChars (.constant (.bool truth)) := by
  cases truth <;> rintro c rest (rfl | rfl | rfl) <;> rfl

/-- A decimal digit is a digit in base ten, with its value. -/
theorem digitIn?_of_isDigit {c : Char} (digit : c.isDigit = true) :
    digitIn? 10 c = some (c.toNat - 48) := by
  obtain ⟨least, greatest⟩ : 48 ≤ c.toNat ∧ c.toNat ≤ 57 := Char.isDigit_iff_toNat.mp digit
  have between : '0' ≤ c ∧ c ≤ '9' := ⟨Char.le_def.mpr least, Char.le_def.mpr greatest⟩
  have below : c.toNat - 48 < 10 := by omega
  simp [digitIn?, hexValue?, between, below]

/-- Decimal digits are taken up to what follows a key or a value. -/
theorem takeDigitsOf_append {digits : List Char} (all : ∀ c ∈ digits, c.isDigit = true) {c : Char}
    (stop : IsStop c) (rest : List Char) :
    Numeral.takeDigitsOf (digitIn? 10) (digits ++ c :: rest) =
      (digits.map fun c => c.toNat - 48, c :: rest) := by
  apply Numeral.takeDigitsOf_append (fun _ => digitIn?_of_isDigit) all
  rintro _ ⟨⟩
  rcases stop with rfl | rfl | rfl <;> decide

/-- Digits without a fraction, an exponent and a mark are a whole number. -/
theorem readDecimal?_of_isStop {characters : List Char} {values : List Nat} {c : Char}
    {rest : List Char}
    (taken : Numeral.takeDigitsOf (digitIn? 10) characters = (values, c :: rest))
    (some_digits : values ≠ []) (stop : IsStop c) :
    readDecimal? characters = (wholeNumber? values).map fun value => (value, c :: rest) := by
  have not_empty : values.isEmpty = false := by simp [some_digits]
  rcases stop with rfl | rfl | rfl <;>
    simp [readDecimal?, taken, takeFraction, takeExponent, takeImaginary, not_empty]

/-- The digits of a number are those of the whole number. -/
theorem wholeNumber?_toDigits {number : Nat}
    (short : (Nat.toDigits 10 number).length ≤ Numeral.maxDigits) :
    wholeNumber? ((Nat.toDigits 10 number).map fun c => c.toNat - 48) = some (.int number) := by
  have value := Numeral.valueOf_toDigits number
  by_cases zero : number = 0
  · subst zero
    rfl
  obtain ⟨c, rest, digits, other⟩ := Numeral.head_toDigits (Nat.pos_of_ne_zero zero)
  have digit : c.isDigit = true := by
    apply @Numeral.isDigit_of_mem_toDigits number
    rw [digits]
    exact List.mem_cons_self
  have positive : c.toNat - 48 ≠ 0 := by
    obtain ⟨least, _⟩ : 48 ≤ c.toNat ∧ c.toNat ≤ 57 := Char.isDigit_iff_toNat.mp digit
    intro none_left
    apply other
    apply Char.toNat_inj.mp
    show c.toNat = 48
    omega
  rw [digits] at short value ⊢
  simp only [List.map_cons, List.length_cons] at short value ⊢
  simp [wholeNumber?, positive, Nat.not_lt.mpr short, value]

/-- A whole number that is not negative is read of its digits. -/
theorem readNumeral?_toDigits {number : Nat}
    (short : (Nat.toDigits 10 number).length ≤ Numeral.maxDigits) {c : Char} (stop : IsStop c)
    (rest : List Char) :
    readNumeral? (Nat.toDigits 10 number ++ c :: rest) = some (.int number, c :: rest) := by
  have decimal : readDecimal? (Nat.toDigits 10 number ++ c :: rest) =
      some (.int number, c :: rest) := by
    have taken := takeDigitsOf_append (fun _ => @Numeral.isDigit_of_mem_toDigits number _) stop rest
    rw [readDecimal?_of_isStop taken (by simp) stop, wholeNumber?_toDigits short]
    rfl
  have leading : readLeading? (Nat.toDigits 10 number ++ c :: rest) =
      some (.int number, c :: rest) := by
    rcases Document.toDigits_leading number with zero | other
    · rw [zero] at decimal ⊢
      rcases stop with rfl | rfl | rfl <;> exact decimal
    · rw [readLeading?, decimal]
      intro mark further same
      apply other
      have heads := congrArg List.head? same
      rwa [List.head?_append_of_ne_nil _ Nat.toDigits_ne_nil] at heads
  have no_word : isWordChar c = false := by
    rcases stop with rfl | rfl | rfl <;> decide
  rw [readNumeral?, leading]
  simp [no_word]

/-- Digits are led by a digit. -/
theorem exists_digit_toDigits (number : Nat) :
    ∃ c rest, Nat.toDigits 10 number = c :: rest ∧ c.isDigit = true := by
  obtain ⟨c, rest, digits⟩ := List.exists_cons_of_ne_nil (@Nat.toDigits_ne_nil number 10)
  refine ⟨c, rest, digits, ?_⟩
  apply @Numeral.isDigit_of_mem_toDigits number
  rw [digits]
  exact List.mem_cons_self

/-- The digits of a whole number are read as the number. -/
theorem spellsConstant_toDigits {number : Nat}
    (short : (Nat.toDigits 10 number).length ≤ Numeral.maxDigits) :
    SpellsConstant (Nat.toDigits 10 number) (.constant (.int number)) := by
  intro c rest stop
  have numeral := readNumeral?_toDigits short stop rest
  obtain ⟨first, others, digits, digit⟩ := exists_digit_toDigits number
  rw [digits, List.cons_append] at numeral ⊢
  have no_letter : first.isAlpha = false := by
    obtain ⟨least, greatest⟩ : 48 ≤ first.toNat ∧ first.toNat ≤ 57 :=
      Char.isDigit_iff_toNat.mp digit
    rw [Bool.eq_false_iff]
    intro letter
    simp only [Char.isAlpha, Char.isUpper, Char.isLower, Bool.or_eq_true, Bool.and_eq_true,
      decide_eq_true_eq] at letter
    have above : 65 ≤ first.toNat := by
      rcases letter with ⟨capital, _⟩ | ⟨small, _⟩
      · exact UInt32.le_iff_toNat_le.mp capital
      · exact Nat.le_trans (by decide) (UInt32.le_iff_toNat_le.mp small)
    omega
  have no_text : isQuotedNext (first :: (others ++ c :: rest)) = false := by
    have other (quote : Char) (no_digit : quote.isDigit = false) : first ≠ quote :=
      Document.ne_of_isDigit digit no_digit
    rw [isQuotedNext, List.dropWhile_cons_of_neg (by simp [no_letter])]
    simp [other '\'' rfl, other '"' rfl]
  rw [readConstant.eq_def, if_neg (by simp [no_text])]
  split
  · next same =>
    obtain ⟨rfl, _⟩ := List.cons.inj same
    cases digit
  · next same =>
    obtain ⟨rfl, rfl⟩ := List.cons.inj same
    rw [if_pos (by simp [digit]), numeral]
    rfl
  · next same => cases same

/-- A text is read of its quoted characters. -/
theorem spellsConstant_quoteChars (content : List Char) :
    SpellsConstant (quoteChars content) (.constant (.text (String.ofList content))) := by
  intro c rest stop
  have no_quote (quote : Char) (is_quote : IsQuote quote) : (c :: rest).head? ≠ some quote := by
    rintro ⟨⟩
    rcases is_quote with rfl | rfl <;> rcases stop with stop | stop | stop <;> cases stop
  have quoted : isQuotedNext (quoteChars content ++ c :: rest) = true := by
    have is_quote := isQuote_chooseQuote (content.contains '\'') (content.contains '"')
    rw [quoteChars]
    generalize chooseQuote (content.contains '\'') (content.contains '"') = quote at is_quote ⊢
    rcases is_quote with rfl | rfl <;> rfl
  have no_further : readFurtherTexts .brackets ((c :: rest).length + 1)
      (.text (String.ofList content)) (c :: rest) =
        some (.text (String.ofList content), c :: rest) := by
    have no_text : isQuotedNext (c :: rest) = false := by
      rcases stop with rfl | rfl | rfl <;> rfl
    simp only [readFurtherTexts, Surroundings.skip, skipInside_of_isStart stop.isStart, no_text,
      Bool.false_eq_true, if_false]
  rw [readConstant.eq_def, if_pos quoted, readTexts, readQuoted?_quoteChars content no_quote]
  simp only [no_further]
  rfl

/-- The expression that the literal of a value without parts is read as: a negative number has a
sign. -/
def constantOf : Value → Expression
  | .int number =>
    if number < 0 then .signed true (.constant (.int number.natAbs)) else .constant (.int number)
  | value => .constant value

/-- The expression of a value has this value. -/
theorem evaluate_constantOf (value : Value) : evaluate (constantOf value) = .ok value := by
  unfold constantOf
  split
  · next number =>
    split
    · next negative =>
      have opposite : -(number.natAbs : Int) = number := by omega
      rw [evaluate]
      show Except.ok (Value.int (-(number.natAbs : Int))) = _
      rw [opposite]
    · rw [evaluate]
  · rw [evaluate]

/-- A value without parts is read of its literal. -/
theorem spells_literalChars {value : Value} (scalar : value.IsScalar) :
    Spells value.literalChars (constantOf value) := by
  cases scalar with
  | absent => exact spellsConstant_none.spells (by decide) (by decide)
  | truth truth =>
    have constant := spellsConstant_bool truth
    cases truth with
    | false => exact constant.spells (by decide) (by decide)
    | true => exact constant.spells (by decide) (by decide)
  | @whole number printable =>
    have constant := spellsConstant_toDigits (Numeral.length_toDigits_le printable)
    obtain ⟨first, others, digits, digit⟩ := exists_digit_toDigits number.natAbs
    have other (c : Char) (no_digit : c.isDigit = false) : first ≠ c :=
      Document.ne_of_isDigit digit no_digit
    have no_bracket : first ≠ '(' ∧ first ≠ '[' ∧ first ≠ '\x7b' :=
      ⟨other _ rfl, other _ rfl, other _ rfl⟩
    have no_sign : first ≠ '+' ∧ first ≠ '-' := ⟨other _ rfl, other _ rfl⟩
    show Spells (Value.intChars number) (constantOf (.int number))
    rw [Value.intChars, constantOf]
    simp only [digits] at constant ⊢
    split
    · exact constant.spells_minus no_bracket no_sign (isStart_of_isDigit digit)
    · have same : (number.natAbs : Int) = number := by omega
      rw [same] at constant
      exact constant.spells no_bracket no_sign
  | text content =>
    have constant := spellsConstant_quoteChars content.toList
    have is_quote := isQuote_chooseQuote (content.toList.contains '\'')
      (content.toList.contains '"')
    rw [String.ofList_toList, quoteChars] at constant
    show Spells (quoteChars content.toList) (.constant (.text content))
    rw [quoteChars]
    generalize chooseQuote (content.toList.contains '\'') (content.toList.contains '"') = quote
      at is_quote constant ⊢
    rcases is_quote with rfl | rfl <;> exact constant.spells (by decide) (by decide)

/-- The literal of a value without parts begins with a character that is left out nowhere. -/
theorem exists_literalChars_eq_cons {value : Value} (scalar : value.IsScalar) :
    ∃ first others, value.literalChars = first :: others ∧ IsStart first := by
  cases scalar with
  | absent => exact ⟨'N', _, rfl, by decide, by decide, rfl, by decide⟩
  | truth truth =>
    cases truth
    · exact ⟨'F', _, rfl, by decide, by decide, rfl, by decide⟩
    · exact ⟨'T', _, rfl, by decide, by decide, rfl, by decide⟩
  | @whole number printable =>
    obtain ⟨first, others, digits, digit⟩ := exists_digit_toDigits number.natAbs
    show ∃ first others, Value.intChars number = first :: others ∧ IsStart first
    rw [Value.intChars]
    simp only [digits]
    split
    · exact ⟨'-', _, rfl, by decide, by decide, rfl, by decide⟩
    · exact ⟨first, others, rfl, isStart_of_isDigit digit⟩
  | text content =>
    have is_quote := isQuote_chooseQuote (content.toList.contains '\'')
      (content.toList.contains '"')
    show ∃ first others, quoteChars content.toList = first :: others ∧ IsStart first
    rw [quoteChars]
    generalize chooseQuote (content.toList.contains '\'') (content.toList.contains '"') = quote
      at is_quote ⊢
    refine ⟨quote, _, rfl, ?_⟩
    rcases is_quote with rfl | rfl <;> exact ⟨by decide, by decide, rfl, by decide⟩

end Literal

end ChunkCodecs
