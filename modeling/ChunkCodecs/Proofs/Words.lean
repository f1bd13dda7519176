import ChunkCodecs.Proofs.Number.Spelled
import ChunkCodecs.Proofs.Spelling

/-!
# Truth values that are numerals

Of the words for true and false, in any case of letters, only the two digits are numerals as well:
a numeral begins with a digit, a point or a sign, or it is one of three other words.
-/

namespace ChunkCodecs

namespace Text

/-- What the lower case of a character begins with: the one letter that it is, or one of the two
letters that characters other than capitals stand for. -/
theorem exists_lowerChar (c : Char) :
    ∃ letter more, lowerChar c = letter :: more ∧
      (letter = c.toLower ∧ more = [] ∨ letter = 'k' ∨ letter = 'i') := by
  rw [lowerChar]
  split
  · exact ⟨_, _, rfl, .inr (.inl rfl)⟩
  · split
    · exact ⟨_, _, rfl, .inr (.inr rfl)⟩
    · exact ⟨_, _, rfl, .inl ⟨rfl, rfl⟩⟩

/-- No character is lost in lower case. -/
theorem length_le_lower (characters : List Char) :
    characters.length ≤ (characters.flatMap lowerChar).length := by
  induction characters with
  | nil => exact Nat.le_refl 0
  | cons c rest inductionHypothesis =>
    obtain ⟨letter, more, lowered, _⟩ := exists_lowerChar c
    rw [List.flatMap_cons, lowered, List.length_append, List.length_cons, List.length_cons]
    omega

/-- Characters whose lower case begins with a letter begin with one that has this lower case, if
nothing but capitals has it. -/
theorem exists_cons_of_lower {characters letters : List Char} {letter : Char}
    (lowered : characters.flatMap lowerChar = letter :: letters)
    (plain : letter ≠ 'k' ∧ letter ≠ 'i') :
    ∃ c rest, characters = c :: rest ∧ c.toLower = letter ∧ rest.flatMap lowerChar = letters := by
  cases characters with
  | nil => cases lowered
  | cons c rest =>
    obtain ⟨first, more, shown, which⟩ := exists_lowerChar c
    rw [List.flatMap_cons, shown] at lowered
    obtain ⟨rfl, remaining⟩ := List.cons.inj lowered
    obtain ⟨same, rfl⟩ | isK | isI := which
    · exact ⟨c, rest, rfl, same.symm, remaining⟩
    · exact absurd isK plain.1
    · exact absurd isI plain.2

/-- What is no small letter is the lower case of itself alone. -/
theorem eq_of_toLower {c other : Char} (lower : c.toLower = other) (small : other.toNat < 97) :
    c = other := by
  by_cases capital : c.val ≥ 'A'.val ∧ c.val ≤ 'Z'.val
  · have least : 65 ≤ c.toNat := UInt32.le_iff_toNat_le.mp capital.1
    have greatest : c.toNat ≤ 90 := UInt32.le_iff_toNat_le.mp capital.2
    have letters : ∀ code : Fin 26, 97 ≤ (Char.ofNat (code.val + 65)).toLower.toNat := by decide
    have letter := letters ⟨c.toNat - 65, by omega⟩
    simp only [Nat.sub_add_cancel least, Char.ofNat_toNat, lower] at letter
    omega
  · have same : c.toLower = c := dif_neg capital
    exact same.symm.trans lower

/-- What is shown as one character in lower case that is no letter is this character. -/
theorem eq_singleton_of_lower {characters : List Char} {other : Char}
    (lowered : characters.flatMap lowerChar = [other]) (small : other.toNat < 97) :
    characters = [other] := by
  have no_capital : other ≠ 'k' ∧ other ≠ 'i' := by
    constructor
    · rintro rfl
      exact absurd small (by decide)
    · rintro rfl
      exact absurd small (by decide)
  obtain ⟨c, rest, rfl, lower, remaining⟩ := exists_cons_of_lower lowered no_capital
  have few := length_le_lower rest
  rw [remaining] at few
  rw [List.eq_nil_of_length_eq_zero (Nat.le_zero.mp few), eq_of_toLower lower small]

end Text

namespace Numeral

/-- What begins with a letter is no numeral unless it is one of three words. -/
theorem readDouble?_of_letter {c : Char} {rest : List Char}
    (plain : c ≠ '-' ∧ c ≠ '+' ∧ c ≠ '.') (no_digit : Text.digitValue? c = none)
    (no_word : String.ofList ((c :: rest).map Char.toLower) ∉ ["inf", "infinity", "nan"]) :
    readDouble? (c :: rest) = none := by
  obtain ⟨no_minus, no_plus, no_point⟩ := plain
  have unsigned : takeSign (c :: rest) = (false, c :: rest) := by
    rw [takeSign]
    · rintro others ⟨rfl, _⟩
      exact no_minus rfl
    · rintro others ⟨rfl, _⟩
      exact no_plus rfl
  have no_digits : takeDigits (c :: rest) = ([], c :: rest) := by
    simp only [takeDigits, takeDigitsOf, no_digit]
  have no_fraction : takeFraction (c :: rest) = ([], c :: rest) := by
    rw [takeFraction]
    rintro others ⟨rfl, _⟩
    exact no_point rfl
  simp only [List.mem_cons, List.not_mem_nil, or_false, not_or] at no_word
  obtain ⟨no_inf, no_infinity, no_nan⟩ := no_word
  simp only [readDouble?, unsigned, no_inf, no_infinity, no_nan, decide_false, Bool.or_false,
    Bool.false_eq_true, if_false, readDecimal?_eq, no_digits, no_fraction]
  rfl

end Numeral

namespace Parameter

/-- What a letter begins in lower case is no numeral, if no number is spelled with this letter or
the word is shorter than the one that it begins. -/
theorem readDouble?_of_lower {characters letters : List Char} {letter : Char}
    (lowered : characters.flatMap Text.lowerChar = letter :: letters)
    (is_letter : 97 ≤ letter.toNat ∧ Text.digitValue? letter = none)
    (no_capital : letter ≠ 'k' ∧ letter ≠ 'i') (short : letter = 'n' → letters.length < 2) :
    Numeral.readDouble? characters = none := by
  obtain ⟨c, rest, rfl, lower, remaining⟩ := Text.exists_cons_of_lower lowered no_capital
  have apart {other : Char} (same : other.toLower = other) (small : other.toNat < 97) :
      c ≠ other := by
    rintro rfl
    rw [← lower, same] at is_letter
    omega
  apply Numeral.readDouble?_of_letter
  · exact ⟨apart rfl (by decide), apart rfl (by decide), apart rfl (by decide)⟩
  · cases digit : Text.digitValue? c with
    | none => rfl
    | some value =>
      rw [Numeral.toLower_of_digit digit] at lower
      rw [← lower] at is_letter
      cases digit.symm.trans is_letter.2
  · have few := Text.length_le_lower rest
    rw [remaining] at few
    simp only [List.mem_cons, List.not_mem_nil, or_false, List.map_cons, lower, not_or]
    have head {word : String} {first : Char} {others : List Char}
        (spelled : word.toList = first :: others)
        (same : String.ofList (letter :: rest.map Char.toLower) = word) :
        letter = first ∧ rest.length = others.length := by
      have listed := congrArg String.toList same
      rw [String.toList_ofList, spelled] at listed
      obtain ⟨first_same, rest_same⟩ := List.cons.inj listed
      exact ⟨first_same, by rw [← rest_same, List.length_map]⟩
    refine ⟨fun same => ?_, fun same => ?_, fun same => ?_⟩
    · exact no_capital.2 (head rfl same).1
    · exact no_capital.2 (head rfl same).1
    · have fewer := short (head rfl same).1
      have two := (@head "nan" 'n' ['a', 'n'] rfl same).2
      rw [List.length_cons, List.length_singleton] at two
      omega

/-- A text for a truth value is a numeral as well exactly if it is one of the two digits. -/
theorem truth_isNumeral_iff (token : String) :
    (truthOfText? token).isSome = true ∧
        (Numeral.readDouble? (Text.trimChars token.toList)).isSome = true ↔
      Text.trim token = "0" ∨ Text.trim token = "1" := by
  have is_text (characters : List Char) (text : String) :
      String.ofList characters = text ↔ characters = text.toList := by
    constructor
    · rintro rfl
      exact String.toList_ofList.symm
    · rintro rfl
      exact String.ofList_toList
  have lowered (word : String) : Text.lower (Text.trim token) = word ↔
      (Text.trimChars token.toList).flatMap Text.lowerChar = word.toList := by
    rw [Text.lower, Text.trim, String.toList_ofList, is_text]
  rw [Text.trim, is_text, is_text]
  constructor
  · rintro ⟨truth, numeral⟩
    have word : Text.lower (Text.trim token) ∈ wordsForTrue ++ wordsForFalse := by
      rw [List.mem_append, ← List.contains_iff_mem, ← List.contains_iff_mem]
      by_contra other
      obtain ⟨not_true, not_false⟩ := not_or.mp other
      simp only [truthOfText?, not_true, not_false] at truth
      cases truth
    have no_word {letter : Char} {letters : List Char}
        (spelled : (Text.trimChars token.toList).flatMap Text.lowerChar = letter :: letters)
        (is_letter : 97 ≤ letter.toNat ∧ Text.digitValue? letter = none)
        (no_capital : letter ≠ 'k' ∧ letter ≠ 'i') (short : letter = 'n' → letters.length < 2) :
        False := by
      rw [readDouble?_of_lower spelled is_letter no_capital short] at numeral
      cases numeral
    have digit {other : Char} (spelled : Text.lower (Text.trim token) = String.singleton other)
        (small : other.toNat < 97) : Text.trimChars token.toList = [other] := by
      rw [lowered, String.toList_singleton] at spelled
      exact Text.eq_singleton_of_lower spelled small
    simp only [wordsForTrue, wordsForFalse, List.cons_append, List.nil_append, List.mem_cons,
      List.not_mem_nil, or_false] at word
    rcases word with word | word | word | one | word | word | word | zero
    case inr.inr.inr.inl => exact .inr (digit one (by decide))
    case inr.inr.inr.inr.inr.inr.inr => exact .inl (digit zero (by decide))
    all_goals exact (no_word ((lowered _).mp word) (by decide) (by decide) (by decide)).elim
  · rintro (zero | one)
    · rw [truthOfText?, Text.trim, zero]
      decide
    · rw [truthOfText?, Text.trim, one]
      decide

end Parameter

end ChunkCodecs
