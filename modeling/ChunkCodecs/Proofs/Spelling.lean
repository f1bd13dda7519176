import ChunkCodecs.Proofs.Refusals
import Mathlib.Data.List.Basic

/-!
# Numbers in texts

A whole number or a truth value that is shown in a text, with blanks around it, is read of the
text as it is read itself, by the readers of whole numbers and by those of truth values.
-/

namespace ChunkCodecs

namespace Text

/-- A text of nothing but blanks. -/
def IsBlankText (text : String) : Prop := ∀ c ∈ text.toList, isBlank c = true

instance (text : String) : Decidable (IsBlankText text) :=
  decidable_of_iff (text.toList.all isBlank = true) List.all_eq_true

/-- Blanks are dropped up to a character that is none. -/
theorem dropWhile_isBlank_append {blanks characters : List Char}
    (blank : ∀ c ∈ blanks, isBlank c = true)
    (plain : ∀ c, characters.head? = some c → isBlank c = false) :
    (blanks ++ characters).dropWhile isBlank = characters := by
  rw [List.dropWhile_append_of_pos blank]
  cases characters with
  | nil => rfl
  | cons c rest => exact List.dropWhile_cons_of_neg (by simp [plain c rfl])

/-- Blanks around characters are trimmed away, if no blank is the first or the last of these. -/
theorem trimChars_around {before characters after : List Char}
    (leading : ∀ c ∈ before, isBlank c = true) (trailing : ∀ c ∈ after, isBlank c = true)
    (first : ∀ c, (characters ++ after).head? = some c → isBlank c = false)
    (last : ∀ c, characters.reverse.head? = some c → isBlank c = false) :
    trimChars (before ++ characters ++ after) = characters := by
  have blank : ∀ c ∈ after.reverse, isBlank c = true :=
    fun c member => trailing c (List.mem_reverse.mp member)
  rw [trimChars, List.append_assoc, dropWhile_isBlank_append leading first, List.reverse_append,
    dropWhile_isBlank_append blank last, List.reverse_reverse]

/-- Blanks around characters that are none are trimmed away. -/
theorem trimChars_padded {before characters after : List Char}
    (leading : ∀ c ∈ before, isBlank c = true) (trailing : ∀ c ∈ after, isBlank c = true)
    (some_characters : characters ≠ []) (plain : ∀ c ∈ characters, isBlank c = false) :
    trimChars (before ++ characters ++ after) = characters := by
  apply trimChars_around leading trailing
  · intro c head
    obtain ⟨leader, rest, rfl⟩ := List.exists_cons_of_ne_nil some_characters
    obtain rfl := Option.some.inj head
    exact plain leader List.mem_cons_self
  · intro c head
    exact plain c (List.mem_reverse.mp (List.mem_of_head? head))

/-- A decimal digit is not blank. -/
theorem isBlank_of_isDigit {c : Char} (digit : c.isDigit = true) : isBlank c = false := by
  have bounds : 48 ≤ c.toNat ∧ c.toNat ≤ 57 := Char.isDigit_iff_toNat.mp digit
  simp only [isBlank, Bool.or_eq_false_iff, Bool.and_eq_false_iff, decide_eq_false_iff_not,
    beq_eq_false_iff_ne]
  omega

/-- A decimal digit is its own lower case. -/
theorem lowerChar_of_isDigit {c : Char} (digit : c.isDigit = true) : lowerChar c = [c] := by
  have bounds : 48 ≤ c.toNat ∧ c.toNat ≤ 57 := Char.isDigit_iff_toNat.mp digit
  have lower : c.toLower = c := by
    apply dif_neg
    rintro ⟨capital, _⟩
    have above : 65 ≤ c.toNat := UInt32.le_iff_toNat_le.mp capital
    omega
  rw [lowerChar, if_neg (by omega), if_neg (by omega), lower]

end Text

namespace Value

/-- The value is shown in the text, with blanks around it. -/
def IsShownIn (value : Value) (text : String) : Prop :=
  ∃ before after, Text.IsBlankText before ∧ Text.IsBlankText after ∧
    text = before ++ value.display ++ after

variable {text : String}

/-- A value that is shown without blanks is all that is left of a text that it is shown in. -/
theorem trimChars_of_isShownIn {value : Value} (shown : value.IsShownIn text)
    (some_characters : value.display.toList ≠ [])
    (plain : ∀ c ∈ value.display.toList, Text.isBlank c = false) :
    Text.trimChars text.toList = value.display.toList := by
  obtain ⟨before, after, leading, trailing, rfl⟩ := shown
  rw [String.toList_append, String.toList_append]
  exact Text.trimChars_padded leading trailing some_characters plain

/-- The characters of a whole number are digits and a minus sign. -/
theorem isDigit_of_mem_intChars {number : Int} {c : Char} (member : c ∈ intChars number) :
    c = '-' ∨ c.isDigit = true := by
  simp only [intChars] at member
  split at member
  · rcases List.mem_cons.mp member with minus | digit
    · exact .inl minus
    · exact .inr (Numeral.isDigit_of_mem_toDigits digit)
  · exact .inr (Numeral.isDigit_of_mem_toDigits member)

/-- What is left of a text that a whole number is shown in are the characters of the number. -/
theorem trimChars_of_int_isShownIn {number : Int} (shown : (int number).IsShownIn text) :
    Text.trimChars text.toList = intChars number := by
  have display : (int number).display.toList = intChars number := String.toList_ofList
  rw [trimChars_of_isShownIn shown, display]
  · rw [display, intChars]
    split
    · exact List.cons_ne_nil _ _
    · exact Nat.toDigits_ne_nil
  · intro c member
    rw [display] at member
    rcases isDigit_of_mem_intChars member with rfl | digit
    · rfl
    · exact Text.isBlank_of_isDigit digit

/-- What is left of a text that a truth value is shown in is its word. -/
theorem trimChars_of_bool_isShownIn {truth : Bool} (shown : (bool truth).IsShownIn text) :
    Text.trimChars text.toList = (if truth then "True" else "False").toList := by
  have display : (bool truth).display = if truth then "True" else "False" := by cases truth <;> rfl
  have plain : ((bool truth).display.toList.all fun c => !Text.isBlank c) = true := by
    cases truth <;> rfl
  have some_characters : (bool truth).display.toList ≠ [] := by
    rw [display]
    cases truth <;> decide
  rw [trimChars_of_isShownIn shown some_characters, display]
  intro c member
  simpa using List.all_eq_true.mp plain c member

end Value

namespace Parameter

variable {text : String}

/-- A whole number is read of a text that it is shown in. -/
theorem intOfText?_of_int {number : Int} (printable : Value.intIsPrintable number = true)
    (shown : (Value.int number).IsShownIn text) : intOfText? text = some number := by
  rw [intOfText?, Value.trimChars_of_int_isShownIn shown, Numeral.readInt?_intChars printable]

/-- No whole number is read of a text that a truth value is shown in. -/
theorem intOfText?_of_bool {truth : Bool} (shown : (Value.bool truth).IsShownIn text) :
    intOfText? text = none := by
  rw [intOfText?, Value.trimChars_of_bool_isShownIn shown]
  cases truth <;> rfl

/-- A truth value is read of a text that a whole number is shown in as it is read of the number. -/
theorem truthOfText?_of_int {number : Int} (printable : Value.intIsPrintable number = true)
    (shown : (Value.int number).IsShownIn text) : truthOfText? text = truthOfInt? number := by
  have lowered : Text.lower (String.ofList (Value.intChars number)) =
      String.ofList (Value.intChars number) := by
    have same (c : Char) (member : c ∈ Value.intChars number) : Text.lowerChar c = [c] := by
      rcases Value.isDigit_of_mem_intChars member with rfl | digit
      · rfl
      · exact Text.lowerChar_of_isDigit digit
    rw [Text.lower, String.toList_ofList, List.flatMap_congr same, List.flatMap_singleton']
  have apart {word : String} (other : Numeral.readInt? word.toList ≠ some number) :
      String.ofList (Value.intChars number) ≠ word := by
    rintro rfl
    rw [String.toList_ofList] at other
    exact other (Numeral.readInt?_intChars printable)
  rw [truthOfText?, Text.trim, Value.trimChars_of_int_isShownIn shown, lowered, truthOfInt?]
  by_cases zero : number = 0
  · rw [zero]
    decide
  · by_cases one : number = 1
    · rw [one]
      decide
    · have not_one := @apart "1" fun same => one (Option.some.inj same).symm
      have not_zero := @apart "0" fun same => zero (Option.some.inj same).symm
      have not_word {word : String} (no_numeral : Numeral.readInt? word.toList = none) :
          String.ofList (Value.intChars number) ≠ word :=
        apart (no_numeral.symm ▸ (Option.some_ne_none number).symm)
      simp [wordsForTrue, wordsForFalse, zero, one, not_one, not_zero, @not_word "true" rfl,
        @not_word "yes" rfl, @not_word "on" rfl, @not_word "false" rfl, @not_word "no" rfl,
        @not_word "off" rfl]

/-- A truth value is read of a text that it is shown in. -/
theorem truthOfText?_of_bool {truth : Bool} (shown : (Value.bool truth).IsShownIn text) :
    truthOfText? text = some truth := by
  rw [truthOfText?, Text.trim, Value.trimChars_of_bool_isShownIn shown]
  cases truth <;> rfl

end Parameter

end ChunkCodecs
