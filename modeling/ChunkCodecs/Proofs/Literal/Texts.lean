import ChunkCodecs.Literal.Text
import ChunkCodecs.Text.Quoted

/-!
# Texts in literals read back

A text that is shown between quotes is read back from them as it is. A character is spelled by
itself, by a letter after a backslash, or by its code in as many digits as a letter says; a quote is
spelled so only if it is the one around the text, and every other character that could end the text
is never spelled by itself.
-/

namespace ChunkCodecs

open Text

namespace Literal

/-- The letter in front of a code, and the count of its digits. -/
inductive IsCodeMark : Char → Nat → Prop where
  /-- A code of two digits. -/
  | two : IsCodeMark 'x' 2
  /-- A code of four digits. -/
  | four : IsCodeMark 'u' 4
  /-- A code of eight digits. -/
  | eight : IsCodeMark 'U' 8

/-- The ways to spell a character between the given quotes. -/
inductive Spelling (quote c : Char) : List Char → Prop where
  /-- The quote or the backslash behind a backslash. -/
  | mark (is_mark : c = quote ∨ c = '\\') : Spelling quote c ['\\', c]
  /-- A letter for a line feed, a carriage return or a tab. -/
  | control {letter : Char}
      (known : (letter, c) ∈ [('n', '\n'), ('r', '\r'), ('t', '\t')]) :
      Spelling quote c ['\\', letter]
  /-- The character itself. -/
  | itself (no_quote : c ≠ quote) (no_backslash : c ≠ '\\') (printable : isPrintable c = true) :
      Spelling quote c [c]
  /-- Its code. -/
  | code {letter : Char} {width : Nat} (marked : IsCodeMark letter width)
      (fits : c.toNat < 16 ^ width) : Spelling quote c ('\\' :: letter :: hexDigits width c.toNat)

/-- A character is spelled in one of the ways. -/
theorem spelling_quoteChar (quote c : Char) : Spelling quote c (quoteChar quote c) := by
  unfold quoteChar
  split
  · rename_i marks
    simp only [Bool.or_eq_true, decide_eq_true_eq] at marks
    exact .mark marks
  rename_i no_mark
  simp only [Bool.or_eq_true, decide_eq_true_eq, not_or] at no_mark
  -- the control characters that have a letter of their own
  iterate 3
    split
    · rename_i same
      rw [same]
      exact .control (by decide)
  split
  · rename_i printable
    exact .itself no_mark.1 no_mark.2 printable
  split
  · rename_i small
    exact .code .two small
  split
  · rename_i small
    exact .code .four small
  · have valid : c.toNat < 0xD800 ∨ 0xDFFF < c.toNat ∧ c.toNat < 0x110000 := c.valid
    exact .code .eight (by omega)

/-- A quote that is put around texts. -/
def IsQuote (quote : Char) : Prop := quote = '\'' ∨ quote = '"'

instance (quote : Char) : Decidable (IsQuote quote) := inferInstanceAs (Decidable (_ ∨ _))

/-- A text is put between quotes. -/
theorem isQuote_chooseQuote (hasSingle hasDouble : Bool) :
    IsQuote (chooseQuote hasSingle hasDouble) := by
  cases hasSingle <;> cases hasDouble <;> decide

/-- A hexadecimal digit is one of sixteen characters. -/
theorem exists_digit_of_mem_hexDigits {width number : Nat} {c : Char}
    (member : c ∈ hexDigits width number) : ∃ digit : Fin 16, c = Nat.digitChar digit.val := by
  induction width generalizing number with
  | zero => cases member
  | succ width inductionHypothesis =>
    rcases List.mem_append.mp member with early | last
    · exact inductionHypothesis early
    · exact ⟨⟨number % 16, Nat.mod_lt _ (by decide)⟩, List.mem_singleton.mp last⟩

/-- A character that neither ends a text between the given quotes nor escapes another one. -/
structure IsInner (quote c : Char) : Prop where
  /-- It is no backslash. -/
  no_backslash : c ≠ '\\'
  /-- It is another one than the quote. -/
  no_quote : c ≠ quote
  /-- It ends no line. -/
  no_line_end : c ≠ '\n'

/-- Hexadecimal digits are inside a text. -/
theorem isInner_of_mem_hexDigits {quote : Char} (is_quote : IsQuote quote) {width number : Nat}
    {c : Char} (member : c ∈ hexDigits width number) : IsInner quote c := by
  obtain ⟨digit, rfl⟩ := exists_digit_of_mem_hexDigits member
  have all : ∀ digit : Fin 16, Nat.digitChar digit.val ≠ '\\' ∧ Nat.digitChar digit.val ≠ '\'' ∧
      Nat.digitChar digit.val ≠ '"' ∧ Nat.digitChar digit.val ≠ '\n' := by decide
  obtain ⟨no_backslash, no_single, no_double, no_line_end⟩ := all digit
  refine ⟨no_backslash, ?_, no_line_end⟩
  rcases is_quote with rfl | rfl
  · exact no_single
  · exact no_double

section

variable {quote : Char} {rest : List Char}

/-- A backslash takes the next character with it. -/
theorem takeInside_backslash (closing : List Char) (c : Char) (rest : List Char) :
    takeInside closing ('\\' :: c :: rest) =
      (takeInside closing rest).map fun found => ('\\' :: c :: found.1, found.2) := by
  rw [takeInside]

/-- A text goes on behind characters inside it. -/
theorem takeInside_append {inside : List Char} (inner : ∀ c ∈ inside, IsInner quote c) :
    takeInside [quote] (inside ++ rest) =
      (takeInside [quote] rest).map fun found => (inside ++ found.1, found.2) := by
  induction inside with
  | nil => simp
  | cons c others inductionHypothesis =>
    obtain ⟨⟨no_backslash, no_quote, no_line_end⟩, further⟩ := List.forall_mem_cons.mp inner
    have no_end : [quote].isPrefixOf (c :: (others ++ rest)) = false := by
      simp [List.isPrefixOf, Ne.symm no_quote]
    rw [List.cons_append, takeInside, if_neg (by simp [no_end]), if_neg (by simp [no_line_end])]
    · rw [inductionHypothesis further, Option.map_map]
      rfl
    · exact fun _ _ backslash _ => no_backslash backslash

/-- A text ends at the quote. -/
theorem takeInside_quote (is_quote : IsQuote quote) (rest : List Char) :
    takeInside [quote] (quote :: rest) = some ([], rest) := by
  have no_backslash : quote ≠ '\\' := by
    rcases is_quote with rfl | rfl <;> decide
  rw [takeInside]
  · simp
  · exact fun _ _ backslash _ => no_backslash backslash

/-- A text goes on behind the spelling of a character. -/
theorem takeInside_quoteChar (is_quote : IsQuote quote) (c : Char) (rest : List Char) :
    takeInside [quote] (quoteChar quote c ++ rest) =
      (takeInside [quote] rest).map fun found => (quoteChar quote c ++ found.1, found.2) := by
  have spelling := spelling_quoteChar quote c
  generalize quoteChar quote c = spelled at spelling ⊢
  cases spelling with
  | mark => exact takeInside_backslash [quote] c rest
  | control => exact takeInside_backslash [quote] _ rest
  | itself no_quote no_backslash printable =>
    have no_line_end : c ≠ '\n' := by
      rintro rfl
      cases printable
    exact takeInside_append (List.forall_mem_singleton.mpr ⟨no_backslash, no_quote, no_line_end⟩)
  | code =>
    rename_i letter width _ _
    have digits := fun d => @isInner_of_mem_hexDigits quote is_quote width c.toNat d
    rw [List.cons_append, List.cons_append, takeInside_backslash, takeInside_append digits,
      Option.map_map]
    rfl

/-- A text ends behind the spellings of its characters. -/
theorem takeInside_spelled (is_quote : IsQuote quote) (content rest : List Char) :
    takeInside [quote] (content.flatMap (quoteChar quote) ++ quote :: rest) =
      some (content.flatMap (quoteChar quote), rest) := by
  induction content with
  | nil => exact takeInside_quote is_quote rest
  | cons c others inductionHypothesis =>
    rw [List.flatMap_cons, List.append_assoc, takeInside_quoteChar is_quote, inductionHypothesis]
    rfl

/-- The spelling of a character does not begin with the quote. -/
theorem exists_quoteChar_eq_cons (is_quote : IsQuote quote) (c : Char) :
    ∃ first others, quoteChar quote c = first :: others ∧ first ≠ quote := by
  have no_backslash : '\\' ≠ quote := by
    rcases is_quote with rfl | rfl <;> decide
  have spelling := spelling_quoteChar quote c
  generalize quoteChar quote c = spelled at spelling ⊢
  cases spelling with
  | mark => exact ⟨_, _, rfl, no_backslash⟩
  | control => exact ⟨_, _, rfl, no_backslash⟩
  | itself no_quote => exact ⟨_, _, rfl, no_quote⟩
  | code => exact ⟨_, _, rfl, no_backslash⟩

/-- A text between quotes is taken up to its end, if no quote follows it. -/
theorem takeQuoted_spelled (is_quote : IsQuote quote) (content : List Char)
    (no_quote : rest.head? ≠ some quote) :
    takeQuoted (quote :: (content.flatMap (quoteChar quote) ++ quote :: rest)) =
      some (content.flatMap (quoteChar quote), rest) := by
  have single : [quote, quote].isPrefixOf
      (content.flatMap (quoteChar quote) ++ quote :: rest) = false := by
    cases content with
    | nil =>
      cases rest with
      | nil => simp
      | cons c others =>
        have other : quote ≠ c := by
          rintro rfl
          exact no_quote rfl
        simp [List.isPrefixOf, other]
    | cons c others =>
      obtain ⟨first, further, spelled, other⟩ := exists_quoteChar_eq_cons is_quote c
      simp [List.isPrefixOf, spelled, Ne.symm other]
  rw [takeQuoted]
  simp only [single, Bool.false_eq_true, if_false]
  exact takeInside_spelled is_quote content rest

end

variable {meaning? : List Char → Option (List Char × Nat)}

/-- Characters that an escape has taken are skipped. -/
theorem unescape_skip (taken rest : List Char) :
    unescape meaning? taken.length (taken ++ rest) = unescape meaning? 0 rest := by
  induction taken with
  | nil => rfl
  | cons c others inductionHypothesis =>
    rw [List.cons_append, List.length_cons, unescape, inductionHypothesis]

/-- An escape is replaced by what it means. -/
theorem unescape_escape {taken rest meant : List Char}
    (known : meaning? (taken ++ rest) = some (meant, taken.length)) :
    unescape meaning? 0 ('\\' :: (taken ++ rest)) =
      (unescape meaning? 0 rest).map (meant ++ ·) := by
  rw [unescape, if_pos rfl]
  simp only [known, unescape_skip]

/-- The meaning of a letter after a backslash. -/
theorem textMeaning?_letter {letter c : Char} (known : letterMeaning? letter = some c)
    (rest : List Char) : textMeaning? (letter :: rest) = some ([c], 1) := by
  unfold letterMeaning? at known
  split at known
  case h_11 => cases known
  all_goals
    cases known
    rfl

/-- The meaning of a code of a character. -/
theorem textMeaning?_code {letter c : Char} {width : Nat} (marked : IsCodeMark letter width)
    (fits : c.toNat < 16 ^ width) (rest : List Char) :
    textMeaning? (letter :: (hexDigits width c.toNat ++ rest)) = some ([c], width + 1) := by
  have valid : c.toNat < 0xD800 ∨ 0xDFFF < c.toNat ∧ c.toNat < 0x110000 := c.valid
  have number : hexNumber? (hexDigits width c.toNat) = some c.toNat := by
    rw [hexNumber?_hexDigits, Nat.mod_eq_of_lt fits]
  have enough : ¬ (hexDigits width c.toNat ++ rest).length < width := by
    rw [List.length_append, length_hexDigits]
    omega
  have digits : (hexDigits width c.toNat ++ rest).take width = hexDigits width c.toNat :=
    List.take_left' (length_hexDigits width c.toNat)
  have meaning : codeMeaning? width (hexDigits width c.toNat ++ rest) = some ([c], width + 1) := by
    rw [codeMeaning?, if_neg enough, digits]
    simp only [number]
    rw [if_pos (by omega), charOfCode_toNat]
  cases marked <;> exact meaning

/-- The spelling of a character means the character. -/
theorem unescape_quoteChar {quote : Char} (is_quote : IsQuote quote) (c : Char) (rest : List Char) :
    unescape textMeaning? 0 (quoteChar quote c ++ rest) =
      (unescape textMeaning? 0 rest).map (c :: ·) := by
  have spelling := spelling_quoteChar quote c
  generalize quoteChar quote c = spelled at spelling ⊢
  cases spelling with
  | mark is_mark =>
    have known : letterMeaning? c = some c := by
      rcases is_mark with rfl | rfl
      · rcases is_quote with rfl | rfl <;> rfl
      · rfl
    exact @unescape_escape textMeaning? [c] rest [c] (textMeaning?_letter known rest)
  | control known =>
    rename_i letter
    have meant : letterMeaning? letter = some c := by
      simp only [List.mem_cons, Prod.mk.injEq, List.not_mem_nil, or_false] at known
      rcases known with ⟨rfl, rfl⟩ | ⟨rfl, rfl⟩ | ⟨rfl, rfl⟩ <;> rfl
    exact @unescape_escape textMeaning? [letter] rest [c] (textMeaning?_letter meant rest)
  | itself _ no_backslash _ =>
    rw [List.singleton_append, unescape, if_neg no_backslash]
  | code marked fits =>
    rename_i letter width
    have meaning := textMeaning?_code marked fits rest
    have known : textMeaning? ((letter :: hexDigits width c.toNat) ++ rest) =
        some ([c], (letter :: hexDigits width c.toNat).length) := by
      rw [List.length_cons, length_hexDigits]
      exact meaning
    exact unescape_escape known

/-- The spellings of characters mean the characters. -/
theorem unescape_spelled {quote : Char} (is_quote : IsQuote quote) (content : List Char) :
    unescape textMeaning? 0 (content.flatMap (quoteChar quote)) = some content := by
  induction content with
  | nil => rfl
  | cons c others inductionHypothesis =>
    rw [List.flatMap_cons, unescape_quoteChar is_quote, inductionHypothesis]
    rfl

/-- A text is read back from between its quotes, if no quote follows it. -/
theorem readQuoted?_quoteChars (content : List Char) {rest : List Char}
    (no_quote : ∀ quote, IsQuote quote → rest.head? ≠ some quote) :
    readQuoted? (quoteChars content ++ rest) = some (.text (String.ofList content), rest) := by
  have is_quote := isQuote_chooseQuote (content.contains '\'') (content.contains '"')
  rw [quoteChars]
  generalize chooseQuote (content.contains '\'') (content.contains '"') = quote at is_quote ⊢
  have no_letter : quote.isAlpha = false := by
    rcases is_quote with rfl | rfl <;> rfl
  have characters : quote :: (content.flatMap (quoteChar quote) ++ [quote]) ++ rest =
      quote :: (content.flatMap (quoteChar quote) ++ quote :: rest) := by
    simp
  rw [characters, readQuoted?, List.takeWhile_cons_of_neg (by simp [no_letter]), List.length_nil,
    List.drop_zero, takeQuoted_spelled is_quote content (no_quote quote is_quote)]
  have inside : contentOf? ⟨false, false⟩ (content.flatMap (quoteChar quote)) =
      some (.text (String.ofList content)) := by
    simp [contentOf?, unescape_spelled is_quote]
  show (contentOf? ⟨false, false⟩ (content.flatMap (quoteChar quote))).map _ = _
  rw [inside]
  rfl

/-- The characters of ASCII from the space on are printable, but for the last one. -/
theorem isPrintable_of_ascii {c : Char} (printed : 0x20 ≤ c.toNat ∧ c.toNat < 0x7F) :
    isPrintable c = true := by
  simp only [isPrintable]
  rw [if_pos printed.2]
  exact decide_eq_true printed.1

/-- A text is shown in printable characters. -/
theorem isPrintable_of_mem_quoteChars {content : List Char} {c : Char}
    (member : c ∈ quoteChars content) : isPrintable c = true := by
  have is_quote := isQuote_chooseQuote (content.contains '\'') (content.contains '"')
  rw [quoteChars] at member
  generalize chooseQuote (content.contains '\'') (content.contains '"') = quote at is_quote member
  have quote_printable : isPrintable quote = true := by
    rcases is_quote with rfl | rfl <;> rfl
  have digit_printable : ∀ digit : Fin 16, isPrintable (Nat.digitChar digit.val) = true := by decide
  have spelled_printable (d : Char) : ∀ e ∈ quoteChar quote d, isPrintable e = true := by
    have spelling := spelling_quoteChar quote d
    generalize quoteChar quote d = spelled at spelling ⊢
    have backslash : isPrintable '\\' = true := rfl
    cases spelling with
    | mark is_mark =>
      have mark_printable : isPrintable d = true := by
        rcases is_mark with rfl | rfl
        · exact quote_printable
        · exact backslash
      simp [backslash, mark_printable]
    | control known =>
      simp only [List.mem_cons, Prod.mk.injEq, List.not_mem_nil, or_false] at known
      rcases known with ⟨rfl, rfl⟩ | ⟨rfl, rfl⟩ | ⟨rfl, rfl⟩ <;>
        exact List.all_eq_true.mp (by decide)
    | itself _ _ printable => simp [printable]
    | code marked _ =>
      rename_i letter width fits
      have letter_printable : isPrintable letter = true := by cases marked <;> rfl
      refine List.forall_mem_cons.mpr ⟨backslash, List.forall_mem_cons.mpr ⟨letter_printable, ?_⟩⟩
      intro e among
      obtain ⟨digit, rfl⟩ := exists_digit_of_mem_hexDigits among
      exact digit_printable digit
  rcases List.mem_cons.mp member with rfl | inside
  · exact quote_printable
  rcases List.mem_append.mp inside with spelled | last
  · obtain ⟨d, _, among⟩ := List.mem_flatMap.mp spelled
    exact spelled_printable d c among
  · rw [List.mem_singleton.mp last]
    exact quote_printable

end Literal

end ChunkCodecs
