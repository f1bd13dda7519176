import ChunkCodecs.Document.Text

/-!
# Texts in documents read back

Every text is read back from its spelling between quotes. A character is spelled by itself,
by an escape, or by its code; a character beyond the first plane is spelled by two codes,
which are joined again because the codes of other characters are no surrogates.
-/

namespace ChunkCodecs.Document

open Text

/-- The codes that are read from the spelling of a character: its own, or those of two
surrogates. -/
def codesOf (c : Char) : List Nat :=
  if c.toNat < 0x10000 then [c.toNat]
  else [0xD800 + (c.toNat - 0x10000) / 0x400, 0xDC00 + (c.toNat - 0x10000) % 0x400]

/-- Put several codes in front of those that were read. -/
def consCodes (codes : List Nat) (outcome : Except Failure (List Nat × List Char)) :
    Except Failure (List Nat × List Char) :=
  outcome.map fun (others, rest) => (codes ++ others, rest)

/-- A code of four digits is read, if anything follows. -/
theorem readCodes_code (whole : List Char) {code : Nat} (small : code < 0x10000) {rest : List Char}
    (nonempty : rest ≠ []) :
    readCodes whole ('\\' :: 'u' :: (hexDigits 4 code ++ rest)) =
      consCode code (readCodes whole rest) := by
  have number : hexNumber? (hexDigits 4 code) = some code := by
    have fits : code % 16 ^ 4 = code := Nat.mod_eq_of_lt small
    rw [hexNumber?_hexDigits, fits]
  obtain ⟨a, b, c, d, digits⟩ : ∃ a b c d, hexDigits 4 code = [a, b, c, d] := ⟨_, _, _, _, rfl⟩
  rw [digits] at number ⊢
  cases rest with
  | nil => exact absurd rfl nonempty
  | cons next further =>
    simp only [List.cons_append, List.nil_append]
    rw [readCodes]
    exact number

/-- An escape is read, if anything follows. -/
theorem readCodes_escape (whole : List Char) {letter meant : Char} (known : escaped? letter = some meant)
    {rest : List Char} : readCodes whole ('\\' :: letter :: rest) =
      consCode meant.toNat (readCodes whole rest) := by
  have other : letter ≠ 'u' := by
    rintro rfl
    cases known
  rw [readCodes.eq_def]
  split <;> grind

/-- A character that stands for itself is read. -/
theorem readCodes_plain (whole : List Char) {c : Char} (quote : c ≠ '"') (backslash : c ≠ '\\')
    (printed : ¬ c.toNat < 0x20) (rest : List Char) :
    readCodes whole (c :: rest) = consCode c.toNat (readCodes whole rest) := by
  rw [readCodes.eq_def]
  split <;> grind

/-- The ways to spell a character. -/
inductive Spelling (c : Char) : List Char → Prop where
  /-- A letter that stands for it, escaped. -/
  | escape {letter : Char} (known : escaped? letter = some c) : Spelling c ['\\', letter]
  /-- The character itself. -/
  | itself (quote : c ≠ '"') (backslash : c ≠ '\\') (printed : 0x20 ≤ c.toNat ∧ c.toNat < 0x7F) :
      Spelling c [c]
  /-- Its code. -/
  | code (small : c.toNat < 0x10000) : Spelling c ('\\' :: 'u' :: hexDigits 4 c.toNat)
  /-- The codes of two surrogates. -/
  | pair (large : ¬ c.toNat < 0x10000) :
      Spelling c ('\\' :: 'u' :: (hexDigits 4 (0xD800 + (c.toNat - 0x10000) / 0x400) ++
        '\\' :: 'u' :: hexDigits 4 (0xDC00 + (c.toNat - 0x10000) % 0x400)))

/-- A character is spelled in one of the ways. -/
theorem spelling_escapeChar (c : Char) : Spelling c (escapeChar c) := by
  unfold escapeChar
  split
  · rename_i marks
    simp only [Bool.or_eq_true, decide_eq_true_eq] at marks
    rcases marks with rfl | rfl
    · exact .escape rfl
    · exact .escape rfl
  rename_i no_mark
  simp only [Bool.or_eq_true, decide_eq_true_eq, not_or] at no_mark
  -- the characters that have an escape of their own
  iterate 5
    split
    · rename_i same
      rw [same]
      exact .escape rfl
  split
  · rename_i printed
    simp only [Bool.and_eq_true, decide_eq_true_eq] at printed
    exact .itself no_mark.1 no_mark.2 printed
  split
  · rename_i small
    exact .code small
  · rename_i large
    exact .pair large

/-- Characters that have an escape of their own are in the first plane. -/
theorem lt_of_escaped? {letter c : Char} (known : escaped? letter = some c) :
    c.toNat < 0x10000 := by
  unfold escaped? at known
  split at known <;> cases known <;> decide

/-- The spelling of a character is read as its codes, if anything follows. -/
theorem readCodes_escapeChar (whole : List Char) (c : Char) {rest : List Char}
    (nonempty : rest ≠ []) :
    readCodes whole (escapeChar c ++ rest) = consCodes (codesOf c) (readCodes whole rest) := by
  have one (small : c.toNat < 0x10000) (outcome : Except Failure (List Nat × List Char)) :
      consCode c.toNat outcome = consCodes (codesOf c) outcome := by
    rw [codesOf, if_pos small]
    cases outcome <;> rfl
  have spelling := spelling_escapeChar c
  generalize escapeChar c = spelled at spelling ⊢
  cases spelling with
  | escape known =>
    rw [← one (lt_of_escaped? known)]
    exact readCodes_escape whole known
  | itself quote backslash printed =>
    rw [List.singleton_append, readCodes_plain whole quote backslash (by omega), one (by omega)]
  | code small =>
    rw [List.cons_append, List.cons_append, readCodes_code whole small nonempty, one small]
  | pair large =>
    have valid : c.toNat < 0xD800 ∨ 0xDFFF < c.toNat ∧ c.toNat < 0x110000 := c.valid
    have high : 0xD800 + (c.toNat - 0x10000) / 0x400 < 0x10000 := by omega
    have low : 0xDC00 + (c.toNat - 0x10000) % 0x400 < 0x10000 := by omega
    simp only [List.cons_append, List.append_assoc]
    rw [readCodes_code whole high (by simp), readCodes_code whole low nonempty,
      codesOf, if_neg large]
    cases readCodes whole rest <;> rfl

/-- The spelling of characters up to the closing quote is read as their codes. -/
theorem readCodes_spelling (whole content rest : List Char) :
    readCodes whole (content.flatMap escapeChar ++ '"' :: rest) =
      .ok (content.flatMap codesOf, rest) := by
  induction content with
  | nil => rfl
  | cons c others inductionHypothesis =>
    rw [List.flatMap_cons, List.append_assoc,
      readCodes_escapeChar whole c (by simp), inductionHypothesis]
    rfl

/-- The codes of a character are joined into the character, whatever characters follow. -/
theorem joinCodes_codesOf (c : Char) (rest : List Char) :
    joinCodes (codesOf c ++ rest.flatMap codesOf) = c :: joinCodes (rest.flatMap codesOf) := by
  have valid : c.toNat < 0xD800 ∨ 0xDFFF < c.toNat ∧ c.toNat < 0x110000 := c.valid
  by_cases small : c.toNat < 0x10000
  · have single : codesOf c = [c.toNat] := if_pos small
    rw [single, List.singleton_append]
    cases rest.flatMap codesOf with
    | nil => simp [joinCodes, charOfCode_toNat]
    | cons next others =>
      simp [joinCodes, not_isHighSurrogate_toNat, charOfCode_toNat]
  · have pair : codesOf c =
        [0xD800 + (c.toNat - 0x10000) / 0x400, 0xDC00 + (c.toNat - 0x10000) % 0x400] := if_neg small
    have high : isHighSurrogate (0xD800 + (c.toNat - 0x10000) / 0x400) = true := by
      simp only [isHighSurrogate, Bool.and_eq_true, decide_eq_true_eq]
      omega
    have low : isLowSurrogate (0xDC00 + (c.toNat - 0x10000) % 0x400) = true := by
      simp only [isLowSurrogate, Bool.and_eq_true, decide_eq_true_eq]
      omega
    have code : 0x10000 + (0xD800 + (c.toNat - 0x10000) / 0x400 - 0xD800) * 0x400 +
        (0xDC00 + (c.toNat - 0x10000) % 0x400 - 0xDC00) = c.toNat := by
      omega
    rw [pair]
    simp only [List.cons_append, List.nil_append, joinCodes, high, low, Bool.and_self, if_true,
      code, charOfCode_toNat]

/-- Codes that are read from characters are joined into these characters. -/
theorem joinCodes_flatMap_codesOf (content : List Char) :
    joinCodes (content.flatMap codesOf) = content := by
  induction content with
  | nil => rfl
  | cons c rest inductionHypothesis =>
    rw [List.flatMap_cons, joinCodes_codesOf, inductionHypothesis]

/-- A text is read back from between its quotes. -/
theorem readText_textChars (content rest : List Char) :
    readText (content.flatMap escapeChar ++ '"' :: rest) = .ok (String.ofList content, rest) := by
  rw [readText, readCodes_spelling]
  simp only [Except.map, joinCodes_flatMap_codesOf]

end ChunkCodecs.Document
