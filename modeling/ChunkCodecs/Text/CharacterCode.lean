import ChunkCodecs.Bytes

/-!
# Codes of characters

A character is often given by its code in hexadecimal digits. Codes between the
planes of characters are surrogates: they are halves of codes of a wider range, and
one that stands alone is no character; it is shown as the replacement character.
-/

namespace ChunkCodecs.Text

/-- The lower-case hexadecimal digit of a number below sixteen. -/
def hexDigit (value : Nat) : Char := Nat.digitChar (value % 16)

/-- The `width` least significant hexadecimal digits of the number. -/
def hexDigits : (width number : Nat) → List Char
  | 0, _ => []
  | width + 1, number => hexDigits width (number / 16) ++ [hexDigit number]

/-- The value of a hexadecimal digit. -/
def hexValue? (c : Char) : Option Nat :=
  if '0' ≤ c && c ≤ '9' then some (c.toNat - 48)
  else if 'a' ≤ c && c ≤ 'f' then some (c.toNat - 87)
  else if 'A' ≤ c && c ≤ 'F' then some (c.toNat - 55)
  else none

/-- The number that hexadecimal digits stand for, if all characters are such digits. -/
def hexNumber? (digits : List Char) : Option Nat :=
  digits.foldlM (fun number c => (hexValue? c).map (number * 16 + ·)) 0

/-- The character of a code; a code of no character gives the replacement character. -/
def charOfCode (code : Nat) : Char :=
  if valid : code.isValidChar then Char.ofNatAux code valid else '\uFFFD'

/-- As many digits are written as asked for. -/
@[simp] theorem length_hexDigits (width number : Nat) : (hexDigits width number).length = width := by
  induction width generalizing number with
  | zero => rfl
  | succ width inductionHypothesis => simp [hexDigits, inductionHypothesis]

/-- A written digit has its value. -/
theorem hexValue?_hexDigit (value : Nat) : hexValue? (hexDigit value) = some (value % 16) := by
  have small : value % 16 < 16 := Nat.mod_lt _ (by decide)
  have all : ∀ digit : Fin 16, hexValue? (Nat.digitChar digit.val) = some digit.val := by decide
  exact all ⟨value % 16, small⟩

/-- Digits that are written are read back, up to the width. -/
theorem hexNumber?_hexDigits (width number : Nat) :
    hexNumber? (hexDigits width number) = some (number % 16 ^ width) := by
  induction width generalizing number with
  | zero => simp [hexDigits, hexNumber?, Nat.mod_one]
  | succ width inductionHypothesis =>
    have earlier := inductionHypothesis (number / 16)
    simp only [hexNumber?] at earlier
    simp only [hexDigits, hexNumber?, List.foldlM_append, earlier]
    simp only [Option.bind_eq_bind, Option.bind_some, List.foldlM_cons, List.foldlM_nil,
      hexValue?_hexDigit, Option.map_some, Option.pure_def, Option.some.injEq]
    rw [Nat.pow_succ, Nat.mul_comm (16 ^ width) 16, Nat.mod_mul]
    omega

/-- The character of the code of a character is the character. -/
theorem charOfCode_toNat (c : Char) : charOfCode c.toNat = c := by
  have valid : c.toNat.isValidChar := c.valid
  rw [charOfCode, dif_pos valid]
  exact Char.ext (UInt32.toNat_inj.1 rfl)

end ChunkCodecs.Text
