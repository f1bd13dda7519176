import ChunkCodecs.Number.Numeral

/-!
# Printed digits

The decimal digits of a number are digits, they do not begin with a zero unless the number
is zero, and they stand for the number.
-/

namespace ChunkCodecs.Numeral

/-- The digits of a number are decimal digits. -/
theorem isDigit_of_mem_toDigits {number : Nat} {c : Char} (member : c ∈ Nat.toDigits 10 number) :
    c.isDigit = true :=
  Nat.isDigit_of_mem_toDigits (by decide) (by decide) member

/-- The digits of a number stand for the number. -/
theorem valueOf_toDigits (number : Nat) :
    valueOf 10 ((Nat.toDigits 10 number).map fun c => c.toNat - 48) = number := by
  have read : Nat.ofDigitChars 10 (Nat.toDigits 10 number) 0 = number :=
    Nat.ofDigitChars_ten_toDigits
  simp only [Nat.ofDigitChars_eq_foldl, Nat.mul_comm 10] at read
  rw [valueOf, List.foldl_map]
  exact read

/-- The digits of a positive number do not begin with a zero.

Proof: induction on the number. The digits in front of the last one are those of a tenth of
the number, which is positive unless the number has one digit. -/
theorem head_toDigits {number : Nat} (positive : 0 < number) :
    ∃ c rest, Nat.toDigits 10 number = c :: rest ∧ c ≠ '0' := by
  induction number using Nat.strongRecOn with
  | ind number inductionHypothesis =>
    by_cases single : number < 10
    · refine ⟨Nat.digitChar number, [], Nat.toDigits_of_lt_base single, ?_⟩
      intro zero
      have code := Nat.toNat_digitChar_of_lt_ten single
      rw [zero] at code
      have none_left : (48 : Nat) = 48 + number := code
      omega
    · obtain ⟨c, rest, leading, other⟩ := inductionHypothesis (number / 10) (by omega) (by omega)
      refine ⟨c, rest ++ [Nat.digitChar (number % 10)], ?_, other⟩
      rw [Nat.toDigits_of_base_le (by decide) (by omega), leading, List.cons_append]

end ChunkCodecs.Numeral
