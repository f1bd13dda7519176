import ChunkCodecs.Proofs.Number.Digits
import ChunkCodecs.Value.Printer

/-!
# Numerals of whole numbers

A numeral that is read has at most as many digits as numerals may have, whatever the script of
its digits, so the number that it stands for is of limited size. A number of that size is read
of the digits that it is shown with.
-/

namespace ChunkCodecs

namespace Numeral

/-- Digits below ten stand for a number below the power of ten that they count. -/
theorem valueOf_lt {digits : List Nat} (small : ∀ digit ∈ digits, digit < 10) :
    valueOf 10 digits < 10 ^ digits.length := by
  have bound (number : Nat) : digits.foldl (fun number digit => number * 10 + digit) number <
      (number + 1) * 10 ^ digits.length := by
    induction digits generalizing number with
    | nil => simp
    | cons digit rest inductionHypothesis =>
      obtain ⟨first, others⟩ := List.forall_mem_cons.mp small
      calc rest.foldl (fun number digit => number * 10 + digit) (number * 10 + digit)
          < (number * 10 + digit + 1) * 10 ^ rest.length := inductionHypothesis others _
        _ ≤ (number + 1) * 10 * 10 ^ rest.length := Nat.mul_le_mul_right _ (by omega)
        _ = (number + 1) * 10 ^ (rest.length + 1) := by
          rw [Nat.pow_succ', Nat.mul_assoc]
  simpa [valueOf] using bound 0

section

variable {value? : Char → Option Nat} (small : ∀ c digit, value? c = some digit → digit < 10)

include small

/-- Digits that go on a run are below ten. -/
theorem lt_of_mem_takeMoreDigits (characters : List Char) :
    ∀ digit ∈ (takeMoreDigits value? characters).1, digit < 10 := by
  fun_induction takeMoreDigits value? characters with
  | case1 => exact List.forall_mem_nil _
  | case2 c rest digit found digits remaining taken inductionHypothesis =>
    rw [taken] at inductionHypothesis
    exact List.forall_mem_cons.mpr ⟨small c digit found, inductionHypothesis⟩
  | case3 => exact List.forall_mem_nil _
  | case4 c rest _ digit found digits remaining taken inductionHypothesis =>
    rw [taken] at inductionHypothesis
    exact List.forall_mem_cons.mpr ⟨small c digit found, inductionHypothesis⟩
  | case5 => exact List.forall_mem_nil _

/-- Digits of a run are below ten. -/
theorem lt_of_mem_takeDigitsOf (characters : List Char) :
    ∀ digit ∈ (takeDigitsOf value? characters).1, digit < 10 := by
  cases characters with
  | nil => exact List.forall_mem_nil _
  | cons c rest =>
    cases found : value? c with
    | none =>
      simp only [takeDigitsOf, found]
      exact List.forall_mem_nil _
    | some digit =>
      simp only [takeDigitsOf, found]
      exact List.forall_mem_cons.mpr
        ⟨small c digit found, lt_of_mem_takeMoreDigits small rest⟩

end

/-- A number that is read of a numeral has at most the digits that numerals may have. -/
theorem natAbs_readInt?_lt {characters : List Char} {number : Int}
    (read : readInt? characters = some number) : number.natAbs < 10 ^ maxDigits := by
  have below := lt_of_mem_takeDigitsOf Text.digitValue?_lt (takeSign characters).2
  simp only [readInt?, takeDigits] at read
  generalize takeDigitsOf Text.digitValue? (takeSign characters).2 = taken at read below
  obtain ⟨digits, remaining⟩ := taken
  split at read
  · cases read
  · next nonempty same =>
    obtain ⟨rfl, rfl⟩ := Prod.mk.inj same
    simp only [Option.ite_none_right_eq_some, Option.some.injEq] at read
    obtain ⟨short, rfl⟩ := read
    have magnitude : (if (takeSign characters).1 = true then -(valueOf 10 digits : Int)
        else valueOf 10 digits).natAbs = valueOf 10 digits := by
      split
      · exact (Int.natAbs_neg _).trans (Int.natAbs_natCast _)
      · exact Int.natAbs_natCast _
    rw [magnitude]
    exact Nat.lt_of_lt_of_le (valueOf_lt below) (Nat.pow_le_pow_right (by decide) short)
  · cases read

/-- A decimal digit is a digit with its value. -/
theorem digitValue?_of_isDigit {c : Char} (digit : c.isDigit = true) :
    Text.digitValue? c = some (c.toNat - 48) := by
  obtain ⟨least, greatest⟩ : 48 ≤ c.toNat ∧ c.toNat ≤ 57 := Char.isDigit_iff_toNat.mp digit
  have small : c.toNat - 48 < 10 := by omega
  have printed : Nat.digitChar (c.toNat - 48) = c := by
    apply Char.toNat_inj.mp
    rw [Nat.toNat_digitChar_of_lt_ten small]
    omega
  have value := Text.digitValue?_digitChar _ small
  rwa [printed] at value

/-- A run goes on to the end of decimal digits, whichever other digits there are. -/
theorem takeMoreDigits_append {value? : Char → Option Nat}
    (known : ∀ c, c.isDigit = true → value? c = some (c.toNat - 48)) {digits rest : List Char}
    (all : ∀ c ∈ digits, c.isDigit = true)
    (stops : ∀ c, rest.head? = some c → value? c = none ∧ c ≠ '_') :
    takeMoreDigits value? (digits ++ rest) = (digits.map fun c => c.toNat - 48, rest) := by
  induction digits with
  | nil =>
    cases rest with
    | nil => rfl
    | cons c others =>
      obtain ⟨no_digit, no_underscore⟩ := stops c rfl
      rw [List.nil_append, takeMoreDigits]
      · simp only [no_digit, List.map_nil]
      · exact fun _ _ underscore _ => no_underscore underscore
  | cons c others inductionHypothesis =>
    obtain ⟨digit, further⟩ := List.forall_mem_cons.mp all
    have value := known c digit
    have taken := inductionHypothesis further
    have other : c ≠ '_' := by
      rintro rfl
      cases digit
    rw [List.cons_append, takeMoreDigits]
    · simp only [value, taken, List.map_cons]
    · exact fun _ _ underscore _ => other underscore

/-- Decimal digits are a run up to what stops it. -/
theorem takeDigitsOf_append {value? : Char → Option Nat}
    (known : ∀ c, c.isDigit = true → value? c = some (c.toNat - 48)) {digits rest : List Char}
    (all : ∀ c ∈ digits, c.isDigit = true)
    (stops : ∀ c, rest.head? = some c → value? c = none ∧ c ≠ '_') :
    takeDigitsOf value? (digits ++ rest) = (digits.map fun c => c.toNat - 48, rest) := by
  cases digits with
  | nil =>
    cases rest with
    | nil => rfl
    | cons c others => simp only [List.nil_append, takeDigitsOf, (stops c rfl).1, List.map_nil]
  | cons c others =>
    obtain ⟨digit, further⟩ := List.forall_mem_cons.mp all
    simp only [List.cons_append, takeDigitsOf, known c digit,
      takeMoreDigits_append known further stops, List.map_cons]

/-- Decimal digits are a run as a whole. -/
theorem takeDigits_of_isDigit {digits : List Char} (all : ∀ c ∈ digits, c.isDigit = true) :
    takeDigits digits = (digits.map fun c => c.toNat - 48, []) := by
  have taken := @takeDigitsOf_append _ (fun _ => digitValue?_of_isDigit) digits [] all nofun
  rwa [List.append_nil] at taken

/-- What begins with a decimal digit has no sign. -/
theorem takeSign_of_isDigit {c : Char} (digit : c.isDigit = true) (rest : List Char) :
    takeSign (c :: rest) = (false, c :: rest) := by
  unfold takeSign
  split
  · next same =>
    obtain ⟨rfl, _⟩ := List.cons.inj same
    cases digit
  · next same =>
    obtain ⟨rfl, _⟩ := List.cons.inj same
    cases digit
  · rfl

/-- A whole number that may be shown has no more digits than a numeral may have. -/
theorem length_toDigits_le {number : Int} (printable : Value.intIsPrintable number = true) :
    (Nat.toDigits 10 number.natAbs).length ≤ maxDigits := by
  have fewer (count : Nat) (some_digits : 0 < count) (below : number.natAbs < 10 ^ count) :=
    (Nat.length_toDigits_le_iff (show 1 < 10 by decide) some_digits).mpr below
  exact fewer 4300 (by decide) (of_decide_eq_true printable)

/-- A whole number that may be shown is read of its own digits. -/
theorem readInt?_intChars {number : Int} (printable : Value.intIsPrintable number = true) :
    readInt? (Value.intChars number) = some number := by
  have digits : ∀ c ∈ Nat.toDigits 10 number.natAbs, c.isDigit = true :=
    fun _ member => isDigit_of_mem_toDigits member
  have short := length_toDigits_le printable
  have value : valueOf 10 ((Nat.toDigits 10 number.natAbs).map fun c => c.toNat - 48) =
      number.natAbs := valueOf_toDigits number.natAbs
  obtain ⟨c, rest, leading⟩ := List.exists_cons_of_ne_nil (@Nat.toDigits_ne_nil number.natAbs 10)
  rw [leading] at digits short value
  have signed : takeSign (Value.intChars number) = (decide (number < 0), c :: rest) := by
    by_cases negative : number < 0
    · simp [Value.intChars, negative, leading, takeSign]
    · have digit := digits c List.mem_cons_self
      simp [Value.intChars, negative, leading, takeSign_of_isDigit digit]
  simp only [readInt?, signed, takeDigits_of_isDigit digits, List.map_cons, List.length_cons,
    List.length_map, decide_eq_true_eq] at short value ⊢
  rw [if_pos short, value]
  apply congrArg some
  split <;> omega

end Numeral

end ChunkCodecs
