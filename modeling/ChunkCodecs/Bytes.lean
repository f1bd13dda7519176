/-!
# Byte strings and fixed-width numbers

A chunk, a frame and a stream are lists of bytes. Container formats write their
numbers in a fixed count of bytes, least significant byte first; checksums of
deflate containers and image samples may be written the other way round, which
is the same writing reversed.

Writing drops what does not fit in the width. Reading a written number gives it
back modulo the range of its width, and writing what was read gives the bytes
back, so no two byte strings of one width stand for the same number.
-/

-- Powers of numbers are those of the core library also where further instances are in scope.
attribute [instance (high + 1), default_instance (high + 1)] instPowNat

namespace ChunkCodecs

/-- A finite sequence of bytes, in the order in which they are stored. -/
abbrev Bytes := List UInt8

/-- The number written in `width` bytes, least significant byte first. -/
def littleEndian : (width number : Nat) → Bytes
  | 0, _ => []
  | width + 1, number => UInt8.ofNat number :: littleEndian width (number / 256)

/-- The number that the bytes stand for, least significant byte first. -/
def littleEndianValue : Bytes → Nat
  | [] => 0
  | byte :: rest => byte.toNat + 256 * littleEndianValue rest

/-- The number written in `width` bytes, most significant byte first. -/
def bigEndian (width number : Nat) : Bytes := (littleEndian width number).reverse

/-- The number that the bytes stand for, most significant byte first. -/
def bigEndianValue (bytes : Bytes) : Nat := littleEndianValue bytes.reverse

/-- At most `count` bytes beginning at position `start`. -/
def slice (bytes : Bytes) (start count : Nat) : Bytes := (bytes.drop start).take count

/-- The bytes in pieces of a size; the last one may be shorter. -/
def pieces (size : Nat) (bytes : Bytes) : List Bytes :=
  if bytes.isEmpty || size = 0 then []
  else bytes.take size :: pieces size (bytes.drop size)
termination_by bytes.length
decreasing_by
  rename_i nonempty
  cases bytes with
  | nil => simp at nonempty
  | cons byte rest => simp at nonempty; simp only [List.length_drop, List.length_cons]; omega

/-- Bytes that fill a count of pieces are divided into that many. -/
theorem length_pieces {size count : Nat} {bytes : Bytes} (positive : 0 < size)
    (filled : bytes.length = count * size) : (pieces size bytes).length = count := by
  induction count generalizing bytes with
  | zero =>
    have empty : bytes = [] := List.eq_nil_of_length_eq_zero (by simpa using filled)
    simp [empty, pieces]
  | succ count inductionHypothesis =>
    have long : size ≤ bytes.length := by rw [filled, Nat.succ_mul]; omega
    have nonempty : bytes.isEmpty = false := by
      cases bytes with
      | nil => simp at long; omega
      | cons byte rest => rfl
    have shorter : (bytes.drop size).length = count * size := by
      rw [List.length_drop, filled, Nat.succ_mul]; omega
    rw [pieces]
    simp [nonempty, Nat.ne_of_gt positive, inductionHypothesis shorter]

/-- A number fills exactly its width. -/
@[simp] theorem littleEndian_length (width number : Nat) :
    (littleEndian width number).length = width := by
  induction width generalizing number with
  | zero => rfl
  | succ width inductionHypothesis => simp [littleEndian, inductionHypothesis]

/-- Bytes stand for a number within the range of their width. -/
theorem littleEndianValue_lt (bytes : Bytes) :
    littleEndianValue bytes < 256 ^ bytes.length := by
  induction bytes with
  | nil => decide
  | cons byte rest inductionHypothesis =>
    have small := byte.toNat_lt
    simp only [littleEndianValue, List.length_cons, Nat.pow_succ]
    omega

/-- A number below the range of its width is read back from its writing. -/
theorem littleEndianValue_littleEndian (width number : Nat) (fits : number < 256 ^ width) :
    littleEndianValue (littleEndian width number) = number := by
  induction width generalizing number with
  | zero => simp at fits; simp [littleEndian, littleEndianValue, fits]
  | succ width inductionHypothesis =>
    have quotient : number / 256 < 256 ^ width := by
      rw [Nat.pow_succ] at fits
      exact Nat.div_lt_of_lt_mul (by omega)
    simp only [littleEndian, littleEndianValue, inductionHypothesis _ quotient, UInt8.toNat_ofNat']
    omega

/-- Bytes are the writing of the number they stand for. -/
theorem littleEndian_littleEndianValue (bytes : Bytes) :
    littleEndian bytes.length (littleEndianValue bytes) = bytes := by
  induction bytes with
  | nil => rfl
  | cons byte rest inductionHypothesis =>
    have small := byte.toNat_lt
    have quotient : (byte.toNat + 256 * littleEndianValue rest) / 256 = littleEndianValue rest := by
      omega
    have low : UInt8.ofNat (byte.toNat + 256 * littleEndianValue rest) = byte := by
      apply UInt8.toNat_inj.mp
      rw [UInt8.toNat_ofNat']
      omega
    simp only [List.length_cons, littleEndian, littleEndianValue, quotient, low,
      inductionHypothesis]

end ChunkCodecs
