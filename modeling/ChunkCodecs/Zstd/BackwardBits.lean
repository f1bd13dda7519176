import ChunkCodecs.Bytes

/-!
# Bits read from the end of a byte string

The bits of a byte string are numbered from the least significant bit of its first
byte on. Entropy-coded parts of zstd frames are written forwards and read
backwards: the last set bit marks the end, and a field is the number that the bits
just below the reading position stand for.

A look beyond the start gives zero bits there. A reader remembers whether it was
moved beyond the start, since a part is sound only if it is read exactly up to it.
-/

namespace ChunkCodecs.Zstd

/-- The number that `count` bits from bit `first` on stand for; bits beyond the
last byte are zero. -/
def bitsAt (bytes : Array UInt8) (first count : Nat) : Nat :=
  let covered := bytes.extract (first / 8) ((first + count + 7) / 8)
  littleEndianValue covered.toList / 2 ^ (first % 8) % 2 ^ count

/-- A byte string that is read from its end. -/
structure BackwardBits where
  /-- The bytes. -/
  bytes : Array UInt8
  /-- How many bits are left. -/
  left : Nat
  /-- Whether more bits were asked for than there were. -/
  overdrawn : Bool

namespace BackwardBits

/-- The reader of a part, which has to end with a byte that is not zero. -/
def open? (bytes : Array UInt8) : Option BackwardBits :=
  match bytes.back? with
  | none => none
  | some last =>
    if last = 0 then none else some ⟨bytes, 8 * (bytes.size - 1) + last.toNat.log2, false⟩

/-- The number of the next `count` bits. -/
def peek (bits : BackwardBits) (count : Nat) : Nat :=
  if count ≤ bits.left then bitsAt bits.bytes (bits.left - count) count
  else bitsAt bits.bytes 0 bits.left * 2 ^ (count - bits.left)

/-- Move on by `count` bits. -/
def skip (bits : BackwardBits) (count : Nat) : BackwardBits :=
  { bits with left := bits.left - count, overdrawn := bits.overdrawn || bits.left < count }

/-- Read the next `count` bits. -/
def read (bits : BackwardBits) (count : Nat) : Nat × BackwardBits :=
  (bits.peek count, bits.skip count)

/-- Whether all bits have been read and no more than those. -/
def isExhausted (bits : BackwardBits) : Bool := bits.left == 0 && !bits.overdrawn

end BackwardBits

end ChunkCodecs.Zstd
