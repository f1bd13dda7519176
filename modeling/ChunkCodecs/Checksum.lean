import ChunkCodecs.Bytes

/-!
# Checksums of containers

Adler-32 guards deflate containers: two sums modulo 65521, one of the bytes and
one of the running values of the first. The 64-bit xxHash guards zstd frames; its
low half is stored.
-/

namespace ChunkCodecs.Checksum

/-- The modulus of Adler-32, the largest prime below 65536. -/
def adlerModulus : Nat := 65521

/-- One step of Adler-32: the sum of the bytes, and the sum of those sums. -/
def adlerStep (sums : Nat × Nat) (byte : UInt8) : Nat × Nat :=
  let low := (sums.1 + byte.toNat) % adlerModulus
  (low, (sums.2 + low) % adlerModulus)

/-- The Adler-32 checksum of a byte string. -/
def adler32 (bytes : Bytes) : Nat :=
  let sums := bytes.foldl adlerStep (1, 0)
  sums.2 * 65536 + sums.1

/-- The five primes of the 64-bit xxHash. -/
def primes : UInt64 × UInt64 × UInt64 × UInt64 × UInt64 :=
  (0x9E3779B185EBCA87, 0xC2B2AE3D27D4EB4F, 0x165667B19E3779F9, 0x85EBCA77C2B2AE63,
    0x27D4EB2F165667C5)

/-- Rotation to the left. -/
def rotateLeft (word : UInt64) (count : UInt64) : UInt64 :=
  (word <<< count) ||| (word >>> (64 - count))

/-- The number of the first bytes, least significant first. -/
def wordAt (bytes : Bytes) (width : Nat) : UInt64 :=
  UInt64.ofNat (littleEndianValue (bytes.take width))

/-- Mix a word into a lane. -/
def mixLane (lane word : UInt64) : UInt64 :=
  let (p1, p2, _, _, _) := primes
  rotateLeft (lane + word * p2) 31 * p1

/-- Mix whole stripes of 32 bytes into the four lanes; fewer bytes are left. -/
def mixStripes (lanes : UInt64 × UInt64 × UInt64 × UInt64) (bytes : Bytes) :
    (UInt64 × UInt64 × UInt64 × UInt64) × Bytes :=
  if bytes.length < 32 then (lanes, bytes)
  else
    let (a, b, c, d) := lanes
    mixStripes (mixLane a (wordAt bytes 8), mixLane b (wordAt (bytes.drop 8) 8),
      mixLane c (wordAt (bytes.drop 16) 8), mixLane d (wordAt (bytes.drop 24) 8)) (bytes.drop 32)
termination_by bytes.length
decreasing_by simp only [List.length_drop]; omega

/-- Fold a lane into the hash. -/
def foldLane (hash lane : UInt64) : UInt64 :=
  let (p1, _, _, p4, _) := primes
  (hash ^^^ mixLane 0 lane) * p1 + p4

/-- Mix the bytes after the last stripe, eight, four and one at a time. -/
def mixTail (hash : UInt64) (bytes : Bytes) : UInt64 :=
  let (p1, p2, p3, p4, p5) := primes
  if 8 ≤ bytes.length then
    mixTail (rotateLeft (hash ^^^ mixLane 0 (wordAt bytes 8)) 27 * p1 + p4) (bytes.drop 8)
  else if 4 ≤ bytes.length then
    mixTail (rotateLeft (hash ^^^ wordAt bytes 4 * p1) 23 * p2 + p3) (bytes.drop 4)
  else
    bytes.foldl (fun mixed byte => rotateLeft (mixed ^^^ UInt64.ofNat byte.toNat * p5) 11 * p1) hash
termination_by bytes.length
decreasing_by all_goals simp only [List.length_drop]; omega

/-- The 64-bit xxHash of a byte string with seed zero. -/
def xxHash64 (bytes : Bytes) : UInt64 :=
  let (p1, p2, p3, _, p5) := primes
  let size := UInt64.ofNat bytes.length
  let (hash, tail) :=
    if bytes.length < 32 then (p5, bytes)
    else
      let ((a, b, c, d), tail) := mixStripes (p1 + p2, p2, 0, 0 - p1) bytes
      let joined := rotateLeft a 1 + rotateLeft b 7 + rotateLeft c 12 + rotateLeft d 18
      (foldLane (foldLane (foldLane (foldLane joined a) b) c) d, tail)
  let mixed := mixTail (hash + size) tail
  let first := (mixed ^^^ (mixed >>> 33)) * p2
  let second := (first ^^^ (first >>> 29)) * p3
  second ^^^ (second >>> 32)

end ChunkCodecs.Checksum
