import ChunkCodecs.Bytes

/-!
# Shuffle filters

Before a block is compressed its bytes may be put in another order, so that the
bytes of equal significance of all elements stand together, or so that the bits of
equal significance do. Bits are moved only if the elements come in whole groups of
eight. What is left at the end of a block, less than an element, stays where it is.

The filters are given position by position. A filter does not change the size.
-/

namespace ChunkCodecs.Blosc

/-- A block made position by position. -/
def tabulate (size : Nat) (byteAt : Nat → UInt8) : Array UInt8 :=
  Array.ofFn fun position : Fin size => byteAt position

/-- The byte at a position of a block. -/
def byteAt (block : Array UInt8) (position : Nat) : UInt8 := block.getD position 0

/-- The bit of a block at a byte position. -/
def bitAt (block : Array UInt8) (position bit : Nat) : Nat :=
  (byteAt block position).toNat / 2 ^ bit % 2

/-- The byte whose bits are given, the least significant one first. -/
def gatherBits (bitOf : Nat → Nat) : UInt8 :=
  UInt8.ofNat <| (List.range 8).foldl (fun value bit => value + bitOf bit * 2 ^ bit) 0

/-- Undo the filter that puts bytes of equal significance together. -/
def unshuffleBytes (elementSize : Nat) (block : Array UInt8) : Array UInt8 :=
  let elements := block.size / elementSize
  tabulate block.size fun position =>
    if position < elements * elementSize then
      byteAt block (position % elementSize * elements + position / elementSize)
    else byteAt block position

/-- Undo the filter that puts bits of equal significance together. -/
def unshuffleBits (elementSize : Nat) (block : Array UInt8) : Array UInt8 :=
  let elements := block.size / elementSize
  if elements % 8 ≠ 0 then block
  else tabulate block.size fun position =>
    if position < elements * elementSize then
      let element := position / elementSize
      gatherBits fun bit =>
        bitAt block ((position % elementSize * 8 + bit) * (elements / 8) + element / 8) (element % 8)
    else byteAt block position

/-- Put the bits of equal significance together. -/
def shuffleBits (elementSize : Nat) (block : Array UInt8) : Array UInt8 :=
  let elements := block.size / elementSize
  if elements % 8 ≠ 0 then block
  else tabulate block.size fun position =>
    if position < elements * elementSize then
      let row := position / (elements / 8)
      let firstElement := position % (elements / 8) * 8
      gatherBits fun bit =>
        bitAt block ((firstElement + bit) * elementSize + row / 8) (row % 8)
    else byteAt block position

end ChunkCodecs.Blosc
