import ChunkCodecs.Matching
import ChunkCodecs.Zstd.LiteralCode

/-!
# Compressed blocks

A compressed block is a section of literals and a section of sequences. Literals
are stored, or one byte repeated, or coded with a prefix code that the block
describes or that an earlier block of the frame described.

A sequence is a count of literals, a length and an offset. Each is a symbol, coded
with finite states, and extra bits. An offset up to three names one of the last
three distances that were used, with another meaning after no literals; a greater
one is the distance itself, less three. What was learnt from a block, its codes
and distances, is remembered for the next one.
-/

namespace ChunkCodecs.Zstd

open Matching

/-- The largest content of a block. -/
def maxBlockSize : Nat := 131072

/-- What one kind of symbol of a sequence stands for. -/
structure SymbolKind where
  /-- The base and the count of extra bits of each symbol. -/
  meanings : Array (Nat × Nat)
  /-- The greatest accuracy of a described code. -/
  maxAccuracy : Nat
  /-- The code that needs no description. -/
  predefined : StateCode

/-- The meanings of symbols whose first ones stand for consecutive numbers and the
others for ever larger ranges of given widths. -/
def meaningsFrom (first : Nat) (widths : List Nat) : Array (Nat × Nat) :=
  (widths.foldl (fun (meanings, next) width => (meanings.push (next, width), next + 2 ^ width))
    ((#[] : Array (Nat × Nat)), first)).1

/-- Counts of literals. -/
def literalCounts : SymbolKind :=
  ⟨meaningsFrom 0 (List.replicate 16 0 ++ [1, 1, 1, 1, 2, 2, 3, 3, 4, 6, 7, 8, 9, 10, 11, 12, 13,
      14, 15, 16]), 9,
    .ofWeights 6 [4, 3, 2, 2, 2, 2, 2, 2, 2, 2, 2, 2, 2, 1, 1, 1, 2, 2, 2, 2, 2, 2, 2, 2, 2, 3, 2,
      1, 1, 1, 1, 1, -1, -1, -1, -1]⟩

/-- Lengths of matches. -/
def matchLengths : SymbolKind :=
  ⟨meaningsFrom 3 (List.replicate 32 0 ++ [1, 1, 1, 1, 2, 2, 3, 3, 4, 4, 5, 7, 8, 9, 10, 11, 12,
      13, 14, 15, 16]), 9,
    .ofWeights 6 [1, 4, 3, 2, 2, 2, 2, 2, 2, 1, 1, 1, 1, 1, 1, 1, 1, 1, 1, 1, 1, 1, 1, 1, 1, 1, 1,
      1, 1, 1, 1, 1, 1, 1, 1, 1, 1, 1, 1, 1, 1, 1, 1, 1, 1, 1, -1, -1, -1, -1, -1, -1, -1]⟩

/-- Offsets. -/
def offsets : SymbolKind :=
  ⟨meaningsFrom 1 (List.range 32), 8,
    .ofWeights 5 [1, 1, 1, 1, 1, 1, 2, 2, 2, 1, 1, 1, 1, 1, 1, 1, 1, 1, 1, 1, 1, 1, 1, 1, -1, -1,
      -1, -1, -1]⟩

/-- What a frame remembers from block to block. -/
structure Memory where
  /-- The last code of literals. -/
  literalCode : Option LiteralCode
  /-- The last codes of counts of literals, of offsets and of lengths. -/
  countCode : Option StateCode
  offsetCode : Option StateCode
  lengthCode : Option StateCode
  /-- The last three distances, the latest one first. -/
  distances : Nat × Nat × Nat

/-- What a frame knows before its first block. -/
def Memory.start : Memory := ⟨none, none, none, none, (1, 4, 8)⟩

/-- The number of the bytes from a place on. -/
def numberAt (bytes : Array UInt8) (place width : Nat) : Nat :=
  littleEndianValue (bytes.extract place (place + width)).toList

/-- The literals at the start of a block, how many bytes they take there, and the
code to remember. -/
def readLiterals (block : Array UInt8) (remembered : Option LiteralCode) :
    Option (Array UInt8 × Nat × Option LiteralCode) := do
  let lead ← block[0]?
  let kind := lead.toNat % 4
  let format := lead.toNat / 4 % 4
  if kind < 2 then
    let (headerSize, count) := match format with
      | 1 => (2, numberAt block 0 2 / 16)
      | 3 => (3, numberAt block 0 3 / 16)
      | _ => (1, lead.toNat / 8)
    let stored := if kind = 0 then count else 1
    if maxBlockSize < count || block.size < headerSize + stored then none
    else
      let first := block.extract headerSize (headerSize + stored)
      let literals := if kind = 0 then first else Array.replicate count (first.getD 0 0)
      return (literals, headerSize + stored, remembered)
  else
    let (headerSize, width) := match format with
      | 2 => (4, 14)
      | 3 => (5, 18)
      | _ => (3, 10)
    let fields := numberAt block 0 headerSize / 16
    let count := fields % 2 ^ width
    let size := fields / 2 ^ width
    let stop := headerSize + size
    if maxBlockSize < count || block.size < stop then none
    else
      let coded := block.extract headerSize stop
      let (code, taken) ←
        if kind = 2 then LiteralCode.read? coded else remembered.map fun code => (code, 0)
      let streams := coded.extract taken coded.size
      let literals ←
        if format = 0 then code.decodeStream streams count #[] else code.decodeFour streams count
      return (literals, stop, some code)

/-- The code that a mode of two bits selects, with where its description ends. -/
def selectCode (kind : SymbolKind) (mode : Nat) (remembered : Option StateCode)
    (block : Array UInt8) (place : Nat) : Option (StateCode × Nat) :=
  match mode with
  | 0 => some (kind.predefined, place)
  | 1 =>
    match block[place]? with
    | none => none
    | some symbol =>
      if symbol.toNat < kind.meanings.size then some (.constant symbol.toNat, place + 1) else none
  | 2 =>
    let symbols := kind.meanings.size
    (StateCode.read? (block.extract place block.size) kind.maxAccuracy symbols).map
      fun (code, taken) => (code, place + taken)
  | _ => remembered.map fun code => (code, place)

/-- How many sequences a block has, and where the count ends. -/
def readSequenceCount (block : Array UInt8) (place : Nat) : Option (Nat × Nat) := do
  let lead ← block[place]?
  if lead.toNat < 128 then return (lead.toNat, place + 1)
  else
    let second ← block[place + 1]?
    if lead.toNat < 255 then return ((lead.toNat - 128) * 256 + second.toNat, place + 2)
    else
      let third ← block[place + 2]?
      return (second.toNat + 256 * third.toNat + 0x7F00, place + 3)

/-- The distance that an offset stands for after some literals, and the last three
distances from then on. -/
def resolveOffset (offset literalCount : Nat) (distances : Nat × Nat × Nat) :
    Option (Nat × Nat × Nat × Nat) :=
  let (latest, second, third) := distances
  if 3 < offset then some (offset - 3, offset - 3, latest, second)
  else match offset - 1 + (if literalCount = 0 then 1 else 0) with
    | 0 => some (latest, latest, second, third)
    | 1 => some (second, second, latest, third)
    | 2 => some (third, third, latest, second)
    | _ => if latest ≤ 1 then none else some (latest - 1, latest - 1, latest, second)

/-- The codes of a block's sequences. -/
structure SequenceCodes where
  /-- The code of counts of literals. -/
  counts : StateCode
  /-- The code of offsets. -/
  offsets : StateCode
  /-- The code of lengths. -/
  lengths : StateCode

/-- The states of the three codes. -/
structure SequenceStates where
  /-- The state of counts of literals. -/
  count : Nat
  /-- The state of offsets. -/
  offset : Nat
  /-- The state of lengths. -/
  length : Nat

/-- What has been made of a block's sequences. -/
structure Progress where
  /-- The content of the frame so far. -/
  output : Array UInt8
  /-- How many literals of the block were used. -/
  used : Nat
  /-- The last three distances. -/
  distances : Nat × Nat × Nat

/-- Play one sequence. -/
def Progress.play (progress : Progress) (literals : Array UInt8) (count offset length : Nat) :
    Option Progress := do
  let stop := progress.used + count
  let (distance, distances) ← resolveOffset offset count progress.distances
  let output := progress.output ++ literals.extract progress.used stop
  if literals.size < stop || output.size < distance then none
  else return ⟨copyBack distance length output, stop, distances⟩

/-- Play a count of sequences. The extra bits of the offset come first, then those
of the length and of the count of literals; the states change in another order,
and not after the last sequence. -/
def playSequences (codes : SequenceCodes) (literals : Array UInt8) :
    (count : Nat) → SequenceStates → BackwardBits → Progress → Option (Progress × BackwardBits)
  | 0, _, bits, progress => some (progress, bits)
  | remaining + 1, states, bits, progress => do
    let countState := codes.counts.stateAt states.count
    let offsetState := codes.offsets.stateAt states.offset
    let lengthState := codes.lengths.stateAt states.length
    let (offsetBase, offsetWidth) ← offsets.meanings[offsetState.symbol]?
    let (lengthBase, lengthWidth) ← matchLengths.meanings[lengthState.symbol]?
    let (countBase, countWidth) ← literalCounts.meanings[countState.symbol]?
    let (offsetExtra, bits) := bits.read offsetWidth
    let (lengthExtra, bits) := bits.read lengthWidth
    let (countExtra, bits) := bits.read countWidth
    let next ← progress.play literals (countBase + countExtra) (offsetBase + offsetExtra)
      (lengthBase + lengthExtra)
    if bits.overdrawn then none
    else if remaining = 0 then return (next, bits)
    else
      let (countLow, bits) := bits.read countState.width
      let (lengthLow, bits) := bits.read lengthState.width
      let (offsetLow, bits) := bits.read offsetState.width
      playSequences codes literals remaining
        ⟨countState.base + countLow, offsetState.base + offsetLow, lengthState.base + lengthLow⟩
        bits next

/-- Decode a compressed block after what the frame has given so far. -/
def decodeBlock (block : Array UInt8) (memory : Memory) (output : Array UInt8) :
    Option (Array UInt8 × Memory) := do
  let (literals, afterLiterals, literalCode) ← readLiterals block memory.literalCode
  let (count, place) ← readSequenceCount block afterLiterals
  if count = 0 then
    if place = block.size then
      return (output ++ literals, { memory with literalCode := literalCode })
    else none
  else
    let modes ← block[place]?
    let (counts, place) ←
      selectCode literalCounts (modes.toNat / 64) memory.countCode block (place + 1)
    let (offsetCode, place) ← selectCode offsets (modes.toNat / 16 % 4) memory.offsetCode block place
    let (lengths, place) ←
      selectCode matchLengths (modes.toNat / 4 % 4) memory.lengthCode block place
    let bits ← BackwardBits.open? (block.extract place block.size)
    let (countStart, bits) := bits.read counts.accuracy
    let (offsetStart, bits) := bits.read offsetCode.accuracy
    let (lengthStart, bits) := bits.read lengths.accuracy
    let (progress, bits) ← playSequences ⟨counts, offsetCode, lengths⟩ literals count
      ⟨countStart, offsetStart, lengthStart⟩ bits ⟨output, 0, memory.distances⟩
    if modes.toNat % 4 ≠ 0 || !bits.isExhausted then none
    else
      let remembered : Memory :=
        ⟨literalCode, some counts, some offsetCode, some lengths, progress.distances⟩
      return (progress.output ++ literals.extract progress.used literals.size, remembered)

end ChunkCodecs.Zstd
