import ChunkCodecs.Checksum
import ChunkCodecs.Deflate.CodeTree

/-!
# Inflating deflate containers

The inflater is a machine that takes one bit after another, the least significant
bit of a byte first. At every moment it waits for the bits of a field of known
width, walks down a prefix code, skips to the next byte, copies stored bytes, or
has finished and counts what follows. A defect shows as soon as the bits that
reveal it have come.

A container is two bytes of header, blocks that are stored or coded with fixed or
described prefix codes, and the Adler-32 checksum of the content. Since the
machine is a fold over the bytes, feeding two pieces one after the other is
feeding their concatenation.
-/

namespace ChunkCodecs.Deflate

/-- What can be wrong with a container. -/
inductive Defect where
  | headerCheck
  | compressionMethod
  | windowSize
  | blockType
  | storedLengths
  | symbolCounts
  | codeLengthSet
  | lengthRepeat
  | noEndOfBlock
  | literalSet
  | distanceSet
  | literalCode
  | distanceCode
  | farDistance
  | dataCheck
  /-- The container asks for a dictionary that nobody has. -/
  | dictionary
  deriving DecidableEq, Repr

/-- The wording of a defect. -/
def Defect.message (defect : Defect) : String :=
  let corrupt (reason : String) := "Error -3 while decompressing data: " ++ reason
  match defect with
  | headerCheck => corrupt "incorrect header check"
  | compressionMethod => corrupt "unknown compression method"
  | windowSize => corrupt "invalid window size"
  | blockType => corrupt "invalid block type"
  | storedLengths => corrupt "invalid stored block lengths"
  | symbolCounts => corrupt "too many length or distance symbols"
  | codeLengthSet => corrupt "invalid code lengths set"
  | lengthRepeat => corrupt "invalid bit length repeat"
  | noEndOfBlock => corrupt "invalid code -- missing end-of-block"
  | literalSet => corrupt "invalid literal/lengths set"
  | distanceSet => corrupt "invalid distances set"
  | literalCode => corrupt "invalid literal/length code"
  | distanceCode => corrupt "invalid distance code"
  | farDistance => corrupt "invalid distance too far back"
  | dataCheck => corrupt "incorrect data check"
  | dictionary => "Error 2 while decompressing data"

/-- The codes of a block, and whether it is the last one. -/
structure BlockCodes where
  /-- Whether no block follows. -/
  last : Bool
  /-- The code of literals, lengths and the end of the block. -/
  literals : CodeTree
  /-- The code of distances. -/
  distances : CodeTree

/-- The description of the codes of a block, as far as it is read. -/
structure Description where
  /-- Whether no block follows. -/
  last : Bool
  /-- How many lengths belong to the code of literals. -/
  literalCount : Nat
  /-- How many lengths belong to the code of distances. -/
  distanceCount : Nat
  /-- The code of the lengths themselves. -/
  lengthCode : CodeTree
  /-- The lengths read so far, the last one first. -/
  lengths : List Nat

/-- What a field is read for. -/
inductive FieldUse where
  /-- The two bytes of the header. -/
  | header
  /-- The checksum of a dictionary. -/
  | dictionary
  /-- The last-block bit and the type of a block. -/
  | block
  /-- The length of a stored block and its complement. -/
  | storedLength (last : Bool)
  /-- The counts of the lengths that describe the codes of a block. -/
  | counts (last : Bool)
  /-- The lengths of the code of lengths, the last one first, with their count. -/
  | codeLength (last : Bool) (literalCount distanceCount codeCount : Nat) (lengths : List Nat)
  /-- How often a length is repeated, with the least count; there may be none to repeat. -/
  | repeatCount (description : Description) (repeated : Option Nat) (least : Nat)
  /-- What is added to the base of a length. -/
  | length (codes : BlockCodes) (base : Nat)
  /-- What is added to the base of a distance. -/
  | distance (codes : BlockCodes) (length base : Nat)
  /-- The checksum of the content. -/
  | checksum

/-- What a symbol is read for. -/
inductive SymbolUse where
  /-- A length, or a repetition, in the description of codes. -/
  | codeLength (description : Description)
  /-- A literal, a length or the end of the block. -/
  | literal (codes : BlockCodes)
  /-- A distance for a known length. -/
  | distance (codes : BlockCodes) (length : Nat)

/-- What the inflater waits for. -/
inductive Phase where
  /-- The remaining bits of a field, with the value and the weight of the next bit. -/
  | field (use : FieldUse) (missing weight value : Nat)
  /-- The rest of a code word. -/
  | symbol (use : SymbolUse) (tree : CodeTree)
  /-- The next byte, for a field of the given width. -/
  | align (use : FieldUse) (width : Nat)
  /-- The rest of a stored block. -/
  | stored (last : Bool) (remaining : Nat)
  /-- Nothing; so many bytes came after the end. -/
  | finished (unused : Nat)

/-- The state of the machine. -/
structure Inflater where
  /-- What it waits for. -/
  phase : Phase
  /-- The content so far. -/
  output : Array UInt8

namespace Inflater

/-- The machine before the first byte. -/
def start : Inflater := ⟨.field .header 16 1 0, #[]⟩

/-- Wait for a field. -/
def await (use : FieldUse) (width : Nat) : Phase := .field use width 1 0

/-- What follows a block: the next one, or the checksum at the next byte. -/
def afterBlock (last : Bool) : Phase := if last then .align .checksum 32 else await .block 3

/-- The base and the extra bits of each length symbol from 257 on. -/
def lengthBases : List (Nat × Nat) :=
  [(3, 0), (4, 0), (5, 0), (6, 0), (7, 0), (8, 0), (9, 0), (10, 0), (11, 1), (13, 1), (15, 1),
   (17, 1), (19, 2), (23, 2), (27, 2), (31, 2), (35, 3), (43, 3), (51, 3), (59, 3), (67, 4),
   (83, 4), (99, 4), (115, 4), (131, 5), (163, 5), (195, 5), (227, 5), (258, 0)]

/-- The base and the extra bits of each distance symbol. -/
def distanceBases : List (Nat × Nat) :=
  [(1, 0), (2, 0), (3, 0), (4, 0), (5, 1), (7, 1), (9, 2), (13, 2), (17, 3), (25, 3), (33, 4),
   (49, 4), (65, 5), (97, 5), (129, 6), (193, 6), (257, 7), (385, 7), (513, 8), (769, 8),
   (1025, 9), (1537, 9), (2049, 10), (3073, 10), (4097, 11), (6145, 11), (8193, 12), (12289, 12),
   (16385, 13), (24577, 13)]

/-- The order in which the lengths of the code of lengths are given. -/
def codeLengthOrder : List Nat :=
  [16, 17, 18, 0, 8, 7, 9, 6, 10, 5, 11, 4, 12, 3, 13, 2, 14, 1, 15]

/-- The lengths of the fixed code of literals. -/
def fixedLiteralLengths : List Nat :=
  List.replicate 144 8 ++ List.replicate 112 9 ++ List.replicate 24 7 ++ List.replicate 8 8

/-- The codes of a block that describes none. -/
def fixedCodes (last : Bool) : BlockCodes :=
  ⟨last, .ofLengths fixedLiteralLengths, .ofLengths (List.replicate 32 5)⟩

/-- Copy bytes from so far back, one by one, so that they may overlap. -/
def copyBack (distance : Nat) : (count : Nat) → Array UInt8 → Array UInt8
  | 0, output => output
  | count + 1, output =>
    copyBack distance count (output.push (output.getD (output.size - distance) 0))

/-- The two bytes of the header have come. The window that they declare may be 32 KiB
at most, and is of no further use: a smaller one limits no distance. -/
def takeHeader (value : Nat) : Except Defect Phase :=
  let method := value % 256
  if (method * 256 + value / 256) % 31 ≠ 0 then .error .headerCheck
  else if method % 16 ≠ 8 then .error .compressionMethod
  else if 7 < method / 16 then .error .windowSize
  else if value / 256 / 32 % 2 = 1 then .ok (await .dictionary 32)
  else .ok (await .block 3)

/-- The type of a block has come. -/
def takeBlock (value : Nat) : Except Defect Phase :=
  let last := value % 2 == 1
  match value / 2 with
  | 0 => .ok (.align (.storedLength last) 32)
  | 1 =>
    let codes := fixedCodes last
    .ok (.symbol (.literal codes) codes.literals)
  | 2 => .ok (await (.counts last) 14)
  | _ => .error .blockType

/-- The counts of the lengths have come. -/
def takeCounts (last : Bool) (value : Nat) : Except Defect Phase :=
  let literalCount := value % 32 + 257
  let distanceCount := value / 32 % 32 + 1
  let codeCount := value / 1024 + 4
  if 286 < literalCount || 30 < distanceCount then .error .symbolCounts
  else .ok (await (.codeLength last literalCount distanceCount codeCount []) 3)

/-- The lengths of the code of lengths by symbol, from the order in which they come. -/
def arrangeCodeLengths (lengths : List Nat) : List Nat :=
  let given := codeLengthOrder.zip lengths
  (List.range 19).map fun symbol => ((given.find? fun entry => entry.1 == symbol).map Prod.snd).getD 0

/-- All lengths have come: the codes of the block, if they are codes. -/
def describedCodes (description : Description) : Except Defect BlockCodes :=
  let lengths := description.lengths.reverse
  let literals := lengths.take description.literalCount
  if literals.getD 256 0 = 0 then .error .noEndOfBlock
  else match CodeTree.ofAlmostComplete? literals with
    | none => .error .literalSet
    | some literalCode =>
      match CodeTree.ofAlmostComplete? (lengths.drop description.literalCount) with
      | none => .error .distanceSet
      | some distanceCode => .ok ⟨description.last, literalCode, distanceCode⟩

/-- Go on with the next length, or with the block once all have come. -/
def nextLength (description : Description) : Except Defect Phase :=
  if description.lengths.length < description.literalCount + description.distanceCount then
    .ok (.symbol (.codeLength description) description.lengthCode)
  else
    (describedCodes description).map fun codes => .symbol (.literal codes) codes.literals

/-- One more length of the code of lengths has come. -/
def takeCodeLength (last : Bool) (literalCount distanceCount codeCount : Nat)
    (lengths : List Nat) (value : Nat) : Except Defect Phase :=
  let extended := value :: lengths
  if extended.length < codeCount then
    .ok (await (.codeLength last literalCount distanceCount codeCount extended) 3)
  else match CodeTree.ofComplete? (arrangeCodeLengths extended.reverse) with
    | none => .error .codeLengthSet
    | some lengthCode => nextLength ⟨last, literalCount, distanceCount, lengthCode, []⟩

/-- A symbol of the code of lengths has come. -/
def takeLengthSymbol (description : Description) (symbol : Nat) : Except Defect Phase :=
  if symbol < 16 then nextLength { description with lengths := symbol :: description.lengths }
  else if symbol = 16 then .ok (await (.repeatCount description description.lengths.head? 3) 2)
  else if symbol = 17 then .ok (await (.repeatCount description (some 0) 3) 3)
  else .ok (await (.repeatCount description (some 0) 11) 7)

/-- The count of a repetition has come. -/
def takeRepeatCount (description : Description) (repeated : Option Nat) (count : Nat) :
    Except Defect Phase :=
  match repeated with
  | none => .error .lengthRepeat
  | some length =>
    if description.literalCount + description.distanceCount < description.lengths.length + count then
      .error .lengthRepeat
    else nextLength
      { description with lengths := List.replicate count length ++ description.lengths }

/-- The machine with another phase. -/
def enter (machine : Inflater) (phase : Phase) : Inflater := { machine with phase := phase }

/-- A length and a distance are known: copy, and go on in the block. A distance may
reach back to the beginning of the content, whatever window the header declares. -/
def copyMatch (machine : Inflater) (codes : BlockCodes) (length distance : Nat) :
    Except Defect Inflater :=
  if machine.output.size < distance then .error .farDistance
  else
    let phase := Phase.symbol (.literal codes) codes.literals
    .ok { machine with phase := phase, output := copyBack distance length machine.output }

/-- A literal, a length or the end of the block has come. -/
def takeLiteral (machine : Inflater) (codes : BlockCodes) (symbol : Nat) : Except Defect Inflater :=
  if symbol < 256 then
    let phase := Phase.symbol (.literal codes) codes.literals
    .ok { machine with phase := phase, output := machine.output.push (UInt8.ofNat symbol) }
  else if symbol = 256 then .ok (machine.enter (afterBlock codes.last))
  else match lengthBases[symbol - 257]? with
    | none => .error .literalCode
    | some (base, 0) => .ok (machine.enter (.symbol (.distance codes base) codes.distances))
    | some (base, extra) => .ok (machine.enter (await (.length codes base) extra))

/-- A distance has come. -/
def takeDistance (machine : Inflater) (codes : BlockCodes) (length symbol : Nat) :
    Except Defect Inflater :=
  match distanceBases[symbol]? with
  | none => .error .distanceCode
  | some (base, 0) => machine.copyMatch codes length base
  | some (base, extra) => .ok (machine.enter (await (.distance codes length base) extra))

/-- The checksum of the content, as the bits of the field give it. -/
def storedChecksum (value : Nat) : Nat := bigEndianValue (littleEndian 4 value)

/-- A field is complete. -/
def takeField (machine : Inflater) (use : FieldUse) (value : Nat) : Except Defect Inflater :=
  match use with
  | .header => (takeHeader value).map machine.enter
  | .dictionary => .error .dictionary
  | .block => (takeBlock value).map machine.enter
  | .storedLength last =>
    if value % 65536 + value / 65536 ≠ 65535 then .error .storedLengths
    else if value % 65536 = 0 then .ok (machine.enter (afterBlock last))
    else .ok (machine.enter (.stored last (value % 65536)))
  | .counts last => (takeCounts last value).map machine.enter
  | .codeLength last literalCount distanceCount codeCount lengths =>
    (takeCodeLength last literalCount distanceCount codeCount lengths value).map machine.enter
  | .repeatCount description repeated least =>
    (takeRepeatCount description repeated (least + value)).map machine.enter
  | .length codes base =>
    .ok (machine.enter (.symbol (.distance codes (base + value)) codes.distances))
  | .distance codes length base => machine.copyMatch codes length (base + value)
  | .checksum =>
    if storedChecksum value = Checksum.adler32 machine.output.toList then
      .ok (machine.enter (.finished 0))
    else .error .dataCheck

/-- A code word is complete. -/
def takeSymbol (machine : Inflater) (use : SymbolUse) (symbol : Nat) : Except Defect Inflater :=
  match use with
  | .codeLength description => (takeLengthSymbol description symbol).map machine.enter
  | .literal codes => machine.takeLiteral codes symbol
  | .distance codes length => machine.takeDistance codes length symbol

/-- The defect of a code word that no symbol has. -/
def missingSymbol : SymbolUse → Defect
  | .codeLength _ => .codeLengthSet
  | .literal _ => .literalCode
  | .distance _ _ => .distanceCode

/-- Take one bit. -/
def takeBit (machine : Inflater) (bit : Bool) : Except Defect Inflater :=
  match machine.phase with
  | .field use missing weight value =>
    let extended := if bit then value + weight else value
    if missing ≤ 1 then machine.takeField use extended
    else .ok (machine.enter (.field use (missing - 1) (2 * weight) extended))
  | .symbol use (.node zeroBranch oneBranch) =>
    match if bit then oneBranch else zeroBranch with
    | .empty => .error (missingSymbol use)
    | .leaf symbol => machine.takeSymbol use symbol
    | deeper => .ok (machine.enter (.symbol use deeper))
  | .symbol use _ => .error (missingSymbol use)
  | _ => .ok machine

/-- Take the given count of bits of a number, the least significant one first. -/
def takeBits : (count number : Nat) → Inflater → Except Defect Inflater
  | 0, _, machine => .ok machine
  | count + 1, number, machine =>
    match machine.takeBit (number % 2 == 1) with
    | .error defect => .error defect
    | .ok next => takeBits count (number / 2) next

/-- At the end of a byte, begin the field that waits for the next one. -/
def settle (machine : Inflater) : Inflater :=
  match machine.phase with
  | .align use width => machine.enter (await use width)
  | _ => machine

/-- Take one byte. Bytes of a stored block and bytes after the end are taken whole. -/
def takeByte (machine : Inflater) (byte : UInt8) : Except Defect Inflater :=
  match machine.phase with
  | .stored last remaining =>
    let phase := if remaining ≤ 1 then afterBlock last else .stored last (remaining - 1)
    .ok (settle { machine with phase := phase, output := machine.output.push byte })
  | .finished unused => .ok (machine.enter (.finished (unused + 1)))
  | _ => (takeBits 8 byte.toNat machine).map settle

/-- Take a piece of the container. -/
def feed (machine : Inflater) (piece : Bytes) : Except Defect Inflater :=
  piece.foldlM takeByte machine

/-- How many bytes came after the end, if the end has come. -/
def unused? (machine : Inflater) : Option Nat :=
  match machine.phase with
  | .finished unused => some unused
  | _ => none

/-- Feeding two pieces one after the other is feeding their concatenation. -/
theorem feed_append (machine : Inflater) (first second : Bytes) :
    machine.feed (first ++ second) = (machine.feed first).bind fun next => next.feed second := by
  simp [feed, List.foldlM_append]
  rfl

end Inflater

end ChunkCodecs.Deflate
