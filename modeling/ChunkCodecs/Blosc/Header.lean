import ChunkCodecs.Blosc.Settings

/-!
# The header of a blosc frame

A frame begins with sixteen bytes: the version of the format, the version of the
internal compressor's format, flags and the size of an element, a byte each, and
then the size of the content, of a block and of the whole frame, four bytes each,
least significant first.

The flags tell the filter, whether the content is stored as it is, and in their
top three bits the format of the internal compressor. A header is refused only if
the buffer is shorter than it or if the frame would be smaller than it.
-/

namespace ChunkCodecs.Blosc

/-- The bytes of a header. -/
def headerSize : Nat := 16

/-- The largest content that a frame can have. -/
def maxContentSize : Nat := 2 ^ 31 - 1 - headerSize

/-- The sizes that a header declares. -/
structure FrameSizes where
  /-- Bytes of the content. -/
  content : Nat
  /-- Bytes of the frame, header included. -/
  frame : Nat
  /-- Bytes of a block. -/
  block : Nat
  deriving DecidableEq, Repr

/-- A header, field by field. -/
structure Header where
  /-- The version of the format. -/
  version : UInt8
  /-- The version of the internal compressor's format. -/
  compressorVersion : UInt8
  /-- Filter, storage and format of the content. -/
  flags : UInt8
  /-- The size of an element. -/
  elementSize : UInt8
  /-- Bytes of the content. -/
  contentSize : UInt32
  /-- Bytes of a block. -/
  blockSize : UInt32
  /-- Bytes of the frame, header included. -/
  frameSize : UInt32
  deriving DecidableEq

namespace Header

/-- The header at the start of a buffer, whatever it declares. -/
def parse? : Bytes → Option Header
  | version :: compressorVersion :: flags :: elementSize ::
      n0 :: n1 :: n2 :: n3 :: b0 :: b1 :: b2 :: b3 :: c0 :: c1 :: c2 :: c3 :: _ =>
    let word (bytes : Bytes) : UInt32 := UInt32.ofNat (littleEndianValue bytes)
    some ⟨version, compressorVersion, flags, elementSize, word [n0, n1, n2, n3],
      word [b0, b1, b2, b3], word [c0, c1, c2, c3]⟩
  | _ => none

/-- The sixteen bytes of a header. -/
def toBytes (header : Header) : Bytes :=
  [header.version, header.compressorVersion, header.flags, header.elementSize] ++
    littleEndian 4 header.contentSize.toNat ++ littleEndian 4 header.blockSize.toNat ++
    littleEndian 4 header.frameSize.toNat

/-- The header at the start of a buffer, if the buffer holds one and the frame is
no smaller than its header. -/
def ofBytes (buffer : Bytes) : Except Fault Header :=
  match parse? buffer with
  | none => .error (.truncated (.shortHeader buffer.length))
  | some header =>
    if header.frameSize.toNat < headerSize then
      .error (.malformed (.frameSize header.frameSize.toNat))
    else .ok header

/-- The declared sizes. -/
def sizes (header : Header) : FrameSizes :=
  ⟨header.contentSize.toNat, header.frameSize.toNat, header.blockSize.toNat⟩

/-- The filter: bytes before bits if both flags are set. -/
def shuffle (header : Header) : Shuffle :=
  if header.flags &&& 1 ≠ 0 then .bytes
  else if header.flags &&& 4 ≠ 0 then .bits
  else .none

/-- Whether the content is stored as it is. -/
def isStored (header : Header) : Bool := header.flags &&& 2 != 0

/-- The code of the internal compressor's format. -/
def formatCode (header : Header) : Nat := header.flags.toNat / 32

/-- The name of an internal compressor's format. -/
def formatName (code : Nat) : String :=
  match code with
  | 0 => "blosclz"
  | 1 => "lz4"
  | 2 => "snappy"
  | 3 => "zlib"
  | 4 => "zstd"
  | other => s!"unknown({other})"

/-- The header for a reader, entry by entry. -/
def describe (header : Header) : Properties :=
  [(.text "version", .int header.version.toNat),
    (.text "versionlz", .int header.compressorVersion.toNat),
    (.text "compressor", .text (formatName header.formatCode)),
    (.text "shuffle", .text header.shuffle.shown),
    (.text "memcpyed", .bool header.isStored),
    (.text "typesize", .int header.elementSize.toNat),
    (.text "nbytes", .int header.contentSize.toNat),
    (.text "cbytes", .int header.frameSize.toNat),
    (.text "blocksize", .int header.blockSize.toNat)]

/-- A header takes its size. -/
@[simp] theorem toBytes_length (header : Header) : header.toBytes.length = headerSize := by
  simp [toBytes, headerSize]

end Header

end ChunkCodecs.Blosc
