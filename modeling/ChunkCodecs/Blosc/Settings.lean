import ChunkCodecs.Parameter

/-!
# Settings of the blosc codec

A blosc frame is made with an internal compressor, a level, a shuffle filter that
is applied before compression, and a size of the blocks that are compressed
separately, zero leaving the size to the library. The size is not bounded here.
-/

namespace ChunkCodecs.Blosc

/-- The internal compressors. -/
inductive Compressor where
  | zstd
  | blosclz
  | lz4
  | lz4hc
  | zlib
  deriving DecidableEq, Repr

namespace Compressor

/-- All internal compressors, in the order in which they are listed. -/
def all : List Compressor := [zstd, blosclz, lz4, lz4hc, zlib]

/-- The name of an internal compressor. -/
def name : Compressor → String
  | zstd => "zstd"
  | blosclz => "blosclz"
  | lz4 => "lz4"
  | lz4hc => "lz4hc"
  | zlib => "zlib"

/-- The internal compressor of a name. -/
def ofName? (name : String) : Option Compressor := all.find? fun compressor => compressor.name == name

/-- A compressor found under a name has that name. -/
theorem name_of_ofName? {name : String} {compressor : Compressor}
    (found : ofName? name = some compressor) : compressor.name = name := by
  simpa using List.find?_some found

end Compressor

/-- The filters that may be applied before compression. -/
inductive Shuffle where
  /-- No filter. -/
  | none
  /-- The bytes of equal significance come together. -/
  | bytes
  /-- The bits of equal significance come together. -/
  | bits
  deriving DecidableEq, Repr

namespace Shuffle

/-- The number of a filter. -/
def code : Shuffle → Nat
  | none => 0
  | bytes => 1
  | bits => 2

/-- The name of a filter. -/
def name : Shuffle → String
  | none => "NOSHUFFLE"
  | bytes => "BYTESHUFFLE"
  | bits => "BITSHUFFLE"

/-- The filter of a number. -/
def ofCode? (code : Int) : Option Shuffle :=
  if code = 0 then some none
  else if code = 1 then some bytes
  else if code = 2 then some bits
  else Option.none

/-- The filter with its number and name, as it is shown. -/
def shown (shuffle : Shuffle) : String := toString shuffle.code ++ " (" ++ shuffle.name ++ ")"

end Shuffle

/-- The settings of a blosc codec. -/
structure Settings where
  /-- The internal compressor. -/
  compressor : Compressor
  /-- The name under which the compressor was asked for. -/
  label : Parameter.Label
  /-- The name is that of the compressor. -/
  label_content : label.content = compressor.name
  /-- The compression level. -/
  level : Parameter.CompressionLevel
  /-- The filter before compression. -/
  shuffle : Shuffle
  /-- The size of blocks; zero leaves it to the library. -/
  blockSize : Nat
  deriving DecidableEq

namespace Settings

/-- The parameters that a blosc codec knows. -/
def knownKeys : List String := ["cname", "clevel", "shuffle", "blocksize"]

/-- The settings that hold where nothing else is asked for. -/
def standard : Settings := ⟨.lz4, .plain "lz4", rfl, 5, .bytes, 0⟩

/-- Settings of the given parts, if all are in range. They are checked in this order. -/
def ofParts (label : Parameter.Label) (level shuffle blockSize : Int) :
    Except ConfigurationFault Settings :=
  match known : Compressor.ofName? label.content with
  | none => .error (.bloscCompressor label.content)
  | some compressor =>
    match Parameter.compressionLevel? level with
    | none => .error (.bloscLevel level)
    | some level =>
      match Shuffle.ofCode? shuffle with
      | none => .error (.bloscShuffle shuffle)
      | some filter =>
        if blockSize < 0 then .error (.bloscBlockSize blockSize)
        else .ok ⟨compressor, label, (Compressor.name_of_ofName? known).symm, level, filter,
          blockSize.toNat⟩

/-- Settings as properties give them. -/
def ofProperties (properties : Properties) : Except Fault Settings := do
  let label ← Parameter.readOptional Parameter.readText properties ⟨"blosc: ", "cname"⟩
  let level ← Parameter.readOptional Parameter.readInt properties ⟨"blosc: ", "clevel"⟩
  let shuffle ← Parameter.readOptional Parameter.readInt properties ⟨"blosc: ", "shuffle"⟩
  let blockSize ← Parameter.readOptional Parameter.readInt properties ⟨"blosc: ", "blocksize"⟩
  (ofParts (label.getD standard.label) (level.getD standard.level.val)
    (shuffle.getD standard.shuffle.code) (blockSize.getD standard.blockSize)).mapError Fault.refuse

/-- The settings as properties. -/
def toProperties (settings : Settings) : Properties :=
  [(.text "cname", settings.label.toValue), (.text "clevel", .int settings.level.val),
    (.text "shuffle", .int settings.shuffle.code), (.text "blocksize", .int settings.blockSize)]

/-- Whether two settings are equal: a name counts by its text alone. -/
def agrees (left right : Settings) : Bool :=
  left.compressor == right.compressor && left.level == right.level &&
    left.shuffle == right.shuffle && left.blockSize == right.blockSize

end Settings

end ChunkCodecs.Blosc
