import ChunkCodecs.Blosc.Unpack

/-!
# Making blosc frames

A content is divided into blocks, each of which is one part of single-byte
elements. How large the blocks are depends on the content, the compressor and the
level, unless a size is asked for. The frame holds the content as it is if nothing
is to be compressed, if it is short, or if it would not shrink.
-/

namespace ChunkCodecs.Blosc

/-- The shortest content that is compressed. -/
def minContentSize : Nat := 128

/-- The least block size chosen for a long content. -/
def standardBlockSize : Nat := 32768

/-- Whether larger blocks are worth while for a compressor. -/
def Compressor.isThorough : Compressor → Bool
  | .lz4hc | .zlib | .zstd => true
  | .lz4 | .blosclz => false

/-- The block size that is chosen for a long content. -/
def chosenBlockSize (compressor : Compressor) (level : Nat) : Nat :=
  let start := if compressor.isThorough then 2 * standardBlockSize else standardBlockSize
  match level with
  | 0 => start / 4
  | 1 => start / 2
  | 2 => start
  | 3 => start * 2
  | 4 | 5 => start * 4
  | 6 | 7 | 8 => start * 8
  | _ => if compressor.isThorough then start * 16 else start * 8

/-- Whether blocks of a size are worth dividing. -/
def Compressor.divides (compressor : Compressor) (size : Nat) : Bool :=
  compressor != .zstd && minPartSize ≤ size

/-- The size of the blocks of a content. -/
def blockSizeFor (settings : Settings) (size : Nat) : Nat :=
  if size = 0 then 1
  else
    let wanted :=
      if settings.blockSize ≠ 0 then min maxBlockSize (max minPartSize settings.blockSize)
      else if standardBlockSize ≤ size then chosenBlockSize settings.compressor settings.level
      else size
    let fitted :=
      if 0 < settings.level.val && settings.compressor.divides wanted then
        max 65536 (min wanted 262144)
      else wanted
    min fitted size

/-- The flag of a filter. -/
def Shuffle.flag : Shuffle → Nat
  | .none => 0
  | .bytes => 1
  | .bits => 4

/-- A block as one part. -/
def packBlock (settings : Settings) (block : Bytes) : Bytes :=
  let filtered := match settings.shuffle with
    | .bits => (shuffleBits 1 block.toArray).toList
    | _ => block
  let coded := settings.compressor.format.encode settings.level filtered
  let part := if coded.length < filtered.length then coded else filtered
  littleEndian 4 part.length ++ part

/-- The places of blocks of which the first one stands at a place. -/
def placesFrom (place : Nat) : List Bytes → List Nat
  | [] => []
  | block :: rest => place :: placesFrom (place + block.length) rest

/-- The payload of a frame with compressed blocks. -/
def packBlocks (settings : Settings) (blockSize : Nat) (content : Bytes) : Bytes :=
  let blocks := (pieces blockSize content).map (packBlock settings)
  (placesFrom (headerSize + 4 * blocks.length) blocks).flatMap (littleEndian 4) ++ blocks.flatten

/-- The frame of a content. -/
def pack (settings : Settings) (content : Bytes) : Bytes :=
  let blockSize := blockSizeFor settings content.length
  let undivided := if settings.compressor.divides blockSize then 0 else 0x10
  let flags := settings.shuffle.flag + undivided + 32 * settings.compressor.format.code
  let header (further payload : Nat) : Bytes :=
    Header.toBytes ⟨2, 1, UInt8.ofNat (flags + further), 1, UInt32.ofNat content.length,
      UInt32.ofNat blockSize, UInt32.ofNat (headerSize + payload)⟩
  let stored := header 2 content.length ++ content
  if settings.level.val = 0 || content.length < minContentSize then stored
  else
    let payload := packBlocks settings blockSize content
    if payload.length < content.length then header 0 payload.length ++ payload else stored

end ChunkCodecs.Blosc
