import ChunkCodecs.Text.Blank
import ChunkCodecs.Text.Lower

/-!
# Codec identifiers

Four compression schemes are known by identifiers that are persisted beside the
chunks. Each scheme has further names under which older archives know it. A name
is looked up trimmed and without regard to case.
-/

namespace ChunkCodecs

/-- The known compression schemes. -/
inductive CodecId where
  /-- Chunks are stored as they are. -/
  | identity
  /-- Deflate in a zlib container. -/
  | zlib
  /-- A blosc frame. -/
  | blosc
  /-- A JPEG 2000 codestream. -/
  | j2k
  deriving DecidableEq, Repr, Inhabited

namespace CodecId

/-- All schemes, in the order in which they are listed. -/
def all : List CodecId := [identity, zlib, blosc, j2k]

/-- The persisted name of a scheme. -/
def name : CodecId → String
  | identity => "identity"
  | zlib => "zlib"
  | blosc => "blosc"
  | j2k => "j2k"

/-- The further names of a scheme, in the order of their code points. -/
def aliases : CodecId → List String
  | identity => ["none", "null", "raw"]
  | zlib => ["deflate", "generic-deflate"]
  | blosc => ["native-frame"]
  | j2k => ["external-raster", "jpeg2000"]

/-- The further names of all schemes, in the order of their code points. -/
def allAliases : List String :=
  ["deflate", "external-raster", "generic-deflate", "jpeg2000", "native-frame", "none", "null",
    "raw"]

/-- The scheme that is used when none is asked for. -/
def standard : CodecId := blosc

/-- The scheme with exactly the given name or further name. -/
def ofName? (name : String) : Option CodecId :=
  all.find? fun scheme => scheme.name == name || scheme.aliases.contains name

/-- The scheme that a persisted text names, blanks and case disregarded. -/
def ofText? (text : String) : Option CodecId := ofName? (Text.lower (Text.trim text))

/-- A scheme is found under its own name. -/
theorem ofText?_name (scheme : CodecId) : ofText? scheme.name = some scheme := by
  cases scheme <;> decide

end CodecId

end ChunkCodecs
