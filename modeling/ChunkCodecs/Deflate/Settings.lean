import ChunkCodecs.Parameter

/-!
# Settings of the deflate codec

Deflate has one setting, the level, from 0 for no compression to 9 for the best.
-/

namespace ChunkCodecs.Deflate

/-- The settings of a deflate codec. -/
structure Settings where
  /-- The compression level. -/
  level : Parameter.CompressionLevel := 1
  deriving DecidableEq

namespace Settings

/-- The parameters that a deflate codec knows. -/
def knownKeys : List String := ["level"]

/-- Settings with the given level, if it is in range. -/
def ofLevel (level : Int) : Except ConfigurationFault Settings :=
  match Parameter.compressionLevel? level with
  | some level => .ok ⟨level⟩
  | none => .error (.deflateLevel level)

/-- Settings as properties give them. -/
def ofProperties (properties : Properties) : Except Fault Settings := do
  let level ← Parameter.readOptional Parameter.readInt properties ⟨"zlib: ", "level"⟩
  (ofLevel (level.getD 1)).mapError Fault.refuse

/-- The settings as properties. -/
def toProperties (settings : Settings) : Properties :=
  [(.text "level", .int settings.level.val)]

end Settings

end ChunkCodecs.Deflate
