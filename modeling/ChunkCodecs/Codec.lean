import ChunkCodecs.Blosc.Settings
import ChunkCodecs.Deflate.Settings
import ChunkCodecs.Raster.Settings

/-!
# Codecs

A codec is a compression scheme with its settings. It never changes, so it can be
shared and used for every chunk of an array. Its configuration, the identifier
and the settings as properties, is what is persisted beside the chunks.
-/

namespace ChunkCodecs

/-- A compression scheme with its settings. -/
inductive Codec where
  /-- Chunks are stored as they are. -/
  | identity
  /-- Deflate in a zlib container. -/
  | deflate (settings : Deflate.Settings)
  /-- A blosc frame. -/
  | blosc (settings : Blosc.Settings)
  /-- A JPEG 2000 codestream. -/
  | raster (settings : Raster.Settings)
  deriving DecidableEq

namespace Codec

/-- The compression scheme of a codec. -/
def scheme : Codec → CodecId
  | identity => .identity
  | deflate _ => .zlib
  | blosc _ => .blosc
  | raster _ => .j2k

/-- The persisted name of the compression scheme. -/
def identifier (codec : Codec) : String := codec.scheme.name

/-- The settings as properties: enough to rebuild the codec. -/
def parameters : Codec → Properties
  | identity => []
  | deflate settings => settings.toProperties
  | blosc settings => settings.toProperties
  | raster settings => settings.toProperties

/-- The configuration that is persisted beside the chunks. -/
def configuration (codec : Codec) : Properties :=
  (.text "id", .text codec.identifier) :: codec.parameters

/-- Whether two codecs are equal: of one scheme and with equal settings. -/
def agrees : Codec → Codec → Bool
  | identity, identity => true
  | deflate left, deflate right => left == right
  | blosc left, blosc right => left.agrees right
  | raster left, raster right => left.agrees right
  | _, _ => false

/-- A codec in one line: its scheme and its settings. -/
def describe (codec : Codec) : String :=
  let settings := codec.parameters.map fun (key, value) => key.display ++ "=" ++ value.display
  "/".intercalate (("compressor=" ++ codec.identifier) :: settings)

/-- Whether the description of a codec can be given. -/
def isPrintable (codec : Codec) : Bool := codec.parameters.all fun entry => entry.2.isPrintable

/-- What comes of assigning a field of the settings of a finished codec: never a
change. The identity codec has no settings. -/
def assign (codec : Codec) (field : String) : Fault :=
  match codec with
  | identity => .foreign .noConfiguration
  | _ => .foreign (.frozenField field)

end Codec

end ChunkCodecs
