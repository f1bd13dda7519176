import ChunkCodecs.Alarm
import ChunkCodecs.Raster.Image
import ChunkCodecs.Number.Numeral
import ChunkCodecs.Text.Blank

/-!
# The service behind raster codecs

A raster service turns images into codestreams and back. It is a parameter of
everything that is said about raster chunks. It may be missing, be too old, or
fail in a call; and the image it makes of a codestream may be any image.

A service is recent enough if its version begins with a whole number of at least
two, up to the first point.
-/

namespace ChunkCodecs.Raster

/-- How an image is to be encoded. -/
structure Encoding where
  /-- Whether every sample has to survive. -/
  lossless : Bool
  /-- The signal-to-noise ratio aimed at, in decibels. -/
  target : Option Double
  deriving DecidableEq

/-- The count of resolutions of a codestream: the image and one reduced copy. -/
def resolutionCount : Nat := 2

/-- A raster service. -/
structure Service where
  /-- Its version. -/
  version : String
  /-- Make a codestream of an image. -/
  encode : Image → Encoding → Except Alarm Bytes
  /-- Make an image of a codestream. -/
  decode : Bytes → Except Alarm Image

/-- The oldest usable version. -/
def oldestVersion : Int := 2

/-- Whether a version is recent enough. -/
def isRecent (version : String) : Bool :=
  match Numeral.readInt? (Text.trimChars (version.toList.takeWhile (· != '.'))) with
  | some number => oldestVersion ≤ number
  | none => false

/-- Check that a service can be used. -/
def Service.load (service : Option Service) : Except Fault Service :=
  match service with
  | none => .error (.dependency .rasterMissing)
  | some found =>
    if isRecent found.version then .ok found
    else .error (.dependency (.rasterVersion found.version))

end ChunkCodecs.Raster
