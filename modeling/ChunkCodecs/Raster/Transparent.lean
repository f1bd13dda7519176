import ChunkCodecs.Raster.Service
import ChunkCodecs.Text.Digit

/-!
# The transparent raster service

A service that does not compress. Its codestream is a line of text, which gives the
type of the samples, the shape and the options of the encoding, and then the
samples, most significant byte first. Whatever is encoded is got back unchanged, so
the service stands in where the work of a codec itself is looked at.
-/

namespace ChunkCodecs.Raster.Transparent

/-- The word that a codestream begins with. -/
def lead : String := "FAKEJ2K"

/-- The name of a type of samples. -/
def typeWord (sampleType : SampleType) : String :=
  (if sampleType.signed then "i" else "u") ++ toString sampleType.bytes

/-- The options of an encoding by their names, in alphabetical order. -/
def optionWords (encoding : Encoding) : List String :=
  ["irreversible=" ++ (if encoding.lossless then "False" else "True"),
    "numres=" ++ toString resolutionCount] ++
  match encoding.target with
  | some target => ["psnr=[" ++ target.render ++ "]"]
  | none => []

/-- The codestream of an image. -/
def encode (image : Image) (encoding : Encoding) : Except Alarm Bytes :=
  let extents := "x".intercalate (image.shape.map toString)
  let words := [lead, typeWord image.sampleType, extents] ++ optionWords encoding
  let line := " ".intercalate words ++ "\n"
  .ok (line.toUTF8.toList ++ writeSamples false image.sampleType.bytes image.samples)

/-- The types of samples that a codestream may have. -/
def sampleTypes : List SampleType := [⟨1, false⟩, ⟨2, false⟩, ⟨4, false⟩, ⟨1, true⟩, ⟨2, true⟩]

/-- Whether a byte separates the words of a line. -/
def isSeparator (byte : UInt8) : Bool := byte = 32 || (9 ≤ byte && byte ≤ 13)

/-- The words of a line. -/
def wordsOf (line : Bytes) : List String :=
  let pieces := line.splitOnP isSeparator
  (pieces.filter fun piece => !piece.isEmpty).map fun piece =>
    String.ofList (piece.map fun byte => Char.ofNat byte.toNat)

/-- The shape that a word gives. -/
def readShape? (word : String) : Option Shape :=
  (word.toList.splitOnP (· == 'x')).mapM fun digits =>
    (Numeral.readInt? digits).bind fun extent => if 0 ≤ extent then some extent.toNat else none

/-- The number that a sample of two's complement stands for. -/
def interpret (sampleType : SampleType) (number : Int) : Int :=
  let range : Int := (256 ^ sampleType.bytes : Nat)
  if sampleType.signed && range ≤ 2 * number then number - range else number

/-- The image that a type, a shape and the bytes of samples make. -/
def assemble (sampleType : SampleType) (shape : Shape) (content : Bytes) : Except Alarm Image :=
  let samples := (readSamples false sampleType.bytes content).map (interpret sampleType)
  if filled : samples.length = shape.volume ∧ content.length = shape.volume * sampleType.bytes then
    .ok ⟨sampleType, shape, samples, filled.1⟩
  else .error (.reported "bad sample count")

/-- The image of a codestream. -/
def decode (codestream : Bytes) : Except Alarm Image :=
  let line := codestream.takeWhile (· ≠ 10)
  let refused : Alarm := .reported "not a codestream"
  if line.length = codestream.length then .error refused
  else match wordsOf line with
    | word :: typeName :: extents :: _ =>
      if word ≠ lead then .error refused
      else match sampleTypes.find? (typeWord · == typeName), readShape? extents with
        | some sampleType, some shape =>
          assemble sampleType shape (codestream.drop (line.length + 1))
        | _, _ => .error refused
    | _ => .error refused

end ChunkCodecs.Raster.Transparent

namespace ChunkCodecs.Raster

/-- The transparent service of a version. -/
def Service.transparent (version : String) : Service :=
  ⟨version, Transparent.encode, Transparent.decode⟩

end ChunkCodecs.Raster
