import ChunkCodecs.Value.Printer

/-!
# Faults

A fault is its cause. Configuration faults arise while a codec is built;
truncated and malformed inputs, failed calls of a backing library and missing
libraries arise while bytes are flowing. What a backing library or the reading of
a document reports on its own account passes through as a foreign fault.

Each cause has one wording, given by its `message`. A wording that would have to
show a whole number beyond the limit of `Value.isPrintable` cannot be given;
`Fault.refuse` reports that instead of the configuration fault.
-/

namespace ChunkCodecs

/-- A parameter of a codec, with the words that lead its name in messages. -/
structure ParameterName where
  /-- What precedes the key in a message. -/
  owner : String
  /-- The key under which properties hold the parameter. -/
  key : String
  deriving DecidableEq, Repr

/-- The name of a parameter in a message. -/
def ParameterName.shown (parameter : ParameterName) : String := parameter.owner ++ parameter.key

/-- The names of the shuffle filters, by their numbers. -/
def shuffleNames : List String := ["0 (NOSHUFFLE)", "1 (BYTESHUFFLE)", "2 (BITSHUFFLE)"]

/-- The internal compressors of blosc frames, in the order in which they are listed. -/
def bloscCompressorNames : List String := ["zstd", "blosclz", "lz4", "lz4hc", "zlib"]

/-- Texts as a list of literals. -/
def literalOfTexts (texts : List String) : String := (Value.list (texts.map Value.text)).literal

/-- Why a codec cannot be configured as asked. -/
inductive ConfigurationFault where
  /-- No codec identifier is given. -/
  | missingId
  /-- The identifier names no codec. -/
  | unknownId (given : Value)
  /-- More arguments follow a dictionary of properties. -/
  | argumentsAfterProperties
  /-- Keys and values do not pair up. -/
  | unpairedArguments (count : Nat)
  /-- A property name is not a text. -/
  | keyNotText (given : Value)
  /-- A truth value is given for a whole number. -/
  | truthForInteger (parameter : ParameterName) (given : Value)
  /-- A number is given that is not whole. -/
  | notWhole (parameter : ParameterName) (given : Value)
  /-- A text is given that is no numeral of a whole number. -/
  | notIntegerNumeral (parameter : ParameterName) (given : Value)
  /-- A value of another kind is given for a whole number. -/
  | notInteger (parameter : ParameterName) (given : Value)
  /-- A truth value is given for a number. -/
  | truthForNumber (parameter : ParameterName) (given : Value)
  /-- A text is given that is no numeral. -/
  | notNumeral (parameter : ParameterName) (given : Value)
  /-- A value of another kind is given for a number. -/
  | notNumber (parameter : ParameterName) (given : Value)
  /-- A value is given that is no truth value. -/
  | notTruth (parameter : ParameterName) (given : Value)
  /-- A byte string is given that is not ASCII. -/
  | notAscii (parameter : ParameterName) (given : Value)
  /-- A value of another kind is given for a text. -/
  | notText (parameter : ParameterName) (given : Value)
  /-- The level of deflate is out of range. -/
  | deflateLevel (level : Int)
  /-- The internal compressor of blosc is unknown. -/
  | bloscCompressor (name : String)
  /-- The level of blosc is out of range. -/
  | bloscLevel (level : Int)
  /-- The shuffle filter of blosc is unknown. -/
  | bloscShuffle (shuffle : Int)
  /-- The block size of blosc is negative. -/
  | bloscBlockSize (size : Int)
  /-- Samples have an unsupported count of bits. -/
  | sampleBits (bits : Int)
  /-- The count of channels is not positive. -/
  | channelCount (channels : Int)
  /-- A side of the image is neither positive nor unknown. -/
  | imageSide (key : String) (length : Int)
  /-- The image size is unknown where it is needed. -/
  | imageSizeRequired
  /-- An option text is neither a document nor a literal. -/
  | unreadableOptions (text : String)
  /-- An option text is not that of a dictionary. -/
  | optionsNotDictionary (text : String)

/-- Why an input ended too early. -/
inductive TruncationFault where
  /-- The input ended inside a part of known size. -/
  | endedEarly (expected : Nat) (part : String) (available : Nat)
  /-- A buffer is too short for a frame header. -/
  | shortHeader (available : Nat)

/-- Why stored bytes are no valid chunk. -/
inductive MalformedFault where
  /-- A frame declares less than its own header. -/
  | frameSize (declared : Nat)
  /-- A frame declares more than the format can hold. -/
  | sizeLimit (content frame : Nat)
  /-- A deflate container is corrupt. -/
  | corruptDeflate (reason : String)
  /-- A deflate container is incomplete. -/
  | unfinishedDeflate
  /-- A chunk does not have the size of its image. -/
  | imageBytes (expected : Int) (height width channels : Int) (actual : Nat)

/-- How a call of a backing library went wrong. -/
inductive NativeFault where
  /-- A buffer is too short to be asked for its sizes. -/
  | headerTooShort (available : Nat)
  /-- The frame size is out of range. -/
  | frameRange (declared limit : Nat)
  /-- The frame declares another content size. -/
  | contentSize (declared actual : Nat)
  /-- Blosc failed to compress. -/
  | compression (report : String)
  /-- Blosc failed to decompress. -/
  | decompression (report : String)
  /-- The raster service failed to encode. -/
  | rasterEncoding (report : String)
  /-- The raster service failed to decode. -/
  | rasterDecoding (report : String)

/-- Which backing library cannot be used. -/
inductive DependencyFault where
  /-- The blosc library cannot be loaded. -/
  | bloscMissing
  /-- The blosc library lacks entry points. -/
  | bloscLacks (names : List String)
  /-- The blosc library has another header size. -/
  | bloscHeader (size : Nat)
  /-- The raster service cannot be loaded. -/
  | rasterMissing
  /-- The raster service is too old. -/
  | rasterVersion (version : String)

/-- What a parser of expressions may run out of on a long chain of operations. -/
inductive Shortage where
  /-- The room for the rules that it is in the middle of. -/
  | room
  /-- The depth of the tree that it builds. -/
  | depth
  deriving DecidableEq, Repr

/-- A fault that a backing library, a caller or the surroundings answer for. -/
inductive ForeignFault where
  /-- A backing library reported a failure of a kind of its own. -/
  | library (kind : String) (report : String)
  /-- A whole number is beyond every double. -/
  | integerTooLarge
  /-- A fraction is beyond every double. -/
  | fractionTooLarge
  /-- A block size does not fit in 32 bits. -/
  | blockSizeBeyondInt
  /-- A block size does not fit in 64 bits. -/
  | blockSizeBeyondLong
  /-- A whole number has too many digits to be shown. -/
  | unprintableNumber
  /-- A numeral in a document has too many digits. -/
  | longNumeral (digits : Nat)
  /-- A document nests lists or dictionaries too deeply. -/
  | deepNesting (inArray : Bool)
  /-- The parser of expressions runs out of something. -/
  | exhausted (shortage : Shortage)
  /-- A value is a key or a member that cannot be one. -/
  | unhashable (typeName : String)
  /-- A value is spread over a dictionary and is none. -/
  | notMapping (typeName : String)
  /-- A call has arguments that do not fit. -/
  | badCall (reason : String)
  /-- A document does not follow its grammar. -/
  | documentSyntax (reason : String)
  /-- A file does not exist. -/
  | noSuchFile (path : String)
  /-- A path is that of a directory. -/
  | directory (path : String)
  /-- A path leads through a file as if it were a directory. -/
  | notDirectory (path : String)
  /-- A text file is not UTF-8. -/
  | notUtf8 (reason : String)
  /-- Elements cannot be laid out in the given shape. -/
  | reshape (count : Nat) (shape : List Nat)
  /-- Bytes do not divide into elements. -/
  | elementWidth
  /-- An image does not have the axes that its layout needs. -/
  | axes
  /-- No codec is registered under a name. -/
  | unregistered (shown : String)
  /-- A field of a finished configuration is assigned. -/
  | frozenField (name : String)
  /-- A codec has no configuration. -/
  | noConfiguration

/-- Anything that can go wrong. -/
inductive Fault where
  /-- A codec cannot be configured as asked. -/
  | configuration (cause : ConfigurationFault)
  /-- An input ended too early. -/
  | truncated (cause : TruncationFault)
  /-- Stored bytes are no valid chunk. -/
  | malformed (cause : MalformedFault)
  /-- A call of a backing library went wrong. -/
  | native (cause : NativeFault)
  /-- A backing library cannot be used. -/
  | dependency (cause : DependencyFault)
  /-- A fault of foreign origin. -/
  | foreign (cause : ForeignFault)

namespace ConfigurationFault

/-- The values that the wording of the fault shows. -/
def shownValues : ConfigurationFault → List Value
  | unknownId given => [given]
  | keyNotText given => [given]
  | truthForInteger _ given => [given]
  | notWhole _ given => [given]
  | notIntegerNumeral _ given => [given]
  | truthForNumber _ given => [given]
  | notNumeral _ given => [given]
  | notTruth _ given => [given]
  | notAscii _ given => [given]
  | deflateLevel level => [.int level]
  | bloscLevel level => [.int level]
  | bloscShuffle shuffle => [.int shuffle]
  | bloscBlockSize size => [.int size]
  | sampleBits bits => [.int bits]
  | channelCount channels => [.int channels]
  | imageSide _ length => [.int length]
  | _ => []

/-- The wording of a configuration fault. -/
def message : ConfigurationFault → String
  | missingId => "Compressor id is missing."
  | unknownId given =>
    "Compressor id:'" ++ given.display ++ "' not supported; expected one of " ++
      literalOfTexts (CodecId.all.map CodecId.name ++ CodecId.allAliases)
  | argumentsAfterProperties =>
    "Extra positional arguments are not allowed when properties are given as a mapping."
  | unpairedArguments count => "Key/value arguments must come in pairs, got " ++ toString count
  | keyNotText given => "Property names must be str, got " ++ given.literal
  | truthForInteger parameter given =>
    parameter.shown ++ " must be an integer but was a boolean: " ++ given.literal
  | notWhole parameter given => parameter.shown ++ " must be an integer but was: " ++ given.literal
  | notIntegerNumeral parameter given =>
    parameter.shown ++ " is not a valid integer: " ++ given.literal
  | notInteger parameter given =>
    parameter.shown ++ " must be an int or a str, got " ++ given.typeName
  | truthForNumber parameter given =>
    parameter.shown ++ " must be a number but was a boolean: " ++ given.literal
  | notNumeral parameter given => parameter.shown ++ " is not a valid number: " ++ given.literal
  | notNumber parameter given =>
    parameter.shown ++ " must be a number or a str, got " ++ given.typeName
  | notTruth parameter given => parameter.shown ++ " is not a valid boolean: " ++ given.literal
  | notAscii parameter given => parameter.shown ++ " is not an ASCII string: " ++ given.literal
  | notText parameter given => parameter.shown ++ " must be a str, got " ++ given.typeName
  | deflateLevel level => "zlib: invalid compression level: " ++ toString level
  | bloscCompressor name =>
    "blosc: compressor not supported: '" ++ name ++ "'; expected one of " ++
      literalOfTexts bloscCompressorNames
  | bloscLevel level =>
    "blosc: clevel parameter must be between 0 and 9 but was: " ++ toString level
  | bloscShuffle shuffle =>
    "blosc: shuffle type not supported: '" ++ toString shuffle ++ "'; expected one of " ++
      literalOfTexts shuffleNames
  | bloscBlockSize size =>
    "blosc: blocksize must be 0 (automatic) or a positive number of bytes but was: " ++
      toString size
  | sampleBits bits =>
    "j2k: bitsPerSample not supported: " ++ toString bits ++ "; expected one of [8, 16]"
  | channelCount channels => "j2k: channels must be positive but was: " ++ toString channels
  | imageSide key length =>
    "j2k: " ++ key ++ " must be positive (or -1 if unknown) but was: " ++ toString length
  | imageSizeRequired => "j2k: imageWidth and imageHeight are required to compress"
  | unreadableOptions text => "Cannot parse compressor options: " ++ Text.quoted text
  | optionsNotDictionary text =>
    "Compressor options must be a dictionary, got: " ++ Text.quoted text

end ConfigurationFault

/-- The wording of a truncation. -/
def TruncationFault.message : TruncationFault → String
  | endedEarly expected part available =>
    s!"Truncated input: expected {expected} bytes of {part}, got {available}"
  | shortHeader available => s!"blosc: header needs 16 bytes, got {available}"

/-- The wording of a malformed chunk. -/
def MalformedFault.message : MalformedFault → String
  | frameSize declared =>
    s!"blosc: declared frame size {declared} is smaller than the 16 byte header"
  | sizeLimit content frame =>
    s!"blosc: header sizes exceed the 2147483631 byte limit: nbytes={content}, cbytes={frame}"
  | corruptDeflate reason => "zlib: corrupt stream: " ++ reason
  | unfinishedDeflate => "zlib: unexpected end of stream"
  | imageBytes expected height width channels actual =>
    s!"j2k: expected {expected} bytes for a {height}x{width}x{channels} image, got {actual}"

/-- The wording of a failed library call. -/
def NativeFault.message : NativeFault → String
  | headerTooShort available =>
    s!"blosc: cannot introspect {available} bytes, a header is 16 bytes"
  | frameRange declared limit =>
    s!"blosc: compressed size {declared} out of range [16, {limit}]"
  | contentSize declared actual =>
    s!"blosc: frame declares {declared} bytes but {actual} were compressed"
  | compression report => "blosc: compression failed: " ++ report
  | decompression report => "blosc: decompression failed: " ++ report
  | rasterEncoding report => "j2k: encoding failed: " ++ report
  | rasterDecoding report => "j2k: decoding failed: " ++ report

/-- What to do when the blosc library is missing. -/
def bloscAdvice : String :=
  "The blosc codec requires the native blosc library bundled with numcodecs, which could not " ++
    "be loaded. Install it with `pip install numcodecs` (a binary wheel includes c-blosc)."

/-- What to do when the raster service is missing. -/
def rasterAdvice : String :=
  "The JPEG2000 codec requires glymur and the OpenJPEG (>= 2) shared library. Install them with " ++
    "`pip install glymur` and `conda install openjpeg` (or your system's openjpeg package); if " ++
    "OpenJPEG is installed in a non standard location, add it to the library search path " ++
    "(LD_LIBRARY_PATH / DYLD_LIBRARY_PATH) or point glymur to it in ~/.config/glymur/glymurrc."

/-- The wording of an unusable library. -/
def DependencyFault.message : DependencyFault → String
  | bloscMissing => bloscAdvice
  | bloscLacks names =>
    "Unsupported numcodecs release: numcodecs.blosc lacks " ++ literalOfTexts names ++ ". " ++
      bloscAdvice
  | bloscHeader size =>
    s!"Unsupported blosc build: header size is {size} bytes, expected 16."
  | rasterMissing => rasterAdvice
  | rasterVersion version => rasterAdvice ++ " (found OpenJPEG version: " ++ version ++ ")"

/-- A shape between parentheses; a single extent is followed by a comma. -/
def shapeText : List Nat → String
  | [extent] => s!"({extent},)"
  | extents => "(" ++ ",".intercalate (extents.map toString) ++ ")"

/-- The wording of a fault of foreign origin. -/
def ForeignFault.message : ForeignFault → String
  | library _ report => report
  | integerTooLarge => "int too large to convert to float"
  | fractionTooLarge => "integer division result too large for a float"
  | blockSizeBeyondInt => "value too large to convert to int"
  | blockSizeBeyondLong => "Python int too large to convert to C long"
  | unprintableNumber =>
    "Exceeds the limit (4300 digits) for integer string conversion; " ++
      "use sys.set_int_max_str_digits() to increase the limit"
  | longNumeral digits =>
    s!"Exceeds the limit (4300 digits) for integer string conversion: value has {digits} digits; " ++
      "use sys.set_int_max_str_digits() to increase the limit"
  | deepNesting inArray =>
    "maximum recursion depth exceeded while decoding a JSON " ++
      (if inArray then "array" else "object") ++ " from a unicode string"
  | exhausted .room => ""
  | exhausted .depth => "maximum recursion depth exceeded during ast construction"
  | unhashable typeName => "unhashable type: '" ++ typeName ++ "'"
  | notMapping typeName => "'" ++ typeName ++ "' object is not a mapping"
  | badCall reason => reason
  | documentSyntax reason => reason
  | noSuchFile path => "[Errno 2] No such file or directory: " ++ Text.quoted path
  | directory path => "[Errno 21] Is a directory: " ++ Text.quoted path
  | notDirectory path => "[Errno 20] Not a directory: " ++ Text.quoted path
  | notUtf8 reason => reason
  | reshape count shape =>
    s!"cannot reshape array of size {count} into shape " ++ shapeText shape
  | elementWidth =>
    "When changing to a larger dtype, its size must be a divisor of the total size in bytes of " ++
      "the last axis of the array."
  | axes => "axes don't match array"
  | unregistered shown => "codec not available: '" ++ shown ++ "'"
  | frozenField name => "cannot assign to field " ++ Text.quoted name
  | noConfiguration => "'IdentityCodec' object has no attribute 'config'"

namespace Fault

/-- The wording of a fault. -/
def message : Fault → String
  | configuration cause => cause.message
  | truncated cause => cause.message
  | malformed cause => cause.message
  | native cause => cause.message
  | dependency cause => cause.message
  | foreign cause => cause.message

/-- A configuration fault, if its wording can be given. -/
def refuse (cause : ConfigurationFault) : Fault :=
  if cause.shownValues.all Value.isPrintable then configuration cause
  else foreign .unprintableNumber

/-- Whether the fault is one of those that arise while bytes are flowing. -/
def isTransfer : Fault → Bool
  | truncated _ | malformed _ | native _ | dependency _ => true
  | configuration _ | foreign _ => false

end Fault

end ChunkCodecs
