import ChunkCodecs.Codec.Flow
import ChunkCodecs.Storage.NumericArray

/-!
# Codecs of array stores

An array store keeps the configuration of its codec beside the array and looks the
codec up by a name under which all codecs of this library are registered. The
configuration is that name, the identifier of the codec inside, and its parameters.

Arrays are encoded as the bytes of their memory. A decoded chunk is given as bytes,
or fills an array that the caller provides. Two such codecs are equal if their
configurations are.
-/

namespace ChunkCodecs

namespace Properties

/-- Whether two dictionaries bind the same keys to equal values, in any order. -/
def agree (left right : Properties) : Bool :=
  left.length == right.length && left.all fun entry =>
    match right.get? entry.1 with
    | some value => entry.2.sameKey value
    | none => false

end Properties

/-- A codec as array stores use it. -/
structure ArrayCodec where
  /-- The codec inside. -/
  codec : Codec
  deriving DecidableEq

namespace ArrayCodec

/-- The name under which the codecs are registered. -/
def registeredName : String := "linc_codecs"

/-- The key of the codec inside. -/
def compressorKey : String := "compressor"

/-- The codec of an identifier and properties. -/
def create (compressor : Value) (properties : Properties) : Logged ArrayCodec :=
  let logged := Codec.create compressor [.dict properties] []
  ⟨logged.journal, logged.result.map ArrayCodec.mk⟩

/-- The configuration that is kept beside an array. -/
def configuration (arrayCodec : ArrayCodec) : Properties :=
  (.text "id", .text registeredName) ::
    (.text compressorKey, .text arrayCodec.codec.identifier) :: arrayCodec.codec.parameters

/-- The codec in one line. -/
def describe (arrayCodec : ArrayCodec) : String :=
  "ChunkCodec(" ++ arrayCodec.codec.describe ++ ")"

/-- Whether two codecs are equal. -/
def agrees (left right : ArrayCodec) : Bool := left.configuration.agree right.configuration

/-- A call that cannot be made. -/
def refuseCall {α : Type} (reason : String) : Logged α := ⟨[], .error (.foreign (.badCall reason))⟩

/-- Build a codec as a caller asks for it: the identifier comes first or by its
name, blosc if neither, and all other options are properties. -/
def call (arguments : List Value) (options : Properties) : Logged ArrayCodec :=
  let taken := if arguments.isEmpty then ["self"] else ["self", compressorKey]
  if options.keys.any fun key => key.text?.isNone then refuseCall "keywords must be strings"
  else
    match options.keys.find? fun key => taken.any fun name => key.sameKey (.text name) with
    | some key =>
      refuseCall ("ChunkCodec.__init__() got multiple values for argument " ++
        Text.quoted key.display)
    | none =>
      let others := options.filter fun entry => !entry.1.sameKey (.text compressorKey)
      match arguments with
      | [] => create ((options.lookup compressorKey).getD (.text CodecId.standard.name)) others
      | [compressor] => create compressor others
      | _ =>
        refuseCall ("ChunkCodec.__init__() takes from 1 to 2 positional arguments but " ++
          toString (arguments.length + 1) ++ " were given")

/-- Look a codec up by its configuration. -/
def ofConfiguration (configuration : Properties) : Logged ArrayCodec :=
  let id := (configuration.lookup "id").getD .none
  if id.sameKey (.text registeredName) then
    call [] (configuration.filter fun entry => !entry.1.sameKey (.text "id"))
  else ⟨[], .error (.foreign (.unregistered id.literal))⟩

/-- The codec around a codec, rebuilt from its parameters. -/
def ofCodec (codec : Codec) : Logged ArrayCodec :=
  call [.text codec.identifier] codec.parameters

/-- What comes of asking for a compressor by anything at all. -/
inductive Made where
  /-- A codec of this library. -/
  | codec (arrayCodec : ArrayCodec)
  /-- What was given, unchanged. -/
  | unchanged (given : Value)

/-- Make a compressor of a name and options; what is no name is given back. -/
def make (name : Value) (options : Properties) : Logged Made :=
  if options.keys.any fun key => key.text?.isNone then refuseCall "keywords must be strings"
  else if (options.lookup "name").isSome then
    refuseCall "make_compressor() got multiple values for argument 'name'"
  else if name.text?.isNone then ⟨[], .ok (.unchanged name)⟩
  else
    let logged := call [name] options
    ⟨logged.journal, logged.result.map Made.codec⟩

/-- Encode an array. -/
def encode (backing : Backing) (arrayCodec : ArrayCodec) (array : NumericArray) : Logged Bytes :=
  arrayCodec.codec.encode backing array.memory

/-- Decode a chunk into bytes. -/
def decode (backing : Backing) (arrayCodec : ArrayCodec) (encoded : Bytes) : Logged Bytes :=
  arrayCodec.codec.decode backing encoded

/-- Decode a chunk into an array that the caller provides. -/
def decodeInto (backing : Backing) (arrayCodec : ArrayCodec) (encoded : Bytes)
    (array : NumericArray) : Logged NumericArray :=
  let logged := arrayCodec.decode backing encoded
  ⟨logged.journal, logged.result.bind array.fill⟩

/-- Decode a chunk onto the array that the caller owns. -/
def decodeOnto (backing : Backing) (arrayCodec : ArrayCodec) (encoded : Bytes) :
    ExceptT Fault (StateM NumericArray) Unit := do
  let decoded ← MonadExcept.ofExcept (arrayCodec.decode backing encoded).result
  let filled ← MonadExcept.ofExcept ((← get).fill decoded)
  set filled

end ArrayCodec

end ChunkCodecs
