import ChunkCodecs.Codec

/-!
# Building codecs

A codec is asked for by an identifier and properties, in one of four forms: a
dictionary that holds the identifier under `id`; an identifier and a dictionary;
an identifier followed by keys and values in turn; or either of these with named
options, which override what came before. The four forms lead to one dictionary
of properties and one identifier, and from there on they are the same.

Keys that the codec does not use are recorded as a warning before the settings
are checked; the codec that is built is recorded for tracing.
-/

namespace ChunkCodecs

/-- What an operation recorded, and what came of it. -/
structure Logged (α : Type) where
  /-- The records of the operation. -/
  journal : Journal
  /-- The result, or why there is none. -/
  result : Except Fault α

namespace Codec

/-- Every other element, beginning with the first. -/
def everyOther {α : Type} : List α → List α
  | [] => []
  | [single] => [single]
  | first :: _ :: rest => first :: everyOther rest

/-- The dictionary of alternating keys and values. All keys are checked before
any is bound. -/
def pairUp (arguments : List Value) : Except ConfigurationFault Properties :=
  if arguments.length % 2 ≠ 0 then .error (.unpairedArguments arguments.length)
  else
    let keys := everyOther arguments
    match keys.find? fun key => key.text?.isNone with
    | some key => .error (.keyNotText key)
    | none => .ok (Properties.ofEntries (keys.zip (everyOther (arguments.drop 1))))

/-- The scheme that an identifier names. -/
def resolve : Value → Except ConfigurationFault CodecId
  | .none => .error .missingId
  | .codec scheme => .ok scheme
  | .text content =>
    match CodecId.ofText? content with
    | some scheme => .ok scheme
    | none => .error (.unknownId (.text content))
  | other => .error (.unknownId other)

/-- The parameters that a scheme warns about not using; the identity codec
accepts everything in silence. -/
def knownKeys? : CodecId → Option (List String)
  | .identity => none
  | .zlib => some Deflate.Settings.knownKeys
  | .blosc => some Blosc.Settings.knownKeys
  | .j2k => some Raster.Settings.knownKeys

/-- The codec of a scheme with the settings that properties give. -/
def configure (scheme : CodecId) (properties : Properties) : Except Fault Codec :=
  match scheme with
  | .identity => .ok identity
  | .zlib => (Deflate.Settings.ofProperties properties).map deflate
  | .blosc => (Blosc.Settings.ofProperties properties).map blosc
  | .j2k => (Raster.Settings.ofProperties properties).map raster

/-- Build the codec of a scheme, with a warning about unused properties and a
trace of the codec. -/
def build (scheme : CodecId) (properties : Properties) : Logged Codec :=
  let warnings := match knownKeys? scheme with
    | none => []
    | some known => Parameter.warnUnknown properties known scheme.name
  match configure scheme properties with
  | .error fault => ⟨warnings, .error fault⟩
  | .ok codec =>
    if codec.isPrintable then
      ⟨warnings ++ [⟨.debug, .factory, "Created codec " ++ codec.describe⟩], .ok codec⟩
    else ⟨warnings, .error (.foreign .unprintableNumber)⟩

/-- The identifier and the properties that the arguments of a request amount to,
before named options are added. -/
def gather (first : Value) (further : List Value) : Except ConfigurationFault (Value × Properties) :=
  match first with
  | .dict entries =>
    if further.isEmpty then .ok ((Properties.lookup entries "id").getD .none, entries)
    else .error .argumentsAfterProperties
  | _ =>
    match further with
    | [.dict entries] => .ok (first, entries)
    | _ => (pairUp further).map fun properties => (first, properties)

/-- Build a codec from an identifier or a dictionary, further arguments and
named options. -/
def create (first : Value) (further : List Value) (options : Properties) : Logged Codec :=
  match gather first further with
  | .error cause => ⟨[], .error (Fault.refuse cause)⟩
  | .ok (id, properties) =>
    match resolve id with
    | .error cause => ⟨[], .error (Fault.refuse cause)⟩
    | .ok scheme => build scheme (properties.update options)

/-- Build a codec from properties that hold its identifier. -/
def ofProperties (properties : Properties) : Logged Codec := create (.dict properties) [] []

/-- The properties of the standard codec, its identifier included. -/
def standardProperties : Properties :=
  (.text "id", .text CodecId.standard.name) :: Blosc.Settings.standard.toProperties

/-- Build the standard codec. -/
def createStandard : Logged Codec := ofProperties standardProperties

/-- The name of the first parameter of a request. -/
def firstParameter : String := "id_or_properties"

/-- Build a codec as a caller asks for it: the first argument may also be given
by its name, but not both ways, and every option has a text as its name. -/
def call (arguments : List Value) (options : Properties) : Logged Codec :=
  if options.keys.any fun key => key.text?.isNone then
    ⟨[], .error (.foreign (.badCall "keywords must be strings"))⟩
  else
    let named := options.lookup firstParameter
    let others := options.filter fun entry => !entry.1.sameKey (.text firstParameter)
    match arguments, named with
    | first :: further, none => create first further others
    | [], some first => create first [] others
    | _ :: _, some _ =>
      ⟨[], .error (.foreign (.badCall
        ("create() got multiple values for argument '" ++ firstParameter ++ "'")))⟩
    | [], none =>
      ⟨[], .error (.foreign (.badCall
        ("create() missing 1 required positional argument: '" ++ firstParameter ++ "'")))⟩

end Codec

end ChunkCodecs
