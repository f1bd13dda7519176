import ChunkCodecs.Alarm
import ChunkCodecs.Blosc.Header
import ChunkCodecs.Journal

/-!
# The library behind blosc frames

A blosc library makes frames and takes them apart, and may know how to read the
sizes of a frame. It is a parameter of everything that is said about blosc
chunks: all that is required of it is that it fills the whole destination when it
decompresses. It may fail to load, lack entry points, have headers of another
size, or fail in a call.

The sizes of a frame are read by the library if it can, and from the fixed layout
of the header otherwise. Either way they are bounded by what the format can hold.
-/

namespace ChunkCodecs.Blosc

/-- What a library must offer. -/
inductive EntryPoint where
  | compress
  | decompress
  | listCompressors
  | maxOverhead
  | version
  deriving DecidableEq, Repr

namespace EntryPoint

/-- All entry points that are relied on, in the order in which they are looked for. -/
def all : List EntryPoint := [compress, decompress, listCompressors, maxOverhead, version]

/-- The name of an entry point. -/
def name : EntryPoint → String
  | compress => "compress"
  | decompress => "decompress"
  | listCompressors => "list_compressors"
  | maxOverhead => "MAX_OVERHEAD"
  | version => "VERSION_STRING"

end EntryPoint

/-- A blosc library. -/
structure Library where
  /-- The entry points that it lacks. -/
  lacking : List EntryPoint
  /-- The size of its headers. -/
  overhead : Nat
  /-- Its version. -/
  version : String
  /-- The internal compressors that it contains. -/
  compressors : List String
  /-- How it reads the sizes of a frame, if it does. -/
  frameSizes? : Option (Bytes → FrameSizes)
  /-- Make a frame of a content; the buffer may be longer than the frame. -/
  compress : Settings → Bytes → Except Alarm Bytes
  /-- Take a frame apart into a destination of a given size. -/
  decompress : Bytes → (size : Nat) → Except Alarm { content : Bytes // content.length = size }

/-- Check that a library can be used, and record that it is. -/
def Library.load (library : Option Library) : Except Fault Library × Journal :=
  match library with
  | none => (.error (.dependency .bloscMissing), [])
  | some found =>
    match EntryPoint.all.filter found.lacking.contains with
    | [] =>
      if found.overhead = headerSize then
        (.ok found, [⟨.debug, .bloscLibrary, "Loaded blosc " ++ found.version⟩])
      else (.error (.dependency (.bloscHeader found.overhead)), [])
    | missing => (.error (.dependency (.bloscLacks (missing.map EntryPoint.name))), [])

/-- Refuse sizes that no frame can have. -/
def checkLimits (sizes : FrameSizes) : Except Fault FrameSizes :=
  if maxContentSize < sizes.content || maxContentSize + headerSize < sizes.frame then
    .error (.malformed (.sizeLimit sizes.content sizes.frame))
  else .ok sizes

/-- The sizes of the frame that a header belongs to, read with a loaded library. -/
def Library.introspect (library : Library) (header : Bytes) : Except Fault FrameSizes :=
  match library.frameSizes? with
  | some read => checkLimits (read (header.take headerSize))
  | none => (Header.ofBytes header).bind fun parsed => checkLimits parsed.sizes

/-- The sizes of the frame that a header belongs to. A buffer that is too short is
refused before the library is asked for. -/
def introspect (library : Option Library) (header : Bytes) : Except Fault FrameSizes × Journal :=
  if header.length < headerSize then (.error (.native (.headerTooShort header.length)), [])
  else
    match Library.load library with
    | (.error fault, journal) => (.error fault, journal)
    | (.ok loaded, journal) => (loaded.introspect header, journal)

/-- The internal compressors of the library. -/
def availableCompressors (library : Option Library) : Except Fault (List String) :=
  (Library.load library).1.map Library.compressors

end ChunkCodecs.Blosc
