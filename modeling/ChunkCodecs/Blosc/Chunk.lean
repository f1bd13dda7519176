import ChunkCodecs.Blosc.Library
import ChunkCodecs.Transfer

/-!
# Chunks as blosc frames

A compressed chunk is one frame. The frame that the library makes is trusted only
after its sizes have been checked: it is no larger than the buffer and than the
content with a header, and it declares the content's size. To take a chunk apart
the header is read, then exactly as many bytes as it declares; an empty content
is not handed to the library. How the sizes of a frame are told is a parameter, and
so is the setting in which the library is asked, so that what it is asked can be
observed; the codecs let the library tell the sizes if it can.

Nothing is written unless the whole result can be.
-/

namespace ChunkCodecs.Blosc

/-- The greatest frame that may be cut from a buffer for a content of a size. -/
def frameLimit (buffer : Bytes) (size : Nat) : Nat := min buffer.length (size + headerSize)

/-- Cut the frame of a content out of the buffer that a library returned. -/
def trimFrame (buffer : Bytes) (sizes : FrameSizes) (size : Nat) : Except Fault Bytes :=
  if sizes.frame < headerSize || frameLimit buffer size < sizes.frame then
    .error (.native (.frameRange sizes.frame (frameLimit buffer size)))
  else if sizes.content ≠ size then .error (.native (.contentSize sizes.content size))
  else .ok (buffer.take sizes.frame)

/-- How the sizes of a frame are told by its header. The telling may fail in any way. -/
abbrev Telling : Type := Library → Bytes → Except Fault FrameSizes

/-- The frame that a loaded library makes of a content, where the sizes are told in some
way. -/
def Library.encodeTold (tell : Telling) (library : Library) (settings : Settings)
    (content : Bytes) : Except Fault Bytes :=
  match library.compress settings content with
  | .error alarm => .error (alarm.toFault .compression)
  | .ok buffer =>
    let header := buffer.take headerSize
    if header.length < headerSize then .error (.native (.headerTooShort header.length))
    else (tell library header).bind fun sizes => trimFrame buffer sizes content.length

/-- The frame that a loaded library makes of a content. -/
def Library.encode : Library → Settings → Bytes → Except Fault Bytes :=
  Library.encodeTold Library.introspect

/-- Compress all that a source holds into one frame, where the sizes are told in some
way. -/
def compressTold (tell : Telling) (library : Option Library) (settings : Settings)
    (source : Source) : Transfer :=
  let (content, after) := source.readAll
  match Library.load library with
  | (.error fault, journal) => .failed fault after journal
  | (.ok loaded, journal) => .conclude after journal (loaded.encodeTold tell settings content)

/-- Compress all that a source holds into one frame. -/
def compress : Option Library → Settings → Source → Transfer := compressTold Library.introspect

/-- How a library is asked to take a frame apart into a destination of a size; what
else comes of asking is up to the setting `m`. -/
abbrev Asking (m : Type → Type) : Type :=
  Library → Bytes → (size : Nat) → m (Except Alarm { content : Bytes // content.length = size })

section

variable {m : Type → Type} [Monad m] (tell : Telling) (ask : Asking m)

/-- The content of a frame whose sizes are known. -/
def Library.decodeIn (library : Library) (frame : Bytes) (size : Nat) :
    m (Except Fault Bytes) :=
  if size = 0 then return .ok []
  else do
    match ← ask library frame size with
    | .error alarm => return .error (alarm.toFault .decompression)
    | .ok content => return .ok content.val

/-- Take the frame behind a header that was read, and write its content. -/
def Library.takeToldIn (library : Library) (header : Bytes) (after : Source)
    (journal : Journal) : m Transfer :=
  match tell library header with
  | .error fault => return .failed fault after journal
  | .ok sizes =>
    if sizes.frame < headerSize then
      return .failed (.malformed (.frameSize sizes.frame)) after journal
    else
      match readPart after (sizes.frame - headerSize) "blosc payload" with
      | (.error fault, ended) => return .failed fault ended journal
      | (.ok payload, ended) =>
        Transfer.conclude ended journal <$>
          library.decodeIn ask (header ++ payload) sizes.content

/-- Take one frame from a source and write its content, where the sizes are told in some
way and in a setting in which the library is asked. -/
def uncompressToldIn (library : Option Library) (source : Source) : m Transfer :=
  match readPart source headerSize "blosc header" with
  | (.error fault, after) => return .failed fault after []
  | (.ok header, after) =>
    match Library.load library with
    | (.error fault, journal) => return .failed fault after journal
    | (.ok loaded, journal) => loaded.takeToldIn tell ask header after journal

/-- Take one frame from a source and write its content, in a setting in which the
library is asked. -/
def uncompressIn : Option Library → Source → m Transfer :=
  uncompressToldIn Library.introspect ask

end

/-- Take one frame from a source and write its content. -/
def uncompress : Option Library → Source → Transfer :=
  uncompressIn (m := Id) Library.decompress

end ChunkCodecs.Blosc
