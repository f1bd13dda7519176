import ChunkCodecs.Deflate.Deflater
import ChunkCodecs.Deflate.Settings
import ChunkCodecs.Transfer

/-!
# Chunks in deflate containers

A chunk is compressed and taken apart piece by piece, as it is read. What a piece
gives is written before the next one is read, so a defect loses only what the
piece that reveals it would have given. A container that does not end is
refused after all of its content has been written; bytes after its end are read,
counted and reported, and otherwise ignored.
-/

namespace ChunkCodecs.Deflate

/-- Feed a piece to a deflater and write what the library gives for it. -/
def feedPiece (library : Library) (state : Deflater × List Bytes) (piece : Bytes) :
    Except Fault (Deflater × List Bytes) :=
  .ok (state.1.feed piece, library.given state.1 piece :: state.2)

/-- Compress all that a source holds into one container. -/
def compress (library : Library) (settings : Settings) (source : Source) : Transfer :=
  match source.pump copySize (feedPiece library) (Deflater.start settings.level, []) with
  | (.ok (deflater, written), after) =>
    .complete ((library.left deflater :: written).reverse.flatten) after []
  | (.error fault, after) => .failed fault after []

/-- What the inflater put out after its output had a size. -/
def outputSince (inflater : Inflater) (size : Nat) : Bytes :=
  (inflater.output.extract size inflater.output.size).toList

/-- Feed a piece to the inflater and write what it gives. The defect of a piece
comes with what was written before. -/
def absorbPiece (state : Inflater × List Bytes) (piece : Bytes) :
    Except (Defect × List Bytes) (Inflater × List Bytes) :=
  let (inflater, written) := state
  let size := inflater.output.size
  match inflater.feed piece with
  | .error defect => .error (defect, written)
  | .ok next =>
    let given := outputSince next size
    .ok (next, given :: written)

/-- The report of bytes after the end of a container. -/
def reportUnused (unused : Nat) : Journal :=
  if unused = 0 then []
  else [⟨.warning, .zlib,
    s!"zlib: ignoring {unused} trailing bytes after the end of the stream"⟩]

/-- Take the container apart that a source begins with. -/
def uncompress (source : Source) : Transfer :=
  match source.pump copySize absorbPiece (Inflater.start, []) with
  | (.error (defect, written), after) =>
    ⟨written.reverse.flatten, after, [], some (.malformed (.corruptDeflate defect.message))⟩
  | (.ok (inflater, written), after) =>
    match inflater.unused? with
    | none => ⟨written.reverse.flatten, after, [], some (.malformed .unfinishedDeflate)⟩
    | some unused => .complete written.reverse.flatten after (reportUnused unused)

end ChunkCodecs.Deflate
