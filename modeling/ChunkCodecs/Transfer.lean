import ChunkCodecs.Fault
import ChunkCodecs.Journal
import ChunkCodecs.Source

/-!
# Transfers

Moving a chunk through a codec reads a source and writes bytes. Its outcome says
what was written, what is left of the source, what was recorded, and the fault, if
there was one; what was written before a fault stays written.
-/

namespace ChunkCodecs

/-- How the moving of a chunk through a codec ended. -/
structure Transfer where
  /-- The bytes that were written. -/
  written : Bytes
  /-- What is left of the source. -/
  source : Source
  /-- What was recorded. -/
  journal : Journal
  /-- What went wrong, if anything. -/
  failure : Option Fault

namespace Transfer

/-- A transfer that wrote a complete result. -/
def complete (written : Bytes) (source : Source) (journal : Journal) : Transfer :=
  ⟨written, source, journal, none⟩

/-- A transfer that failed before it wrote anything. -/
def failed (fault : Fault) (source : Source) (journal : Journal) : Transfer :=
  ⟨[], source, journal, some fault⟩

/-- A transfer that wrote the whole of a result, or nothing if there is none. -/
def conclude (source : Source) (journal : Journal) : Except Fault Bytes → Transfer
  | .ok written => complete written source journal
  | .error fault => failed fault source journal

/-- The bytes of a transfer that did not fail. -/
def result (transfer : Transfer) : Except Fault Bytes :=
  match transfer.failure with
  | none => .ok transfer.written
  | some fault => .error fault

/-- The result of a concluded transfer is the one that it was concluded with. -/
@[simp] theorem result_conclude (source : Source) (journal : Journal) (made : Except Fault Bytes) :
    (conclude source journal made).result = made := by
  cases made <;> rfl

end Transfer

/-- The size of the pieces in which streams are copied. -/
def copySize : Nat := 65536

/-- Keep a piece in front of those that came before it. -/
def keepPiece (pieces : List Bytes) (piece : Bytes) : Except Fault (List Bytes) :=
  .ok (piece :: pieces)

/-- Copy a source to its end. -/
def copyThrough (source : Source) : Transfer :=
  match source.pump copySize keepPiece [] with
  | (.ok pieces, after) => .complete pieces.reverse.flatten after []
  | (.error fault, after) => .failed fault after []

/-- Read a part of known size, or fail with the part named. -/
def readPart (source : Source) (size : Nat) (part : String) : Except Fault Bytes × Source :=
  match source.readExactly size with
  | (.ok content, after) => (.ok content, after)
  | (.error available, after) => (.error (.truncated (.endedEarly size part available)), after)

end ChunkCodecs
