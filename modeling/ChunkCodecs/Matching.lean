import ChunkCodecs.Bytes

/-!
# Matching against earlier bytes

Compressors replace bytes that have come before by how far back and how long they
are. A plan of a content is a list of steps, each a run of literal bytes followed
by a match, and a last run of literals. Playing a plan copies each match from
the bytes played so far, one by one, so a match may overlap itself.

The search is greedy: it remembers the last place of each group of four bytes and
takes a match there if it is within the limits of the format.
-/

namespace ChunkCodecs.Matching

/-- Literal bytes, and a match after them. -/
structure Step where
  /-- The bytes before the match. -/
  literals : Bytes
  /-- How far back the match begins. -/
  distance : Nat
  /-- How many bytes it has. -/
  length : Nat
  deriving DecidableEq, Repr

/-- The steps of a content, and the literals after the last match. -/
structure Plan where
  /-- The steps in order. -/
  steps : List Step
  /-- The bytes after the last match. -/
  tail : Bytes
  deriving DecidableEq, Repr

/-- What a format can express. -/
structure Limits where
  /-- The shortest match; at least four. -/
  minLength : Nat
  /-- The longest match. -/
  maxLength : Nat
  /-- The farthest match. -/
  maxDistance : Nat
  /-- How many bytes at the end must be literals. -/
  reserve : Nat
  /-- How many bytes before the end the last match must begin at least. -/
  margin : Nat

/-- Bytes copied one by one from a distance back. -/
def copyBack (distance : Nat) : (count : Nat) → Array UInt8 → Array UInt8
  | 0, output => output
  | count + 1, output =>
    copyBack distance count (output.push (output.getD (output.size - distance) 0))

/-- Append a run of bytes. -/
def appendRun (output : Array UInt8) (run : Bytes) : Array UInt8 :=
  run.foldl Array.push output

/-- Play one step. -/
def Step.play (output : Array UInt8) (step : Step) : Array UInt8 :=
  copyBack step.distance step.length (appendRun output step.literals)

/-- The content that a plan stands for. -/
def Plan.play (plan : Plan) : Bytes :=
  (appendRun (plan.steps.foldl Step.play #[]) plan.tail).toList

/-- How many bytes from two places on are equal, up to a count. -/
def agreement (content : Array UInt8) (earlier later : Nat) : (count : Nat) → Nat
  | 0 => 0
  | count + 1 =>
    if content.getD earlier 0 == content.getD later 0 then
      agreement content (earlier + 1) (later + 1) count + 1
    else 0

/-- The slots that remember places. -/
def slotCount : Nat := 4096

/-- The slot of the four bytes at a place. -/
def slotAt (content : Array UInt8) (place : Nat) : Nat :=
  let byte (offset : Nat) := (content.getD (place + offset) 0).toNat
  (byte 0 * 2654435 + byte 1 * 40503 + byte 2 * 7919 + byte 3 * 613) % slotCount

/-- The bytes between two places. -/
def between (content : Array UInt8) (first last : Nat) : Bytes := (content.extract first last).toList

/-- Search from a place on, with the start of the pending literals, the remembered
places plus one, and the steps found so far, the last one first. -/
def search (limits : Limits) (content : Array UInt8) :
    (fuel place pending : Nat) → (slots : Array Nat) → (found : List Step) → Plan
  | 0, _, pending, _, found => ⟨found.reverse, between content pending content.size⟩
  | fuel + 1, place, pending, slots, found =>
    if content.size < place + max limits.margin (limits.minLength + limits.reserve) then
      ⟨found.reverse, between content pending content.size⟩
    else
      let slot := slotAt content place
      let remembered := slots.getD slot 0
      let earlier := remembered - 1
      let longest := min limits.maxLength (content.size - limits.reserve - place)
      let length :=
        if remembered = 0 || limits.maxDistance < place - earlier then 0
        else agreement content earlier place longest
      let updated := slots.set! slot (place + 1)
      if limits.minLength ≤ length then
        let step : Step := ⟨between content pending place, place - earlier, length⟩
        search limits content fuel (place + length) (place + length) updated (step :: found)
      else search limits content fuel (place + 1) pending updated found

/-- A plan of a content within the limits of a format. -/
def plan (limits : Limits) (content : Bytes) : Plan :=
  let array := content.toArray
  search limits array (array.size + 1) 0 0 (Array.replicate slotCount 0) []

end ChunkCodecs.Matching
