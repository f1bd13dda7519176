import ChunkCodecs.Matching

/-!
# BloscLZ blocks

A block is a row of runs and matches. A control byte below 32 begins a run of one
to 32 literals. Any other begins a match: its top three bits give the length, seven
calling for further bytes of which each 255 calls for another one, and its low five
bits with a byte that follows give the distance; the greatest such distance calls
for two bytes that give a far one. The first control byte begins a run whatever its
top bits say.

A match that ends the block is not played: a block ends with a run. Control bytes
and their operands must lie inside the block, and a match inside the content.
-/

namespace ChunkCodecs.BloscLz

open Matching

/-- The largest number that a near match has in place of its distance. -/
def nearLimit : Nat := 8191

/-- The longest run. -/
def maxRun : Nat := 32

/-- The bytes that extend a length, and where they end. Another byte must follow
each of them. -/
def readExtension (block : Array UInt8) : (fuel place : Nat) → Option (Nat × Nat)
  | 0, _ => none
  | fuel + 1, place =>
    if block.size ≤ place + 1 then none
    else
      let byte := block.getD place 0
      if byte = 255 then
        (readExtension block fuel (place + 1)).map fun (more, next) => (255 + more, next)
      else some (byte.toNat, place + 1)

/-- The length and the distance of the match that a control byte begins, and where
its operands end. -/
def readMatch (block : Array UInt8) (control place : Nat) : Option (Nat × Nat × Nat) := do
  let (extra, middle) ←
    if control / 32 = 7 then readExtension block block.size place
    else if block.size ≤ place + 1 then none
    else some (0, place)
  let length := control / 32 + extra + 2
  let low := (block.getD middle 0).toNat
  let near := control % 32 * 256 + low
  if near < nearLimit then return (length, near + 1, middle + 1)
  else if block.size ≤ middle + 2 then none
  else
    let far := (block.getD (middle + 1) 0).toNat * 256 + (block.getD (middle + 2) 0).toNat
    return (length, far + nearLimit + 1, middle + 3)

/-- The plan of a block from a place on, where a control byte has been read. What
the block has given, the pending literals, and the steps found so far are carried
along, the last ones first. -/
def readControls (block : Array UInt8) (size : Nat) :
    (fuel control place given : Nat) → (pending : Bytes) → (found : List Step) → Option Plan
  | 0, _, _, _, _, _ => none
  | fuel + 1, control, place, given, pending, found =>
    if control < 32 then
      let count := control + 1
      if size < given + count || block.size < place + count then none
      else
        let run := pending ++ between block place (place + count)
        match block[place + count]? with
        | none => some ⟨found.reverse, run⟩
        | some next =>
          readControls block size fuel next.toNat (place + count + 1) (given + count) run found
    else do
      let (length, distance, stop) ← readMatch block control place
      if size < given + length || given < distance then none
      else match block[stop]? with
        | none => some ⟨found.reverse, pending⟩
        | some next =>
          readControls block size fuel next.toNat (stop + 1) (given + length) []
            (⟨pending, distance, length⟩ :: found)

/-- The content of a block, if it is one of a content of the given size at most. -/
def decode (block : Bytes) (size : Nat) : Option Bytes :=
  let array := block.toArray
  match array[0]? with
  | none => some []
  | some control =>
    (readControls array size (array.size + 1) (control.toNat % 32) 1 0 [] []).map Plan.play

/-- The runs of some literals. -/
def writeRuns (literals : Bytes) : Bytes :=
  if literals.isEmpty then []
  else
    let run := literals.take maxRun
    UInt8.ofNat (run.length - 1) :: (run ++ writeRuns (literals.drop maxRun))
termination_by literals.length
decreasing_by
  rename_i nonempty
  cases literals with
  | nil => simp at nonempty
  | cons byte rest => simp only [maxRun, List.length_drop, List.length_cons]; omega

/-- The top bits of a length, and its extension. -/
def splitLength (length : Nat) : Nat × Bytes :=
  if length < 9 then (length - 2, [])
  else
    let excess := length - 9
    (7, List.replicate (excess / 255) 255 ++ [UInt8.ofNat (excess % 255)])

/-- The bytes of a match. -/
def writeMatch (length distance : Nat) : Bytes :=
  let (top, more) := splitLength length
  let near := distance - 1
  if near < nearLimit then
    UInt8.ofNat (32 * top + near / 256) :: (more ++ [UInt8.ofNat near])
  else
    let far := near - nearLimit
    UInt8.ofNat (32 * top + 31) :: (more ++ [255, UInt8.ofNat (far / 256), UInt8.ofNat far])

/-- The bytes of a step. -/
def writeStep (step : Step) : Bytes :=
  writeRuns step.literals ++ writeMatch step.length step.distance

/-- The bytes of a plan. -/
def write (plan : Plan) : Bytes := plan.steps.flatMap writeStep ++ writeRuns plan.tail

/-- What a match of a block can be. The block ends with a literal. -/
def limits (size : Nat) : Limits := ⟨4, size, nearLimit + 65536, 1, 1⟩

/-- A block of a content. -/
def encode (content : Bytes) : Bytes := write (plan (limits content.length) content)

end ChunkCodecs.BloscLz
