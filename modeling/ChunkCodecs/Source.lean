import ChunkCodecs.Bytes

/-!
# Sources of bytes

A source is what is left of a stream, with a schedule: a read that asks for some
bytes is granted at most as many, but at least one as long as any are left. How
many is up to the schedule, which may depend on the turn and on the request, so a
program that reads from a source has to cope with short reads of every pattern.

Three ways of reading are built on single reads: up to the end piece by piece,
exactly a given count, and all that is left at once. Whatever is read and what is
left make up what was there before.
-/

namespace ChunkCodecs

/-- What is left of a stream, and how much each further read is granted. -/
structure Source where
  /-- The bytes that have not been read. -/
  rest : Bytes
  /-- What the read of a turn is granted that asks for a count. -/
  grant : Nat → Nat → Nat
  /-- How many reads were made. -/
  turn : Nat

namespace Source

/-- A source that grants whatever is asked for. -/
def ofBytes (content : Bytes) : Source := ⟨content, fun _ wanted => wanted, 0⟩

/-- A source that grants at most `limit` bytes at a time. -/
def limited (content : Bytes) (limit : Nat) : Source := ⟨content, fun _ _ => limit, 0⟩

/-- How many bytes the next read is offered that asks for a count: between one and
the count itself. -/
def offer (source : Source) (wanted : Nat) : Nat :=
  min wanted (max 1 (source.grant source.turn wanted))

/-- Read up to `wanted` bytes; none come only at the end or if none are wanted. -/
def read (source : Source) (wanted : Nat) : Bytes × Source :=
  (source.rest.take (source.offer wanted),
    { source with rest := source.rest.drop (source.offer wanted), turn := source.turn + 1 })

/-- Read all that is left. -/
def readAll (source : Source) : Bytes × Source :=
  (source.rest, { source with rest := [], turn := source.turn + 1 })

/-- A read takes its bytes from the front and leaves the others. -/
theorem read_append (source : Source) (wanted : Nat) :
    (source.read wanted).1 ++ (source.read wanted).2.rest = source.rest := by
  simp [read]

/-- A read does not change the schedule. -/
@[simp] theorem read_grant (source : Source) (wanted : Nat) :
    (source.read wanted).2.grant = source.grant := rfl

/-- What a read gives and what it leaves are as long as what was there. -/
theorem read_length (source : Source) (wanted : Nat) :
    (source.read wanted).1.length + (source.read wanted).2.rest.length = source.rest.length := by
  rw [← List.length_append, read_append]

/-- A read gives no more than is wanted. -/
theorem read_length_le (source : Source) (wanted : Nat) :
    (source.read wanted).1.length ≤ wanted := by
  simp only [read, offer, List.length_take]
  omega

/-- Some byte is read if some are wanted and some are left. -/
theorem read_ne_nil (source : Source) (wanted : Nat) (positive : 0 < wanted)
    (some_left : source.rest ≠ []) : (source.read wanted).1 ≠ [] := by
  have offered : 0 < source.offer wanted := by
    simp only [offer]
    omega
  simp only [read, ne_eq, List.take_eq_nil_iff, not_or]
  exact ⟨by omega, some_left⟩

/-- Read pieces of at most `size` bytes to the end and absorb them one by one. A
piece that cannot be absorbed ends the reading; it has left the source. -/
def pump {State Failure : Type} (size : Nat) (absorb : State → Bytes → Except Failure State)
    (source : Source) (state : State) : Except Failure State × Source :=
  match _step : source.read size with
  | ([], after) => (.ok state, after)
  | (byte :: more, after) =>
    match absorb state (byte :: more) with
    | .error failure => (.error failure, after)
    | .ok next => pump size absorb after next
termination_by source.rest.length
decreasing_by
  have total := source.read_length size
  rw [_step] at total
  simp only [List.length_cons] at total
  omega

/-- Read until `missing` bytes have come or the source ends. The pieces come last
one first, with the count that is still missing. -/
def gather (missing : Nat) (source : Source) (pieces : List Bytes) : Nat × List Bytes × Source :=
  if missing = 0 then (0, pieces, source)
  else
    match _step : source.read missing with
    | ([], after) => (missing, pieces, after)
    | (byte :: more, after) =>
      gather (missing - (byte :: more).length) after ((byte :: more) :: pieces)
termination_by source.rest.length
decreasing_by
  have total := source.read_length missing
  rw [_step] at total
  simp only [List.length_cons] at total
  omega

/-- Read exactly `size` bytes, or else tell how many there were. -/
def readExactly (source : Source) (size : Nat) : Except Nat Bytes × Source :=
  match source.gather size [] with
  | (0, pieces, after) => (.ok pieces.reverse.flatten, after)
  | (missing, _, after) => (.error (size - missing), after)

end Source

end ChunkCodecs
