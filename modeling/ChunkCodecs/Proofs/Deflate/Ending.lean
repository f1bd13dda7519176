import ChunkCodecs.Proofs.Deflate.Steps

/-!
# Where a container ends

The byte that completes the checksum of a container ends it, with nothing behind it yet.
Every further byte is counted and changes nothing else. So a byte string that the inflater
takes to the end of a container has one front that is the container, and what stands behind
it is as long as the count of unused bytes.
-/

namespace ChunkCodecs.Deflate.Inflater

/-- A machine that has finished has counted nothing yet. -/
def IsClean (machine : Inflater) : Prop :=
  ∀ unused, machine.unused? = some unused → unused = 0

variable {machine next : Inflater}

/-- A machine that waits for something is clean. -/
theorem isClean_of_waits (waits : machine.phase.Waits) : machine.IsClean := by
  intro unused ended
  rw [unused?_eq_some_iff.mp ended] at waits
  exact waits.elim

/-- A step leads to a clean machine. -/
theorem Step.isClean (step : Step machine next) : next.IsClean := by
  cases step with
  | goes phase waits => exact isClean_of_waits waits
  | puts phase byte waits => exact isClean_of_waits waits
  | copies phase distance count waits => exact isClean_of_waits waits
  | ends =>
    intro unused ended
    exact (Option.some.inj ended).symm

/-- A run leads from a clean machine to a clean one. -/
theorem Runs.isClean (clean : machine.IsClean) (run : Runs machine next) : next.IsClean := by
  cases run with
  | here => exact clean
  | further _ step => exact step.isClean

/-- A byte that ends a container leaves nothing unused. -/
theorem isClean_of_takeByte (unfinished : machine.unused? = none) {byte : UInt8}
    (taken : machine.takeByte byte = .ok next) : next.IsClean := by
  have clean : machine.IsClean := by
    intro unused ended
    rw [unfinished] at ended
    cases ended
  exact (runs_of_takeByte unfinished taken).isClean clean

/-- A machine that has finished counts the bytes of a piece, and changes nothing else. -/
theorem feed_of_finished {unused : Nat} (piece : Bytes) {machine : Inflater}
    (finished : machine.phase = .finished unused) :
    machine.feed piece = .ok (machine.enter (.finished (unused + piece.length))) := by
  induction piece generalizing machine unused with
  | nil =>
    have same : machine.enter (.finished unused) = machine := by
      rw [← finished]
      rfl
    rw [List.length_nil, Nat.add_zero, same]
    rfl
  | cons byte rest inductionHypothesis =>
    have counted : (machine.enter (.finished (unused + 1))).phase = .finished (unused + 1) := rfl
    have remaining := inductionHypothesis counted
    rw [Nat.add_assoc, Nat.add_comm 1] at remaining
    exact feed_cons_eq_ok_iff.mpr ⟨_, takeByte_of_finished finished byte, remaining⟩

/-- Where a machine that has not finished is taken to the end of a container, some front of
the bytes is the container, and what is behind it is what is unused.

Proof: induction on the bytes. As long as the machine has not finished the container goes
on; the byte that ends it leaves nothing unused, so the bytes behind it are all that is
counted. -/
theorem exists_container_of_feed {bytes : Bytes} {machine full : Inflater} {unused : Nat}
    (unfinished : machine.unused? = none) (fed : machine.feed bytes = .ok full)
    (ended : full.unused? = some unused) :
    ∃ container tail middle, bytes = container ++ tail ∧ tail.length = unused ∧
      machine.feed container = .ok middle ∧ middle.unused? = some 0 ∧
      middle.output = full.output := by
  induction bytes generalizing machine with
  | nil =>
    obtain rfl := Except.ok.inj fed
    rw [unfinished] at ended
    cases ended
  | cons byte rest inductionHypothesis =>
    obtain ⟨next, taken, remaining⟩ := feed_cons_eq_ok_iff.mp fed
    cases reached : next.unused? with
    | none =>
      obtain ⟨container, tail, middle, made_up, length, first, finished, same⟩ :=
        inductionHypothesis reached remaining
      refine ⟨byte :: container, tail, middle, ?_, length, ?_, finished, same⟩
      · rw [made_up, List.cons_append]
      · exact feed_cons_eq_ok_iff.mpr ⟨next, taken, first⟩
    | some count =>
      obtain rfl := isClean_of_takeByte unfinished taken count reached
      rw [feed_of_finished rest (unused?_eq_some_iff.mp reached)] at remaining
      obtain rfl := Except.ok.inj remaining
      refine ⟨[byte], rest, next, rfl, ?_, ?_, reached, rfl⟩
      · have counted : some (0 + rest.length) = some unused := ended
        rw [Nat.zero_add] at counted
        exact Option.some.inj counted
      · exact feed_cons_eq_ok_iff.mpr ⟨next, taken, rfl⟩

/-- A container is taken to its end with anything behind it, which is counted. -/
theorem feed_append_of_ended {container : Bytes} {machine full : Inflater}
    (fed : machine.feed container = .ok full) (ended : full.unused? = some 0) (tail : Bytes) :
    machine.feed (container ++ tail) = .ok (full.enter (.finished tail.length)) := by
  have counted := feed_of_finished tail (unused?_eq_some_iff.mp ended)
  rw [Nat.zero_add] at counted
  exact feed_append_eq_ok_iff.mpr ⟨full, fed, counted⟩

/-- A proper front of a container is fed without a defect and leaves the machine waiting. -/
theorem unfinished_of_front {front back : Bytes} {machine full : Inflater} (more : back ≠ [])
    (fed : machine.feed (front ++ back) = .ok full) (ended : full.unused? = some 0) :
    ∃ part, machine.feed front = .ok part ∧ part.unused? = none := by
  obtain ⟨part, first, remaining⟩ := feed_append_eq_ok_iff.mp fed
  refine ⟨part, first, ?_⟩
  cases reached : part.unused? with
  | none => rfl
  | some count =>
    -- What has finished would count the bytes of the back.
    rw [feed_of_finished back (unused?_eq_some_iff.mp reached)] at remaining
    obtain rfl := Except.ok.inj remaining
    have counted : count + back.length = 0 := Option.some.inj ended
    have positive := List.length_pos_iff.mpr more
    omega

end ChunkCodecs.Deflate.Inflater
