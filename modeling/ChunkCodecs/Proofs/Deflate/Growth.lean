import ChunkCodecs.Proofs.Deflate.Steps

/-!
# The output of the inflater only grows

Whatever the inflater is fed, what it has put out stays and more may come behind it. So
what a piece gives, the output since the piece began, is what has to be added to the
output before.

No step takes anything back, and neither does the counting of bytes after the end.
-/

namespace ChunkCodecs.Deflate.Inflater

/-- Copying back leaves the output in front of what it copies. -/
theorem prefix_copyBack (distance count : Nat) (output : Array UInt8) :
    output.toList <+: (copyBack distance count output).toList := by
  induction count generalizing output with
  | zero => exact List.prefix_refl _
  | succ count inductionHypothesis =>
    have pushed : output.toList <+:
        (output.push (output.getD (output.size - distance) 0)).toList := by
      rw [Array.toList_push]
      exact List.prefix_append _ _
    exact pushed.trans (inductionHypothesis _)

variable {machine next : Inflater}

/-- A step leaves the output in front of what it puts out. -/
theorem Step.grows (step : Step machine next) :
    machine.output.toList <+: next.output.toList := by
  cases step with
  | goes phase waits => exact List.prefix_refl _
  | puts phase byte waits =>
    rw [Array.toList_push]
    exact List.prefix_append _ _
  | copies phase distance count waits => exact prefix_copyBack distance count machine.output
  | ends => exact List.prefix_refl _

/-- A run leaves the output in front of what it puts out. -/
theorem Runs.grows (run : Runs machine next) :
    machine.output.toList <+: next.output.toList := by
  induction run with
  | here => exact List.prefix_refl _
  | further _ step inductionHypothesis => exact inductionHypothesis.trans step.grows

/-- A byte leaves the output in front of what it puts out. -/
theorem grows_of_takeByte {byte : UInt8} (taken : machine.takeByte byte = .ok next) :
    machine.output.toList <+: next.output.toList := by
  cases ended : machine.unused? with
  | none => exact (runs_of_takeByte ended taken).grows
  | some unused =>
    rw [takeByte_of_finished (unused?_eq_some_iff.mp ended)] at taken
    obtain rfl := Except.ok.inj taken
    exact List.prefix_refl _

/-- A piece leaves the output in front of what it puts out. -/
theorem grows_of_feed {piece : Bytes} {machine : Inflater}
    (fed : machine.feed piece = .ok next) : machine.output.toList <+: next.output.toList := by
  induction piece generalizing machine with
  | nil =>
    obtain rfl := Except.ok.inj fed
    exact List.prefix_refl _
  | cons byte rest inductionHypothesis =>
    obtain ⟨between, taken, remaining⟩ := feed_cons_eq_ok_iff.mp fed
    exact (grows_of_takeByte taken).trans (inductionHypothesis remaining)

/-- What is put out for a front of some bytes is a front of what is put out for all of them. -/
theorem grows_of_front {front bytes : Bytes} {machine part full : Inflater}
    (begins : front <+: bytes) (first : machine.feed front = .ok part)
    (fed : machine.feed bytes = .ok full) : part.output.toList <+: full.output.toList := by
  obtain ⟨behind, rfl⟩ := begins
  obtain ⟨middle, reached, remaining⟩ := feed_append_eq_ok_iff.mp fed
  obtain rfl := Except.ok.inj (first.symm.trans reached)
  exact grows_of_feed remaining

end ChunkCodecs.Deflate.Inflater
