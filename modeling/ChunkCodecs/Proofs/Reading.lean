import ChunkCodecs.Transfer

/-!
# Exact reading under every schedule

How much a single read is granted is up to the schedule of a source. Reading a
part of known size does not depend on it: whatever the grants are, the part is
the front of what is left and nothing beyond it is taken, and if the source ends
early, exactly what was left is reported and the source is exhausted.

The count that is still missing and the bytes that were gathered are tied to the
rest of the source by one invariant of the gathering loop, from which the laws of
exact reading follow without looking at single reads again.
-/

namespace ChunkCodecs

namespace Source

/-- A read that gives nothing, though some bytes were wanted, stands at the end. -/
theorem rest_eq_nil_of_read_nil {source after : Source} {wanted : Nat} (positive : 0 < wanted)
    (step : source.read wanted = ([], after)) : source.rest = [] := by
  by_cases ended : source.rest = []
  · exact ended
  · have given := source.read_ne_nil wanted positive ended
    exact absurd (congrArg Prod.fst step) given

/-- A read that gives some bytes gives the front of the rest and leaves what is
behind it, at most as many as were wanted and under the same schedule. -/
theorem rest_of_read {source after : Source} {wanted : Nat} {piece : Bytes}
    (step : source.read wanted = (piece, after)) :
    source.rest = piece ++ after.rest ∧ piece.length ≤ wanted ∧ after.grant = source.grant := by
  have whole := source.read_append wanted
  have bound := source.read_length_le wanted
  have schedule := source.read_grant wanted
  rw [step] at whole bound schedule
  exact ⟨whole.symm, bound, schedule⟩

/-- The gathering loop misses what the source does not have, has gathered the front
of the source behind what it had, and leaves what comes after.

Proof: induction along the reads of the loop. A read that gives nothing stands at
the end of the source; any other read moves its piece from the front of the rest
to the end of what was gathered. -/
theorem gather_exact (missing : Nat) (source : Source) (pieces : List Bytes) :
    (source.gather missing pieces).1 = missing - source.rest.length ∧
      (source.gather missing pieces).2.1.reverse.flatten =
        pieces.reverse.flatten ++ source.rest.take missing ∧
      (source.gather missing pieces).2.2.rest = source.rest.drop missing ∧
      (source.gather missing pieces).2.2.grant = source.grant := by
  fun_induction gather missing source pieces with
  | case1 source pieces => simp
  | case2 missing source pieces wanted after step =>
    have ended : source.rest = [] := rest_eq_nil_of_read_nil (Nat.pos_of_ne_zero wanted) step
    obtain ⟨whole, _, schedule⟩ := rest_of_read step
    have nothing : after.rest = [] := by simpa [ended] using whole.symm
    simp [ended, nothing, schedule]
  | case3 missing source pieces wanted byte more after step inductionHypothesis =>
    obtain ⟨whole, bound, schedule⟩ := rest_of_read step
    obtain ⟨count, gathered, remaining, kept⟩ := inductionHypothesis
    refine ⟨?_, ?_, ?_, kept.trans schedule⟩
    · rw [count, whole, List.length_append]
      omega
    · rw [gathered, whole, List.take_append, List.take_of_length_le bound]
      simp
    · rw [remaining, whole, List.drop_append, List.drop_of_length_le bound]
      rfl

/-- Exact reading of no more than what is left gives the front of it. -/
theorem readExactly_of_le {source : Source} {size : Nat} (enough : size ≤ source.rest.length) :
    (source.readExactly size).1 = .ok (source.rest.take size) := by
  obtain ⟨count, gathered, _, _⟩ := source.gather_exact size []
  have none_missing : (source.gather size []).1 = 0 := by omega
  rw [readExactly]
  split
  · rename_i pieces after found
    rw [found] at gathered
    simpa using gathered
  · rename_i missing pieces after impossible found
    rw [found] at none_missing
    exact absurd none_missing impossible

/-- Exact reading of more than what is left reports how much was left. -/
theorem readExactly_of_lt {source : Source} {size : Nat} (short : source.rest.length < size) :
    (source.readExactly size).1 = .error source.rest.length := by
  obtain ⟨count, _, _, _⟩ := source.gather_exact size []
  rw [readExactly]
  split
  · rename_i pieces after found
    rw [found] at count
    simp only at count
    omega
  · rename_i missing pieces after some_missing found
    rw [found] at count
    simp only at count
    have available : size - missing = source.rest.length := by omega
    rw [available]

/-- What is left after exact reading is what comes after the part, nothing if the
source ended early; the schedule stays. -/
theorem rest_readExactly (source : Source) (size : Nat) :
    (source.readExactly size).2.rest = source.rest.drop size ∧
      (source.readExactly size).2.grant = source.grant := by
  obtain ⟨_, _, remaining, schedule⟩ := source.gather_exact size []
  rw [readExactly]
  split <;> rename_i found <;> rw [found] at remaining schedule <;> exact ⟨remaining, schedule⟩

end Source

/-- A part that is there is read as the front of the source. -/
theorem readPart_of_le {source : Source} {size : Nat} (part : String)
    (enough : size ≤ source.rest.length) :
    ∃ after, readPart source size part = (.ok (source.rest.take size), after) ∧
      after.rest = source.rest.drop size ∧ after.grant = source.grant := by
  obtain ⟨remaining, schedule⟩ := source.rest_readExactly size
  have content := Source.readExactly_of_le enough
  refine ⟨(source.readExactly size).2, ?_, remaining, schedule⟩
  rw [readPart]
  split <;> rename_i found <;> rw [found] at content
  · rw [Except.ok.inj content, found]
  · cases content

/-- A part that is not all there is refused with what there is, and the source is
exhausted. -/
theorem readPart_of_lt {source : Source} {size : Nat} (part : String)
    (short : source.rest.length < size) :
    ∃ after, readPart source size part =
        (.error (.truncated (.endedEarly size part source.rest.length)), after) ∧
      after.rest = [] ∧ after.grant = source.grant := by
  obtain ⟨remaining, schedule⟩ := source.rest_readExactly size
  have report := Source.readExactly_of_lt short
  refine ⟨(source.readExactly size).2, ?_, ?_, schedule⟩
  · rw [readPart]
    split <;> rename_i found <;> rw [found] at report
    · cases report
    · rw [Except.error.inj report, found]
  · rw [remaining, List.drop_of_length_le (Nat.le_of_lt short)]

/-- Reading a part gives the same and leaves the same from every source that holds the same,
whatever the schedules are. -/
theorem readPart_congr {left right : Source} (same : left.rest = right.rest) (size : Nat)
    (part : String) :
    ∃ read after other, readPart left size part = (read, after) ∧
      readPart right size part = (read, other) ∧ after.rest = other.rest := by
  by_cases enough : size ≤ left.rest.length
  · obtain ⟨after, read, remaining, _⟩ := readPart_of_le part enough
    obtain ⟨other, again, left_over, _⟩ := readPart_of_le part (same ▸ enough)
    rw [← same] at again left_over
    exact ⟨_, after, other, read, again, remaining.trans left_over.symm⟩
  · have short : left.rest.length < size := Nat.not_le.mp enough
    obtain ⟨after, read, remaining, _⟩ := readPart_of_lt part short
    obtain ⟨other, again, left_over, _⟩ := readPart_of_lt part (same ▸ short)
    rw [← same] at again
    exact ⟨_, after, other, read, again, remaining.trans left_over.symm⟩

end ChunkCodecs
