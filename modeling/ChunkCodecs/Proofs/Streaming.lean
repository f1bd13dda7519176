import ChunkCodecs.Proofs.Reading

/-!
# Pumping under every schedule

A loop that reads pieces to the end of a source absorbs some pieces that make up what
the source held; which ones is up to the schedule. So what the loop gives is a fold of
the step over these pieces, and a step that does not mind where a content is cut gives
the same under every schedule.
-/

namespace ChunkCodecs

namespace Source

/-- Pumping folds the step over pieces that make up what the source held; if no piece is
refused, nothing is left.

Proof: induction along the reads of the loop. A read that gives nothing stands at the end.
A piece that is refused ends the loop and the fold alike, so that what is left may be
taken as one more piece. -/
theorem pump_eq_foldlM {State Failure : Type} {size : Nat} (positive : 0 < size)
    (absorb : State → Bytes → Except Failure State) (source : Source) (state : State) :
    ∃ pieces : List Bytes, pieces.flatten = source.rest ∧
      (source.pump size absorb state).1 = pieces.foldlM absorb state ∧
      ∀ final, (source.pump size absorb state).1 = .ok final →
        (source.pump size absorb state).2.rest = [] := by
  fun_induction pump size absorb source state with
  | case1 source state after step =>
    have ended : source.rest = [] := rest_eq_nil_of_read_nil positive step
    obtain ⟨whole, _, _⟩ := rest_of_read step
    refine ⟨[], ended.symm, rfl, ?_⟩
    intro _ _
    rw [ended] at whole
    exact (List.append_eq_nil_iff.mp whole.symm).2
  | case2 source state byte more after step failure refused =>
    obtain ⟨whole, _, _⟩ := rest_of_read step
    refine ⟨[byte :: more, after.rest], ?_, ?_, ?_⟩
    · rw [whole]
      simp
    · rw [List.foldlM_cons, refused]
      rfl
    · intro _ impossible
      cases impossible
  | case3 source state byte more after step next absorbed inductionHypothesis =>
    obtain ⟨whole, _, _⟩ := rest_of_read step
    obtain ⟨pieces, made_up, folded, exhausted⟩ := inductionHypothesis
    refine ⟨(byte :: more) :: pieces, ?_, ?_, exhausted⟩
    · rw [whole, List.flatten_cons, made_up]
    · rw [folded, List.foldlM_cons, absorbed]
      rfl

end Source

/-- Keeping pieces one by one keeps all of them, the last one first. -/
theorem foldlM_keepPiece (pieces kept : List Bytes) :
    pieces.foldlM keepPiece kept = .ok (pieces.reverse ++ kept) := by
  induction pieces generalizing kept with
  | nil => rfl
  | cons piece others inductionHypothesis =>
    have remaining := inductionHypothesis (piece :: kept)
    rw [List.reverse_cons, List.append_assoc]
    exact remaining

/-- A source that is copied is copied in full, and nothing is left of it. -/
theorem copyThrough_complete (source : Source) :
    ∃ after, copyThrough source = .complete source.rest after [] ∧ after.rest = [] := by
  have positive : 0 < copySize := by decide
  obtain ⟨pieces, made_up, folded, exhausted⟩ := source.pump_eq_foldlM positive keepPiece []
  rw [foldlM_keepPiece, List.append_nil] at folded
  refine ⟨(source.pump copySize keepPiece []).2, ?_, exhausted _ folded⟩
  unfold copyThrough
  split
  · rename_i gathered after found
    rw [found] at folded
    rw [found, Except.ok.inj folded, List.reverse_reverse, made_up]
  · rename_i fault after found
    rw [found] at folded
    cases folded

end ChunkCodecs
