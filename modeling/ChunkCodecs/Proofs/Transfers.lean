import ChunkCodecs.Transfer

/-!
# What a transfer gives

A transfer that did not fail gives what it wrote and leaves what it did not read. Two
transfers agree if both fail or both give the same and leave the same; why they fail and
what they record does not count.

They have the same verdict if this counts too. What was written before a fault may still
differ, since it depends on how far the reading had come; but it is the front of one byte
string.
-/

namespace ChunkCodecs.Transfer

/-- A transfer did not fail, wrote a content and left a rest of its source. -/
def Gives (transfer : Transfer) (content rest : Bytes) : Prop :=
  transfer.failure = none ∧ transfer.written = content ∧ transfer.source.rest = rest

/-- Two transfers succeed alike, and if they do, they wrote the same and left the same. -/
structure AgreesWith (left right : Transfer) : Prop where
  /-- One succeeds exactly if the other does. -/
  succeeds_iff : left.failure = none ↔ right.failure = none
  /-- Then they wrote the same. -/
  written_eq : left.failure = none → left.written = right.written
  /-- And they left the same. -/
  rest_eq : left.failure = none → left.source.rest = right.source.rest

/-- Two transfers fail with the same fault or succeed both, having recorded the same. If they
succeed they wrote the same and left the same; if they fail they wrote fronts of one byte
string. -/
structure SameVerdict (left right : Transfer) : Prop where
  /-- They fail alike, for the same reason. -/
  failure_eq : left.failure = right.failure
  /-- They recorded the same. -/
  journal_eq : left.journal = right.journal
  /-- If they succeed they wrote the same. -/
  written_eq : left.failure = none → left.written = right.written
  /-- And they left the same. -/
  rest_eq : left.failure = none → left.source.rest = right.source.rest
  /-- They wrote no more than fronts of one byte string. -/
  fronts : ∃ whole, left.written <+: whole ∧ right.written <+: whole

/-- Transfers that wrote the same, recorded the same and left the same have the same verdict. -/
theorem SameVerdict.of_eq {written : Bytes} {left right : Source} {journal : Journal}
    {failure : Option Fault} (same : left.rest = right.rest) :
    SameVerdict ⟨written, left, journal, failure⟩ ⟨written, right, journal, failure⟩ :=
  ⟨rfl, rfl, fun _ => rfl, fun _ => same, written, List.prefix_refl _, List.prefix_refl _⟩

/-- Transfers that fail for the same reason before they write anything have the same verdict. -/
theorem SameVerdict.failed (fault : Fault) (left right : Source) (journal : Journal) :
    SameVerdict (.failed fault left journal) (.failed fault right journal) :=
  ⟨rfl, rfl, nofun, nofun, [], List.prefix_refl _, List.prefix_refl _⟩

/-- Transfers that are concluded alike have the same verdict. -/
theorem SameVerdict.conclude {left right : Source} (same : left.rest = right.rest)
    (journal : Journal) (made : Except Fault Bytes) :
    SameVerdict (.conclude left journal made) (.conclude right journal made) := by
  cases made with
  | error fault => exact .failed fault left right journal
  | ok written => exact .of_eq same

/-- A failed transfer gives nothing. -/
theorem not_gives_failed {fault : Fault} {source : Source} {journal : Journal}
    {content rest : Bytes} : ¬ (failed fault source journal).Gives content rest := by
  rintro ⟨succeeded, _⟩
  cases succeeded

/-- A concluded transfer gives a content exactly if it was concluded with it. -/
theorem gives_conclude_iff {source : Source} {journal : Journal} {made : Except Fault Bytes}
    {content rest : Bytes} :
    (conclude source journal made).Gives content rest ↔ made = .ok content ∧ source.rest = rest := by
  cases made with
  | error fault =>
    constructor
    · intro given
      exact absurd given not_gives_failed
    · rintro ⟨impossible, _⟩
      cases impossible
  | ok found => simp [conclude, complete, Gives]

/-- Two transfers agree exactly if they give the same. -/
theorem agreesWith_iff {left right : Transfer} :
    left.AgreesWith right ↔ ∀ content rest, left.Gives content rest ↔ right.Gives content rest := by
  constructor
  · rintro ⟨succeeds, written, rest⟩ content left_over
    constructor
    · rintro ⟨succeeded, rfl, rfl⟩
      exact ⟨succeeds.mp succeeded, (written succeeded).symm, (rest succeeded).symm⟩
    · rintro ⟨succeeded, rfl, rfl⟩
      have first := succeeds.mpr succeeded
      exact ⟨first, written first, rest first⟩
  · intro alike
    have forward (succeeded : left.failure = none) : right.Gives left.written left.source.rest :=
      (alike _ _).mp ⟨succeeded, rfl, rfl⟩
    have backward (succeeded : right.failure = none) : left.Gives right.written right.source.rest :=
      (alike _ _).mpr ⟨succeeded, rfl, rfl⟩
    refine ⟨⟨fun succeeded => (forward succeeded).1, fun succeeded => (backward succeeded).1⟩, ?_, ?_⟩
    · intro succeeded
      exact (forward succeeded).2.1.symm
    · intro succeeded
      exact (forward succeeded).2.2.symm

end ChunkCodecs.Transfer
