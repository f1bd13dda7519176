import ChunkCodecs.Proofs.Blosc.Taking
import ChunkCodecs.Proofs.Refusals
import ChunkCodecs.Raster.Chunk

/-!
# Whole results

Blosc and raster codecs write a whole result or nothing. Every check comes before the only
write, so a transfer that fails for whatever reason has written no byte, and one that does not
fail has written all that it should: a frame that passed its checks, the whole content of a
frame, a whole codestream or a whole chunk.

Nothing is assumed of the library or of the service: they may be missing, too old, incomplete,
or fail in any call, and what they return may be anything. Not even the telling of the sizes of a
frame is assumed to succeed.
-/

namespace ChunkCodecs

namespace Transfer

/-- A transfer is all or nothing: it gives exactly what is complete, and if it fails it does so
before it writes anything. -/
structure AllOrNothing (transfer : Transfer) (IsComplete : Bytes → Bytes → Prop) : Prop where
  /-- It gives a content and leaves a rest exactly if they are complete. -/
  gives_iff : ∀ written rest, transfer.Gives written rest ↔ IsComplete written rest
  /-- It succeeded, or it failed and wrote nothing. -/
  succeeded_or_failed : transfer.failure = none ∨
    ∃ fault after journal, transfer = .failed fault after journal

variable {IsComplete : Bytes → Bytes → Prop}

/-- A transfer that failed before it wrote anything is all or nothing where nothing is complete. -/
theorem allOrNothing_failed {fault : Fault} {after : Source} {journal : Journal}
    (incomplete : ∀ written rest, ¬ IsComplete written rest) :
    (failed fault after journal).AllOrNothing IsComplete := by
  constructor
  · intro written rest
    exact iff_of_false not_gives_failed (incomplete written rest)
  · exact .inr ⟨fault, after, journal, rfl⟩

/-- A transfer that is concluded is all or nothing where exactly what it is concluded with is
complete. -/
theorem allOrNothing_conclude {after : Source} {journal : Journal} {made : Except Fault Bytes}
    (complete_iff : ∀ written rest,
      made = .ok written ∧ after.rest = rest ↔ IsComplete written rest) :
    (conclude after journal made).AllOrNothing IsComplete := by
  constructor
  · intro written rest
    exact gives_conclude_iff.trans (complete_iff written rest)
  · cases made with
    | error fault => exact .inr ⟨fault, after, journal, rfl⟩
    | ok written => exact .inl rfl

/-- If such a transfer failed, it wrote nothing. -/
theorem AllOrNothing.written_eq_nil {transfer : Transfer}
    (whole : transfer.AllOrNothing IsComplete) (failure : transfer.failure ≠ none) :
    transfer.written = [] := by
  rcases whole.succeeded_or_failed with succeeded | ⟨fault, after, journal, rfl⟩
  · exact absurd succeeded failure
  · rfl

end Transfer

namespace Blosc

variable {tell : Telling}

/-- Compressing writes a frame that a loaded library made of all that the source held. It fails
exactly if there is none, and then it writes nothing. -/
theorem compressTold_allOrNothing (library : Option Library) (settings : Settings)
    (source : Source) :
    (compressTold tell library settings source).AllOrNothing fun frame rest => rest = [] ∧
      ∃ loaded journal, Library.load library = (.ok loaded, journal) ∧
        loaded.Makes tell settings source.rest frame := by
  simp only [compressTold, Source.readAll]
  split
  · next fault journal loading =>
    apply Transfer.allOrNothing_failed
    rintro frame rest ⟨_, loaded, other, loading_too, _⟩
    cases loading.symm.trans loading_too
  · next loaded journal loading =>
    apply Transfer.allOrNothing_conclude
    intro frame rest
    constructor
    · rintro ⟨made, rfl⟩
      exact ⟨rfl, loaded, journal, loading, encodeTold_eq_ok_iff.mp made⟩
    · rintro ⟨rfl, also, other, loading_too, made⟩
      cases loading.symm.trans loading_too
      exact ⟨encodeTold_eq_ok_iff.mpr made, rfl⟩

end Blosc

namespace Raster

/-- Compressing writes the codestream that a loaded service made of the image of all that the
source held. It fails exactly if there is none, and then it writes nothing. -/
theorem compress_allOrNothing (service : Option Service) (settings : Settings) (source : Source) :
    (compress service settings source).AllOrNothing fun codestream rest => rest = [] ∧
      settings.isSized = true ∧ ∃ loaded image, Service.load service = .ok loaded ∧
        imageOf settings source.rest = .ok image ∧
        loaded.encode image settings.encoding = .ok codestream := by
  rw [compress]
  split
  · next unsized =>
    apply Transfer.allOrNothing_failed
    rintro codestream rest ⟨_, sized, _⟩
    rw [sized] at unsized
    cases unsized
  · next sized =>
    apply Transfer.allOrNothing_conclude
    intro codestream rest
    constructor
    · rintro ⟨made, rfl⟩
      obtain ⟨image, held, made⟩ := exists_of_bind_eq_ok made
      obtain ⟨loaded, loading, made⟩ := exists_of_bind_eq_ok made
      exact ⟨rfl, by simpa using sized, loaded, image, loading, held, mapError_eq_ok_iff.mp made⟩
    · rintro ⟨rfl, _, loaded, image, loading, held, made⟩
      refine ⟨?_, rfl⟩
      simp only [held, loading, ok_bind]
      exact mapError_eq_ok_iff.mpr made

end Raster

end ChunkCodecs
