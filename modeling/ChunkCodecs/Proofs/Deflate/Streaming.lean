import ChunkCodecs.Deflate.Chunk
import ChunkCodecs.Proofs.Deflate.Growth
import ChunkCodecs.Proofs.Streaming

/-!
# Deflate containers over streams

A container is made and taken apart piece by piece, and neither side chooses the pieces.
Taking it apart gives what the inflater gives for the whole of the container, wherever it
is cut. What making it gives is all that the library gave, piece by piece and at the end.

That a library makes containers which the inflater takes apart is a property of the
library, for contents that come in whatever pieces. The inflater itself is no parameter.
-/

namespace ChunkCodecs.Deflate

/-- A piece that is absorbed writes what the inflater puts out for it, so that all of the output
has been written again. -/
theorem written_of_feed {piece : Bytes} {written : List Bytes} {machine next : Inflater}
    (fed : machine.feed piece = .ok next)
    (so_far : written.reverse.flatten = machine.output.toList) :
    (outputSince next machine.output.size :: written).reverse.flatten = next.output.toList := by
  obtain ⟨behind, added⟩ := Inflater.grows_of_feed fed
  have given : outputSince next machine.output.size = behind := by
    rw [outputSince, Array.toList_extract, Array.size_eq_length_toList,
      Array.size_eq_length_toList, ← added]
    simp
  rw [List.reverse_cons, List.flatten_append, so_far, given, ← added]
  simp

/-- Absorbing pieces one after another is feeding all of them at once, and what was written
then is what the inflater has put out.

Proof: induction on the pieces. Each one writes the output since it began, which is what
the output before lacks, because the output only grows. -/
theorem foldlM_absorbPiece {pieces written : List Bytes} {machine full : Inflater}
    (fed : machine.feed pieces.flatten = .ok full)
    (so_far : written.reverse.flatten = machine.output.toList) :
    ∃ all, pieces.foldlM absorbPiece (machine, written) = .ok (full, all) ∧
      all.reverse.flatten = full.output.toList := by
  induction pieces generalizing machine written with
  | nil =>
    obtain rfl := Except.ok.inj fed
    exact ⟨written, rfl, so_far⟩
  | cons piece others inductionHypothesis =>
    rw [List.flatten_cons] at fed
    obtain ⟨next, first, remaining⟩ := Inflater.feed_append_eq_ok_iff.mp fed
    obtain ⟨all, folded, whole⟩ := inductionHypothesis remaining (written_of_feed first so_far)
    refine ⟨all, ?_, whole⟩
    rw [List.foldlM_cons, absorbPiece]
    simp only [first]
    exact folded

/-- Absorbing pieces one after another meets the defect that feeding all of them at once
meets. What was written before it is what the inflater has put out for some front of them. -/
theorem foldlM_absorbPiece_error {pieces written : List Bytes} {machine : Inflater}
    {defect : Defect} (fed : machine.feed pieces.flatten = .error defect)
    (so_far : written.reverse.flatten = machine.output.toList) :
    ∃ kept front part, pieces.foldlM absorbPiece (machine, written) = .error (defect, kept) ∧
      front <+: pieces.flatten ∧ machine.feed front = .ok part ∧
      kept.reverse.flatten = part.output.toList := by
  induction pieces generalizing machine written with
  | nil => cases fed
  | cons piece others inductionHypothesis =>
    rw [List.flatten_cons, Inflater.feed_append] at fed
    rw [List.foldlM_cons, absorbPiece]
    cases first : machine.feed piece with
    | error found =>
      rw [first] at fed
      cases fed
      exact ⟨written, [], machine, rfl, List.nil_prefix, rfl, so_far⟩
    | ok next =>
      rw [first] at fed
      obtain ⟨kept, front, part, folded, begins, clean, whole⟩ :=
        inductionHypothesis fed (written_of_feed first so_far)
      refine ⟨kept, piece ++ front, part, folded, ?_, ?_, whole⟩
      · rw [List.flatten_cons]
        exact (List.prefix_append_right_inj piece).mpr begins
      · exact Inflater.feed_append_eq_ok_iff.mpr ⟨next, first, clean⟩

/-- Pumping a source that has no defect leads to the machine that has been fed all of it, with
all of its output written and nothing left. -/
theorem pump_of_feed {source : Source} {full : Inflater}
    (fed : Inflater.start.feed source.rest = .ok full) :
    ∃ all after, source.pump copySize absorbPiece (Inflater.start, []) = (.ok (full, all), after) ∧
      all.reverse.flatten = full.output.toList ∧ after.rest = [] := by
  have positive : 0 < copySize := by decide
  obtain ⟨pieces, made_up, folded, exhausted⟩ :=
    source.pump_eq_foldlM positive absorbPiece (Inflater.start, [])
  rw [← made_up] at fed
  have nothing : ([] : List Bytes).reverse.flatten = Inflater.start.output.toList := rfl
  obtain ⟨all, absorbed, whole⟩ := foldlM_absorbPiece fed nothing
  rw [absorbed] at folded
  exact ⟨all, _, Prod.ext folded rfl, whole, exhausted _ folded⟩

/-- A source that the inflater takes to the end of a container gives what the inflater has
put out, and a report of the bytes that came after the end; nothing is left. -/
theorem uncompress_of_feed {source : Source} {full : Inflater} {unused : Nat}
    (fed : Inflater.start.feed source.rest = .ok full) (ended : full.unused? = some unused) :
    ∃ after, uncompress source = .complete full.output.toList after (reportUnused unused) ∧
      after.rest = [] := by
  obtain ⟨all, after, pumped, whole, exhausted⟩ := pump_of_feed fed
  refine ⟨after, ?_, exhausted⟩
  simp only [uncompress, pumped, ended, whole]

/-- A source that the inflater takes without a defect, but not to the end of a container, is
refused as incomplete after all of its content has been written. -/
theorem uncompress_of_feed_unfinished {source : Source} {full : Inflater}
    (fed : Inflater.start.feed source.rest = .ok full) (unfinished : full.unused? = none) :
    ∃ after, uncompress source =
        ⟨full.output.toList, after, [], some (.malformed .unfinishedDeflate)⟩ ∧
      after.rest = [] := by
  obtain ⟨all, after, pumped, whole, exhausted⟩ := pump_of_feed fed
  refine ⟨after, ?_, exhausted⟩
  simp only [uncompress, pumped, unfinished, whole]

/-- A source in which the inflater meets a defect is refused with this defect, after what the
inflater has put out for some front of the source has been written. -/
theorem uncompress_of_feed_error {source : Source} {defect : Defect}
    (fed : Inflater.start.feed source.rest = .error defect) :
    ∃ front part after, front <+: source.rest ∧ Inflater.start.feed front = .ok part ∧
      uncompress source =
        ⟨part.output.toList, after, [], some (.malformed (.corruptDeflate defect.message))⟩ := by
  have positive : 0 < copySize := by decide
  obtain ⟨pieces, made_up, folded, _⟩ :=
    source.pump_eq_foldlM positive absorbPiece (Inflater.start, [])
  rw [← made_up] at fed
  have nothing : ([] : List Bytes).reverse.flatten = Inflater.start.output.toList := rfl
  obtain ⟨kept, front, part, met, begins, clean, whole⟩ := foldlM_absorbPiece_error fed nothing
  have pumped : source.pump copySize absorbPiece (Inflater.start, []) =
      (.error (defect, kept), (source.pump copySize absorbPiece (Inflater.start, [])).2) :=
    Prod.ext (folded.trans met) rfl
  refine ⟨front, part, (source.pump copySize absorbPiece (Inflater.start, [])).2, made_up ▸ begins,
    clean, ?_⟩
  rw [uncompress, pumped]
  simp only [whole]

/-- A source is accepted only if the inflater takes it to the end of a container. -/
theorem exists_feed_of_succeeded {source : Source} (succeeded : (uncompress source).failure = none) :
    ∃ full unused, Inflater.start.feed source.rest = .ok full ∧ full.unused? = some unused := by
  cases fed : Inflater.start.feed source.rest with
  | error defect =>
    obtain ⟨_, _, _, _, _, refused⟩ := uncompress_of_feed_error fed
    rw [refused] at succeeded
    cases succeeded
  | ok full =>
    cases ended : full.unused? with
    | none =>
      obtain ⟨after, refused, _⟩ := uncompress_of_feed_unfinished fed ended
      rw [refused] at succeeded
      cases succeeded
    | some unused => exact ⟨full, unused, rfl, ended⟩

/-- A byte string is one complete container of a content, with nothing behind it. -/
def IsContainer (container content : Bytes) : Prop :=
  ∃ full, Inflater.start.feed container = .ok full ∧ full.output.toList = content ∧
    full.unused? = some 0

/-- A container is taken apart into its content, without a report. -/
theorem uncompress_container {source : Source} {content : Bytes}
    (held : IsContainer source.rest content) :
    ∃ after, uncompress source = .complete content after [] ∧ after.rest = [] := by
  obtain ⟨full, fed, rfl, ended⟩ := held
  exact uncompress_of_feed fed ended

/-- All that a library gives when it is fed pieces one after another. -/
def Library.total (library : Library) (deflater : Deflater) : List Bytes → Bytes
  | [] => library.left deflater
  | piece :: others => library.given deflater piece ++ library.total (deflater.feed piece) others

/-- Feeding pieces one after another gives what the library gives in total. -/
theorem foldlM_feedPiece (library : Library) (pieces written : List Bytes) (deflater : Deflater) :
    ∃ last all, pieces.foldlM (feedPiece library) (deflater, written) = .ok (last, all) ∧
      (library.left last :: all).reverse.flatten =
        written.reverse.flatten ++ library.total deflater pieces := by
  induction pieces generalizing written deflater with
  | nil =>
    refine ⟨deflater, written, rfl, ?_⟩
    rw [List.reverse_cons, List.flatten_append, Library.total]
    simp
  | cons piece others inductionHypothesis =>
    obtain ⟨last, all, folded, whole⟩ :=
      inductionHypothesis (library.given deflater piece :: written) (deflater.feed piece)
    refine ⟨last, all, folded, ?_⟩
    rw [whole, List.reverse_cons, List.flatten_append, Library.total]
    simp

/-- What is compressed is what the library gives for some pieces of the source. -/
theorem compress_complete (library : Library) (settings : Settings) (source : Source) :
    ∃ pieces after, pieces.flatten = source.rest ∧ after.rest = [] ∧
      compress library settings source =
        .complete (library.total (.start settings.level) pieces) after [] := by
  have positive : 0 < copySize := by decide
  obtain ⟨pieces, made_up, folded, exhausted⟩ :=
    source.pump_eq_foldlM positive (feedPiece library) (Deflater.start settings.level, [])
  obtain ⟨last, all, absorbed, whole⟩ :=
    foldlM_feedPiece library pieces [] (.start settings.level)
  rw [absorbed] at folded
  refine ⟨pieces, (source.pump copySize (feedPiece library) (.start settings.level, [])).2, made_up,
    exhausted _ folded, ?_⟩
  unfold compress
  split
  · rename_i deflater written after found
    rw [found] at folded
    obtain ⟨rfl, rfl⟩ := Prod.mk.inj (Except.ok.inj folded)
    simp only [found, whole]
    rfl
  · rename_i fault after found
    rw [found] at folded
    cases folded

/-- A library gives back a content at a level: whatever pieces the content comes in, what
the library gives for them is a container of the content. -/
def Library.GivesBack (library : Library) (level : Nat) (content : Bytes) : Prop :=
  ∀ pieces : List Bytes, pieces.flatten = content →
    IsContainer (library.total (.start level) pieces) content

/-- What a library gives that gives a content back is taken apart into the content. -/
theorem uncompress_compressed {library : Library} {settings : Settings} {writer reader : Source}
    {content container : Bytes} (read : writer.rest = content)
    (givesBack : library.GivesBack settings.level content)
    (made : (compress library settings writer).result = .ok container)
    (held : reader.rest = container) :
    ∃ after, uncompress reader = .complete content after [] ∧ after.rest = [] := by
  obtain ⟨pieces, _, made_up, _, completed⟩ := compress_complete library settings writer
  rw [completed] at made
  obtain rfl := Except.ok.inj made
  apply uncompress_container
  rw [held]
  exact givesBack pieces (made_up.trans read)

end ChunkCodecs.Deflate
