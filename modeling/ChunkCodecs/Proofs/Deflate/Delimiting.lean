import ChunkCodecs.Proofs.Deflate.Ending
import ChunkCodecs.Proofs.Deflate.Streaming
import ChunkCodecs.Proofs.Transfers

/-!
# Containers delimit themselves

A container tells where it ends, though nothing in front of it says how long it is. So of
everything that a stream may hold, the container at its front is the only front that is
accepted without a report; what stands behind it is counted and reported, and what breaks
off before its last byte is refused as incomplete, never as corrupt. None of this depends
on the pieces in which the stream is read.
-/

namespace ChunkCodecs.Deflate

/-- A container is accepted with anything behind it, which is read and reported. -/
theorem uncompress_container_append {container content tail : Bytes}
    (held : IsContainer container content) {source : Source}
    (begins : source.rest = container ++ tail) :
    ∃ after, uncompress source = .complete content after (reportUnused tail.length) ∧
      after.rest = [] := by
  obtain ⟨full, fed, rfl, ended⟩ := held
  have counted := Inflater.feed_append_of_ended fed ended tail
  rw [← begins] at counted
  have last : (full.enter (.finished tail.length)).unused? = some tail.length := rfl
  obtain ⟨after, completed, exhausted⟩ := uncompress_of_feed counted last
  exact ⟨after, completed, exhausted⟩

/-- A container that breaks off is refused as incomplete. -/
theorem uncompress_container_front {front back content : Bytes} (more : back ≠ [])
    (held : IsContainer (front ++ back) content) {source : Source} (broken : source.rest = front) :
    (uncompress source).failure = some (.malformed .unfinishedDeflate) := by
  obtain ⟨full, fed, _, ended⟩ := held
  obtain ⟨part, fed_part, unfinished⟩ := Inflater.unfinished_of_front more fed ended
  rw [← broken] at fed_part
  obtain ⟨after, refused, _⟩ := uncompress_of_feed_unfinished fed_part unfinished
  rw [refused]

/-- A source that is accepted begins with a container of what is written; what stands behind
the container is read and reported. -/
theorem exists_container_of_succeeded {source : Source}
    (succeeded : (uncompress source).failure = none) :
    ∃ container tail, source.rest = container ++ tail ∧
      IsContainer container (uncompress source).written ∧
      (uncompress source).journal = reportUnused tail.length := by
  obtain ⟨full, unused, fed, ended⟩ := exists_feed_of_succeeded succeeded
  obtain ⟨after, completed, _⟩ := uncompress_of_feed fed ended
  obtain ⟨container, tail, middle, made_up, rfl, first, finished, same⟩ :=
    Inflater.exists_container_of_feed rfl fed ended
  refine ⟨container, tail, made_up, ?_, ?_⟩
  · rw [completed]
    exact ⟨middle, first, congrArg Array.toList same, finished⟩
  · rw [completed]
    rfl

/-- Nothing is reported exactly if nothing is unused. -/
theorem reportUnused_eq_nil_iff {unused : Nat} : reportUnused unused = [] ↔ unused = 0 := by
  by_cases nothing : unused = 0
  · simp [reportUnused, nothing]
  · simp [reportUnused, nothing]

/-- A source that is accepted without a report is a container. -/
theorem isContainer_of_quiet {source : Source} (succeeded : (uncompress source).failure = none)
    (quiet : (uncompress source).journal = []) :
    IsContainer source.rest (uncompress source).written := by
  obtain ⟨container, tail, made_up, held, reported⟩ := exists_container_of_succeeded succeeded
  have nothing : tail = [] := by
    rw [quiet] at reported
    exact List.eq_nil_of_length_eq_zero (reportUnused_eq_nil_iff.mp reported.symm)
  rw [made_up, nothing, List.append_nil]
  exact held

/-- Of two containers none is a proper front of the other one. -/
theorem IsContainer.eq_of_front {container longer content other : Bytes}
    (held : IsContainer container content) (held_too : IsContainer longer other)
    (front : container <+: longer) : container = longer := by
  obtain ⟨back, rfl⟩ := front
  by_cases same : back = []
  · rw [same, List.append_nil]
  · have read : (Source.ofBytes container).rest = container := rfl
    have refused := uncompress_container_front same held_too read
    obtain ⟨after, completed, _⟩ := uncompress_container (read.symm ▸ held)
    rw [completed] at refused
    cases refused

/-- Of two containers at the front of one byte string none is longer than the other one. -/
theorem IsContainer.unique {container longer content other bytes : Bytes}
    (held : IsContainer container content) (held_too : IsContainer longer other)
    (first : container <+: bytes) (second : longer <+: bytes) : longer = container := by
  rcases List.prefix_or_prefix_of_prefix first second with shorter | shorter
  · exact (held.eq_of_front held_too shorter).symm
  · exact held_too.eq_of_front held shorter

/-- A byte string that is accepted has exactly one front that is accepted without a report:
its container, which gives the same content. However they are read, the container with
anything behind it gives this content too, all of it is read, and what is behind is reported
with its length unless there is nothing; and every proper front of the container is refused
as incomplete. -/
theorem uncompress_self_delimiting {source : Source} {content rest : Bytes}
    (gives : (uncompress source).Gives content rest) :
    ∃ container,
      (container <+: source.rest ∧ ∀ reader : Source, reader.rest = container →
        (uncompress reader).Gives content [] ∧ (uncompress reader).journal = []) ∧
      (∀ reader : Source, reader.rest <+: source.rest → (uncompress reader).failure = none →
        (uncompress reader).journal = [] → reader.rest = container) ∧
      (∀ (tail : Bytes) (reader : Source), reader.rest = container ++ tail →
        (uncompress reader).Gives content [] ∧
        (uncompress reader).journal =
          if tail = [] then []
          else [⟨.warning, .zlib,
            s!"zlib: ignoring {tail.length} trailing bytes after the end of the stream"⟩]) ∧
      ∀ (front : Bytes) (reader : Source), front <+: container → front ≠ container →
        reader.rest = front →
        ∃ fault, (uncompress reader).failure = some fault ∧
          fault = .malformed .unfinishedDeflate ∧
          fault.message = "zlib: unexpected end of stream" := by
  obtain ⟨succeeded, rfl, _⟩ := gives
  obtain ⟨container, behind, made_up, held, _⟩ := exists_container_of_succeeded succeeded
  have begins : container <+: source.rest := ⟨behind, made_up.symm⟩
  refine ⟨container, ⟨begins, ?_⟩, ?_, ?_, ?_⟩
  · intro reader read
    rw [← read] at held
    obtain ⟨after, completed, exhausted⟩ := uncompress_container held
    rw [completed]
    exact ⟨⟨rfl, rfl, exhausted⟩, rfl⟩
  · intro reader front accepted quiet
    exact held.unique (isContainer_of_quiet accepted quiet) begins front
  · intro tail reader read
    obtain ⟨after, completed, exhausted⟩ := uncompress_container_append held read
    rw [completed]
    refine ⟨⟨rfl, rfl, exhausted⟩, ?_⟩
    cases tail with
    | nil => rfl
    | cons byte more => rfl
  · rintro front reader ⟨back, rfl⟩ proper broken
    have more : back ≠ [] := by
      rintro rfl
      exact proper (List.append_nil front).symm
    exact ⟨_, uncompress_container_front more held broken, rfl, rfl⟩

/-- Ten times one letter, as a literal and a copy in a block with the fixed codes. -/
def letterContainer : Bytes :=
  [0x78, 0xDA, 0x4B, 0x4C, 0x84, 0x01, 0x00, 0x14, 0xE1, 0x03, 0xCB]

/-- A byte string is a container if running the inflater on it says so. -/
theorem isContainer_of_run {container content : Bytes}
    (run : (Inflater.start.feed container).toOption.map
      (fun full => (full.output.toList, full.unused?)) = some (content, some 0)) :
    IsContainer container content := by
  cases fed : Inflater.start.feed container with
  | error defect =>
    rw [fed] at run
    cases run
  | ok full =>
    rw [fed] at run
    obtain ⟨given, ended⟩ := Prod.mk.inj (Option.some.inj run)
    exact ⟨full, fed, given, ended⟩

/-- They are a container. -/
theorem isContainer_letterContainer : IsContainer letterContainer (List.replicate 10 97) :=
  isContainer_of_run (by decide +kernel)

/-- Two bytes behind the container, read four bytes at a time: the letters are given, the
container is the only front that is accepted without a report, and it is refused as
incomplete if its last byte is missing. -/
theorem letterContainer_delimited :
    (uncompress (.limited (letterContainer ++ [1, 2]) 4)).Gives (List.replicate 10 97) [] ∧
      (∀ reader : Source, reader.rest <+: letterContainer ++ [1, 2] →
        (uncompress reader).failure = none → (uncompress reader).journal = [] →
        reader.rest = letterContainer) ∧
      (uncompress (.limited (letterContainer.take 10) 4)).failure =
        some (.malformed .unfinishedDeflate) := by
  have held := isContainer_letterContainer
  have read : (Source.limited (letterContainer ++ [1, 2]) 4).rest = letterContainer ++ [1, 2] := rfl
  have read_alone : (Source.ofBytes letterContainer).rest = letterContainer := rfl
  obtain ⟨_, completed, exhausted⟩ := uncompress_container_append held read
  obtain ⟨_, alone, _⟩ := uncompress_container (read_alone.symm ▸ held)
  have gives : (uncompress (.limited (letterContainer ++ [1, 2]) 4)).Gives
      (List.replicate 10 97) [] := by
    rw [completed]
    exact ⟨rfl, rfl, exhausted⟩
  obtain ⟨container, _, unique, _, fronts⟩ := uncompress_self_delimiting gives
  have same : letterContainer = container := by
    refine unique (.ofBytes letterContainer) (List.prefix_append _ _) ?_ ?_
    · rw [alone]
      rfl
    · rw [alone]
      rfl
  subst same
  obtain ⟨_, refused, rfl, _⟩ := fronts (letterContainer.take 10)
    (.limited (letterContainer.take 10) 4) (List.take_prefix _ _) (by decide) rfl
  exact ⟨gives, unique, refused⟩

end ChunkCodecs.Deflate
