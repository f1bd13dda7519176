import ChunkCodecs.Proofs.Reading

/-!
# Parts read one after the other

Parts of known sizes are read from one source, each behind the one before. As long as the
source has enough bytes the parts are consecutive slices of it, of exactly their sizes, and
nothing beyond the last one is taken, whatever the schedule is. The first part that is not all
there ends the reading: its size and the number of bytes that were left are reported, and the
source is exhausted.

Reading a part comes to an end under every schedule. Each single read takes at least one byte,
apart from the one that finds the end of the source, so there are no more reads than bytes that
are taken, and one more if the source ends early. A part of no bytes is not read at all.
-/

namespace ChunkCodecs

namespace Source

/-- A read takes one turn. -/
theorem turn_of_read {source after : Source} {wanted : Nat} {piece : Bytes}
    (step : source.read wanted = (piece, after)) : after.turn = source.turn + 1 := by
  have turned : (source.read wanted).2.turn = source.turn + 1 := rfl
  rw [step] at turned
  exact turned

/-- The gathering loop reads no more often than it takes bytes, and once more if it comes to
the end of the source.

Proof: induction along the reads of the loop. The read that gives nothing is the last one, at
the end; any other read gives a byte at least, by which the rest of the source is shorter. -/
theorem turn_gather_le (missing : Nat) (source : Source) (pieces : List Bytes) :
    (source.gather missing pieces).2.2.turn ≤
      source.turn + min missing source.rest.length + min 1 (missing - source.rest.length) := by
  fun_induction gather missing source pieces with
  | case1 source pieces => simp
  | case2 missing source pieces wanted after step =>
    have ended : source.rest = [] := rest_eq_nil_of_read_nil (Nat.pos_of_ne_zero wanted) step
    have turned := turn_of_read step
    simp only [ended, List.length_nil]
    omega
  | case3 missing source pieces wanted byte more after step inductionHypothesis =>
    obtain ⟨whole, bound, _⟩ := rest_of_read step
    have turned := turn_of_read step
    have shorter : source.rest.length = (byte :: more).length + after.rest.length := by
      rw [whole, List.length_append]
    have some_bytes : 0 < (byte :: more).length := Nat.succ_pos _
    omega

/-- No bytes are had without a read. -/
theorem readExactly_zero (source : Source) : source.readExactly 0 = (.ok [], source) := by
  rw [readExactly, gather]
  rfl

end Source

/-- A part of no bytes is there also at the end of a source, which stays as it is. -/
theorem readPart_zero (source : Source) (part : String) :
    readPart source 0 part = (.ok [], source) := by
  rw [readPart, Source.readExactly_zero]

/-- Reading a part takes no more reads than bytes, and one more if the source ends early. -/
theorem turn_of_readPart {source after : Source} {size : Nat} {part : String}
    {answer : Except Fault Bytes} (read : readPart source size part = (answer, after)) :
    after.turn ≤ source.turn + min size source.rest.length + min 1 (size - source.rest.length) := by
  have gathered : (source.readExactly size).2 = (source.gather size []).2.2 := by
    rw [Source.readExactly]
    split <;> rename_i found <;> rw [found]
  have exactly : after = (source.readExactly size).2 := by
    rw [readPart] at read
    split at read <;> rename_i found <;> rw [found] <;> exact (congrArg Prod.snd read).symm
  rw [exactly, gathered]
  exact source.turn_gather_le size []

/-- A part of known size, with the words that name it. -/
structure KnownPart where
  /-- How many bytes it has. -/
  size : Nat
  /-- What it is called if it is not all there. -/
  name : String

namespace KnownPart

/-- How many bytes parts have together. -/
def total : List KnownPart → Nat
  | [] => 0
  | part :: parts => part.size + total parts

/-- The contents of parts are slices of the bytes: each is as long as its part is, and one
behind the other they are the front of the bytes. -/
def AreSlices (parts : List KnownPart) (contents : List Bytes) (bytes : Bytes) : Prop :=
  contents.map List.length = parts.map size ∧ contents.flatten = bytes.take (total parts)

/-- What reading parts one after the other comes to. -/
structure Reading where
  /-- The contents of the parts that were read. -/
  contents : List Bytes
  /-- Why the reading ended before all parts were read, if it did. -/
  failure : Option Fault
  /-- What is left of the source. -/
  source : Source

/-- Read parts one after the other, as long as each is all there. -/
def readEach (source : Source) : List KnownPart → Reading
  | [] => ⟨[], none, source⟩
  | part :: parts =>
    match readPart source part.size part.name with
    | (.error fault, after) => ⟨[], some fault, after⟩
    | (.ok content, after) =>
      let others := readEach after parts
      ⟨content :: others.contents, others.failure, others.source⟩

/-- Slices behind a first one are slices together with it. -/
theorem AreSlices.cons {part : KnownPart} {parts : List KnownPart} {contents : List Bytes}
    {bytes : Bytes} (enough : part.size ≤ bytes.length)
    (sliced : AreSlices parts contents (bytes.drop part.size)) :
    AreSlices (part :: parts) (bytes.take part.size :: contents) bytes := by
  obtain ⟨sizes, front⟩ := sliced
  constructor
  · rw [List.map_cons, List.map_cons, sizes, List.length_take, Nat.min_eq_left enough]
  · rw [List.flatten_cons, front, total, List.take_add]

/-- Parts for which the source has enough bytes are all read: they are slices of what was left,
and nothing beyond them is taken.

Proof: induction on the parts. The first one is the front of the source, and what is left
behind it is enough for the others. -/
theorem readEach_of_le {parts : List KnownPart} {source : Source}
    (enough : total parts ≤ source.rest.length) :
    ∃ contents ended, readEach source parts = ⟨contents, none, ended⟩ ∧
      AreSlices parts contents source.rest ∧ ended.rest = source.rest.drop (total parts) ∧
      ended.turn ≤ source.turn + total parts := by
  induction parts generalizing source with
  | nil => exact ⟨[], source, rfl, ⟨rfl, rfl⟩, rfl, Nat.le_add_right _ _⟩
  | cons part parts inductionHypothesis =>
    rw [total] at enough ⊢
    have first : part.size ≤ source.rest.length := by omega
    obtain ⟨after, read, remaining, _⟩ := readPart_of_le part.name first
    have turned := turn_of_readPart read
    have behind : total parts ≤ after.rest.length := by
      rw [remaining, List.length_drop]
      omega
    obtain ⟨contents, ended, others, sliced, left, bounded⟩ := inductionHypothesis behind
    rw [remaining] at sliced left
    refine ⟨source.rest.take part.size :: contents, ended, ?_, sliced.cons first, ?_, ?_⟩
    · simp only [readEach, read, others]
    · rw [left, List.drop_drop]
    · omega

/-- A part that is not all there ends the reading. -/
theorem readEach_cons_of_lt {part : KnownPart} {source : Source}
    (short : source.rest.length < part.size) (parts : List KnownPart) :
    ∃ ended, readEach source (part :: parts) =
        ⟨[], some (.truncated (.endedEarly part.size part.name source.rest.length)), ended⟩ ∧
      ended.rest = [] ∧ ended.turn ≤ source.turn + source.rest.length + 1 := by
  obtain ⟨ended, refused, exhausted, _⟩ := readPart_of_lt part.name short
  refine ⟨ended, ?_, exhausted, ?_⟩
  · simp only [readEach, refused]
  · have turned := turn_of_readPart refused
    omega

/-- Parts behind others are read from what these leave. -/
theorem readEach_append {source after : Source} {front : List KnownPart} {contents : List Bytes}
    (complete : readEach source front = ⟨contents, none, after⟩) (behind : List KnownPart) :
    readEach source (front ++ behind) =
      ⟨contents ++ (readEach after behind).contents, (readEach after behind).failure,
        (readEach after behind).source⟩ := by
  induction front generalizing source contents with
  | nil =>
    obtain ⟨rfl, -, rfl⟩ := Reading.mk.inj complete
    rfl
  | cons part front inductionHypothesis =>
    simp only [readEach] at complete
    split at complete
    · cases complete
    · rename_i content next read
      obtain ⟨rfl, whole, left⟩ := Reading.mk.inj complete
      have others : readEach next front = ⟨(readEach next front).contents, none, after⟩ := by
        rw [← whole, ← left]
      simp only [List.cons_append, readEach, read, inductionHypothesis others]

/-- Reading parts of known sizes one after the other is exact, for every source with every
schedule and for all parts. A part of no bytes is had without touching the source. As long as
the source has enough bytes, the contents are slices of exactly the sizes, one behind the other,
and nothing beyond them is taken. The first part that is not all there is refused with its size
and the number of bytes that were left for it, and the source is exhausted then. In both cases
the reading has come to an end after no more reads than there were bytes to take, and one more
where the source has ended. -/
theorem readEach_exact (source : Source) (parts : List KnownPart) :
    (∀ name, readPart source 0 name = (.ok [], source)) ∧
      (total parts ≤ source.rest.length →
        ∃ contents ended, readEach source parts = ⟨contents, none, ended⟩ ∧
          AreSlices parts contents source.rest ∧ ended.rest = source.rest.drop (total parts) ∧
          ended.turn ≤ source.turn + total parts) ∧
      ∀ front part behind, parts = front ++ part :: behind →
        total front ≤ source.rest.length → source.rest.length < total front + part.size →
        ∃ contents fault ended, readEach source parts = ⟨contents, some fault, ended⟩ ∧
          AreSlices front contents source.rest ∧
          fault = .truncated
            (.endedEarly part.size part.name (source.rest.length - total front)) ∧
          fault.message = "Truncated input: expected " ++ toString part.size ++ " bytes of " ++
            part.name ++ ", got " ++ toString (source.rest.length - total front) ∧
          ended.rest = [] ∧ ended.turn ≤ source.turn + source.rest.length + 1 := by
  refine ⟨readPart_zero source, readEach_of_le, ?_⟩
  rintro front part behind rfl enough short
  obtain ⟨contents, after, complete, sliced, left, turned⟩ := readEach_of_le enough
  have available : after.rest.length = source.rest.length - total front := by
    rw [left, List.length_drop]
  have missing : after.rest.length < part.size := by omega
  obtain ⟨ended, refused, exhausted, bounded⟩ := readEach_cons_of_lt missing behind
  refine ⟨contents, _, ended, ?_, sliced, rfl, rfl, exhausted, by omega⟩
  rw [readEach_append complete, refused, available, List.append_nil]

/-- Of six bytes, read three at a time, a part of five and a part of none are there; behind them
one byte is left for a part of five. -/
theorem lastPart_refused :
    (∃ contents ended,
      readEach (.limited [1, 2, 3, 4, 5, 6] 3) [⟨5, "first"⟩, ⟨0, "second"⟩] =
        ⟨contents, none, ended⟩ ∧
      AreSlices [⟨5, "first"⟩, ⟨0, "second"⟩] contents [1, 2, 3, 4, 5, 6] ∧ ended.rest = [6]) ∧
    ∃ contents fault ended,
      readEach (.limited [1, 2, 3, 4, 5, 6] 3) [⟨5, "first"⟩, ⟨0, "second"⟩, ⟨5, "last"⟩] =
        ⟨contents, some fault, ended⟩ ∧
      AreSlices [⟨5, "first"⟩, ⟨0, "second"⟩] contents [1, 2, 3, 4, 5, 6] ∧
      fault.message = "Truncated input: expected 5 bytes of last, got 1" ∧ ended.rest = [] := by
  obtain ⟨_, completes, _⟩ :=
    readEach_exact (.limited [1, 2, 3, 4, 5, 6] 3) [⟨5, "first"⟩, ⟨0, "second"⟩]
  obtain ⟨_, _, refuses⟩ :=
    readEach_exact (.limited [1, 2, 3, 4, 5, 6] 3) [⟨5, "first"⟩, ⟨0, "second"⟩, ⟨5, "last"⟩]
  obtain ⟨contents, ended, complete, sliced, left, _⟩ := completes (by decide)
  obtain ⟨found, fault, behind, refused, sliced_too, rfl, _, exhausted, _⟩ :=
    refuses [⟨5, "first"⟩, ⟨0, "second"⟩] ⟨5, "last"⟩ [] rfl (by decide) (by decide)
  exact ⟨⟨contents, ended, complete, sliced, left⟩, found, _, behind, refused, sliced_too, rfl,
    exhausted⟩

end KnownPart

end ChunkCodecs
