import ChunkCodecs.Deflate.Inflater

/-!
# What the inflater does in a step

A field or a code word that is complete makes the inflater wait for something else. On the
way it may put out one byte or copy some from its output, and only the checksum ends the
container. Nothing else ever happens, so what one step of these kinds keeps is kept by any
number of bits and bytes, up to the end of the container.
-/

namespace ChunkCodecs.Deflate

/-- A phase waits for something: it has not finished. -/
def Phase.Waits : Phase → Prop
  | .finished _ => False
  | _ => True

namespace Inflater

/-- What a machine may become in one step. -/
inductive Step (machine : Inflater) : Inflater → Prop where
  /-- It waits for something else. -/
  | goes (phase : Phase) (waits : phase.Waits) : Step machine (machine.enter phase)
  /-- It puts out a byte. -/
  | puts (phase : Phase) (byte : UInt8) (waits : phase.Waits) :
      Step machine { machine with phase := phase, output := machine.output.push byte }
  /-- It copies some bytes of its output. -/
  | copies (phase : Phase) (distance count : Nat) (waits : phase.Waits) :
      Step machine { machine with phase := phase, output := copyBack distance count machine.output }
  /-- It finishes, with nothing unused. -/
  | ends : Step machine (machine.enter (.finished 0))

/-- What a machine may become in any number of steps. -/
inductive Runs (machine : Inflater) : Inflater → Prop where
  /-- No step is made. -/
  | here : Runs machine machine
  /-- One more step is made. -/
  | further {next last : Inflater} (run : Runs machine next) (step : Step next last) :
      Runs machine last

/-- One step is a run. -/
theorem Step.runs {machine next : Inflater} (step : Step machine next) : Runs machine next :=
  .further .here step

/-- Runs are made one after the other. -/
theorem Runs.trans {machine next last : Inflater} (first : Runs machine next)
    (second : Runs next last) : Runs machine last := by
  induction second with
  | here => exact first
  | further _ step inductionHypothesis => exact .further inductionHypothesis step

variable {machine next : Inflater}

/-- Where an outcome is a phase that waits, entering it is a step. -/
theorem step_of_map_enter {outcome : Except Defect Phase}
    (waits : ∀ phase, outcome = .ok phase → phase.Waits)
    (reached : outcome.map machine.enter = .ok next) : Step machine next := by
  cases outcome with
  | error defect => cases reached
  | ok phase =>
    obtain rfl := Except.ok.inj reached
    exact .goes _ (waits phase rfl)

/-- After a block something is waited for. -/
theorem waits_afterBlock (last : Bool) : (afterBlock last).Waits := by
  cases last <;> trivial

/-- After the header something is waited for. -/
theorem waits_of_takeHeader {value : Nat} {phase : Phase} (taken : takeHeader value = .ok phase) :
    phase.Waits := by
  simp only [takeHeader] at taken
  split at taken
  · cases taken
  · split at taken
    · cases taken
    · split at taken
      · cases taken
      · split at taken <;> cases taken <;> trivial

/-- After the type of a block something is waited for. -/
theorem waits_of_takeBlock {value : Nat} {phase : Phase} (taken : takeBlock value = .ok phase) :
    phase.Waits := by
  simp only [takeBlock] at taken
  split at taken <;> cases taken <;> trivial

/-- After the counts of the lengths something is waited for. -/
theorem waits_of_takeCounts {last : Bool} {value : Nat} {phase : Phase}
    (taken : takeCounts last value = .ok phase) : phase.Waits := by
  simp only [takeCounts] at taken
  split at taken <;> cases taken
  trivial

/-- After a length something is waited for. -/
theorem waits_of_nextLength {description : Description} {phase : Phase}
    (taken : nextLength description = .ok phase) : phase.Waits := by
  unfold nextLength at taken
  split at taken
  · cases taken
    trivial
  · cases described : describedCodes description with
    | error defect =>
      rw [described] at taken
      cases taken
    | ok codes =>
      rw [described] at taken
      cases taken
      trivial

/-- After a length of the code of lengths something is waited for. -/
theorem waits_of_takeCodeLength {last : Bool} {literalCount distanceCount codeCount : Nat}
    {lengths : List Nat} {value : Nat} {phase : Phase}
    (taken : takeCodeLength last literalCount distanceCount codeCount lengths value = .ok phase) :
    phase.Waits := by
  simp only [takeCodeLength] at taken
  split at taken
  · cases taken
    trivial
  · split at taken
    · cases taken
    · exact waits_of_nextLength taken

/-- After a symbol of the code of lengths something is waited for. -/
theorem waits_of_takeLengthSymbol {description : Description} {symbol : Nat} {phase : Phase}
    (taken : takeLengthSymbol description symbol = .ok phase) : phase.Waits := by
  unfold takeLengthSymbol at taken
  split at taken
  · exact waits_of_nextLength taken
  · split at taken
    · cases taken
      trivial
    · split at taken <;> cases taken <;> trivial

/-- After a repetition something is waited for. -/
theorem waits_of_takeRepeatCount {description : Description} {repeated : Option Nat} {count : Nat}
    {phase : Phase} (taken : takeRepeatCount description repeated count = .ok phase) :
    phase.Waits := by
  unfold takeRepeatCount at taken
  split at taken
  · cases taken
  · split at taken
    · cases taken
    · exact waits_of_nextLength taken

/-- A match is copied in a step. -/
theorem step_of_copyMatch {codes : BlockCodes} {length distance : Nat}
    (taken : machine.copyMatch codes length distance = .ok next) : Step machine next := by
  simp only [copyMatch] at taken
  split at taken
  · cases taken
  · cases taken
    exact .copies _ distance length trivial

/-- A literal, a length or the end of a block is a step. -/
theorem step_of_takeLiteral {codes : BlockCodes} {symbol : Nat}
    (taken : machine.takeLiteral codes symbol = .ok next) : Step machine next := by
  simp only [takeLiteral] at taken
  split at taken
  · cases taken
    exact .puts _ _ trivial
  · split at taken
    · cases taken
      exact .goes _ (waits_afterBlock _)
    · split at taken
      · cases taken
      · cases taken
        exact .goes _ trivial
      · cases taken
        exact .goes _ trivial

/-- A distance is a step. -/
theorem step_of_takeDistance {codes : BlockCodes} {length symbol : Nat}
    (taken : machine.takeDistance codes length symbol = .ok next) : Step machine next := by
  unfold takeDistance at taken
  split at taken
  · cases taken
  · exact step_of_copyMatch taken
  · cases taken
    exact .goes _ trivial

/-- A complete field is a step. -/
theorem step_of_takeField {use : FieldUse} {value : Nat}
    (taken : machine.takeField use value = .ok next) : Step machine next := by
  cases use with
  | header => exact step_of_map_enter (fun _ => waits_of_takeHeader) taken
  | dictionary => cases taken
  | block => exact step_of_map_enter (fun _ => waits_of_takeBlock) taken
  | storedLength last =>
    simp only [takeField] at taken
    split at taken
    · cases taken
    · split at taken <;> cases taken
      · exact .goes _ (waits_afterBlock last)
      · exact .goes _ trivial
  | counts last => exact step_of_map_enter (fun _ => waits_of_takeCounts) taken
  | codeLength last literalCount distanceCount codeCount lengths =>
    exact step_of_map_enter (fun _ => waits_of_takeCodeLength) taken
  | repeatCount description repeated least =>
    exact step_of_map_enter (fun _ => waits_of_takeRepeatCount) taken
  | length codes base =>
    cases taken
    exact .goes _ trivial
  | distance codes length base => exact step_of_copyMatch taken
  | checksum =>
    simp only [takeField] at taken
    split at taken
    · cases taken
      exact .ends
    · cases taken

/-- A complete code word is a step. -/
theorem step_of_takeSymbol {use : SymbolUse} {symbol : Nat}
    (taken : machine.takeSymbol use symbol = .ok next) : Step machine next := by
  cases use with
  | codeLength description => exact step_of_map_enter (fun _ => waits_of_takeLengthSymbol) taken
  | literal codes => exact step_of_takeLiteral taken
  | distance codes length => exact step_of_takeDistance taken

/-- A bit is a step, or none. -/
theorem runs_of_takeBit {bit : Bool} (taken : machine.takeBit bit = .ok next) :
    Runs machine next := by
  unfold takeBit at taken
  split at taken
  · rename_i use missing weight value _
    by_cases complete : missing ≤ 1
    · simp only [complete, if_true] at taken
      exact (step_of_takeField taken).runs
    · simp only [complete, if_false] at taken
      cases taken
      refine (Step.goes _ ?_).runs
      trivial
  · split at taken
    · cases taken
    · exact (step_of_takeSymbol taken).runs
    · cases taken
      refine (Step.goes _ ?_).runs
      trivial
  · cases taken
  · cases taken
    exact .here

/-- Some bits are a run. -/
theorem runs_of_takeBits {count number : Nat} {machine : Inflater}
    (taken : takeBits count number machine = .ok next) : Runs machine next := by
  induction count generalizing number machine with
  | zero =>
    cases taken
    exact .here
  | succ count inductionHypothesis =>
    rw [takeBits] at taken
    cases first : machine.takeBit (number % 2 == 1) with
    | error defect =>
      rw [first] at taken
      cases taken
    | ok between =>
      rw [first] at taken
      exact (runs_of_takeBit first).trans (inductionHypothesis taken)

/-- Settling is a step, or none. -/
theorem runs_settle (machine : Inflater) : Runs machine machine.settle := by
  unfold settle
  split
  · refine (Step.goes _ ?_).runs
    trivial
  · exact .here

/-- The count of unused bytes is that of the phase. -/
theorem unused?_eq_some_iff {unused : Nat} :
    machine.unused? = some unused ↔ machine.phase = .finished unused := by
  unfold unused?
  split
  · rename_i found same
    rw [same]
    simp
  · rename_i other
    constructor
    · intro impossible
      cases impossible
    · intro finished
      exact absurd finished (other unused)

/-- A byte before the end of the container is a run. -/
theorem runs_of_takeByte {byte : UInt8} (unfinished : machine.unused? = none)
    (taken : machine.takeByte byte = .ok next) : Runs machine next := by
  simp only [takeByte] at taken
  split at taken
  · cases taken
    refine (Step.puts _ byte ?_).runs.trans (runs_settle _)
    split
    · exact waits_afterBlock _
    · trivial
  · rename_i unused found
    rw [unused?_eq_some_iff.mpr found] at unfinished
    cases unfinished
  · cases bits : takeBits 8 byte.toNat machine with
    | error defect =>
      rw [bits] at taken
      cases taken
    | ok between =>
      rw [bits] at taken
      cases taken
      exact (runs_of_takeBits bits).trans (runs_settle between)

/-- A byte after the end of the container is counted, and nothing else changes. -/
theorem takeByte_of_finished {unused : Nat} (finished : machine.phase = .finished unused)
    (byte : UInt8) : machine.takeByte byte = .ok (machine.enter (.finished (unused + 1))) := by
  rw [takeByte, finished]

/-- A front and what stands behind it are fed one after the other. -/
theorem feed_append_eq_ok_iff {front back : Bytes} {machine full : Inflater} :
    machine.feed (front ++ back) = .ok full ↔
      ∃ part, machine.feed front = .ok part ∧ part.feed back = .ok full := by
  rw [feed_append]
  cases machine.feed front with
  | error defect =>
    constructor
    · intro impossible
      cases impossible
    · rintro ⟨part, impossible, _⟩
      cases impossible
  | ok found =>
    constructor
    · intro fed
      exact ⟨found, rfl, fed⟩
    · rintro ⟨part, same, fed⟩
      obtain rfl := Except.ok.inj same
      exact fed

/-- A byte and what stands behind it are fed one after the other. -/
theorem feed_cons_eq_ok_iff {byte : UInt8} {rest : Bytes} {machine full : Inflater} :
    machine.feed (byte :: rest) = .ok full ↔
      ∃ next, machine.takeByte byte = .ok next ∧ next.feed rest = .ok full := by
  have single : machine.feed [byte] = machine.takeByte byte := by
    rw [feed, List.foldlM_cons]
    exact bind_pure _
  rw [← List.singleton_append, feed_append_eq_ok_iff, single]

end Inflater

end ChunkCodecs.Deflate
