import ChunkCodecs.Codec.Flow
import ChunkCodecs.Proofs.Blosc.Blame
import ChunkCodecs.Proofs.Construction

/-!
# What the library is called with

A codec is built with a level, a filter and a block size that it has checked, and passes them on
whenever a chunk is compressed. The library takes them as machine words of 32 bits, signed. A
level and a filter always fit; the size of blocks is bounded from below alone, so it need not.

Two kinds of failure come out of a call. A report of the library becomes a fault of the transfer
that it broke. The refusal of a number that does not fit is none: it comes from passing the
number, passes through unchanged, and is not among the faults that arise while bytes are flowing.
So a codec with such a block size is built, printed and persisted, and no chunk is compressed
with it.
-/

namespace ChunkCodecs

/-- The faults of numbers that a call cannot be made with. -/
def ForeignFault.IsOverflow : ForeignFault → Prop
  | blockSizeBeyondInt | blockSizeBeyondLong => True
  | _ => False

namespace Blosc

/-- A number is one of a signed word of 32 bits. -/
def FitsWord (number : Int) : Prop := -2 ^ 31 ≤ number ∧ number < 2 ^ 31

instance (number : Int) : Decidable (FitsWord number) :=
  inferInstanceAs (Decidable (_ ∧ _))

namespace Settings

/-- The numbers that a library is called with. -/
def numbers (settings : Settings) : List Int :=
  [settings.level.val, settings.shuffle.code, settings.blockSize]

/-- A library can be called with settings: it contains their compressor, and their numbers are
words. -/
def CanBePassedTo (settings : Settings) (library : Library) : Prop :=
  settings.label.content ∈ library.compressors ∧ ∀ number ∈ settings.numbers, FitsWord number

/-- The numbers of settings are words exactly if the size of blocks is one: the level and the
filter are small. -/
theorem fitWords_iff (settings : Settings) :
    (∀ number ∈ settings.numbers, FitsWord number) ↔ settings.blockSize < 2 ^ 31 := by
  have level : FitsWord settings.level.val := by
    have small := settings.level.isLt
    unfold FitsWord
    omega
  have shuffle : FitsWord settings.shuffle.code := by
    cases settings.shuffle <;> decide
  simp only [numbers, List.forall_mem_cons, List.not_mem_nil, false_imp_iff, implies_true,
    level, shuffle, true_and, and_true]
  unfold FitsWord
  omega

end Settings

/-- A library takes its numbers as words and contains every compressor. It is called if the
numbers are words, and then fails by reports of its own; otherwise the call is not made. -/
structure Library.PassesWords (library : Library) : Prop where
  /-- It contains every compressor. -/
  contains (compressor : Compressor) : compressor.name ∈ library.compressors
  /-- A call that is made fails by a report. -/
  reports {settings : Settings} {content : Bytes} {alarm : Alarm}
    (fit : ∀ number ∈ settings.numbers, FitsWord number)
    (failed : library.compress settings content = .error alarm) : ∃ text, alarm = .reported text
  /-- A number that is no word cannot be passed. -/
  overflows {settings : Settings} (content : Bytes)
    (beyond : ¬ ∀ number ∈ settings.numbers, FitsWord number) :
    ∃ cause, library.compress settings content = .error (.escaped cause) ∧ cause.IsOverflow

/-- The standard library takes its numbers as words. -/
theorem passesWords_standard : Library.standard.PassesWords where
  contains compressor := by cases compressor <;> decide
  reports {settings content alarm} fit failed := by
    have small := settings.fitWords_iff.mp fit
    have made : compressStandard settings content = .ok (pack settings content) := by
      rw [compressStandard, if_neg (by omega), if_neg (by omega)]
    cases made.symm.trans failed
  overflows {settings} content beyond := by
    rw [Settings.fitWords_iff, Nat.not_lt] at beyond
    by_cases large : 2 ^ 63 ≤ settings.blockSize
    · exact ⟨.blockSizeBeyondLong, if_pos large, trivial⟩
    · exact ⟨.blockSizeBeyondInt, (if_neg large).trans (if_pos beyond), trivial⟩

/-- A library that contains every compressor can be called with settings exactly if the size of
blocks is a word. -/
theorem Library.PassesWords.canBePassedTo_iff {library : Library} (passes : library.PassesWords)
    (settings : Settings) : settings.CanBePassedTo library ↔ settings.blockSize < 2 ^ 31 := by
  have contained : settings.label.content ∈ library.compressors := by
    rw [settings.label_content]
    exact passes.contains settings.compressor
  rw [Settings.CanBePassedTo, settings.fitWords_iff, and_iff_right contained]

/-- The compression of a content ends as it should: it wrote one frame of the content's size, or
it wrote nothing and failed by a fault of those that arise while bytes are flowing. -/
inductive EndsInTransfer (library : Library) (content : Bytes) : Transfer → Prop
  /-- A frame was written. -/
  | made {sizes : FrameSizes} {frame : Bytes} (delimited : library.Delimits sizes frame)
      (declared : sizes.content = content.length) (after : Source) (journal : Journal) :
      EndsInTransfer library content (.complete frame after journal)
  /-- The transfer failed. -/
  | failed {fault : Fault} (transferring : fault.isTransfer = true) (after : Source)
      (journal : Journal) : EndsInTransfer library content (.failed fault after journal)

/-- Whatever a library returned, no fault but one of a transfer comes of it. -/
theorem isTransfer_of_returned {library : Library} {settings : Settings} {content buffer : Bytes}
    {fault : Fault} (returned : library.compress settings content = .ok buffer)
    (failed : library.encode settings content = .error fault) : fault.isTransfer = true := by
  rcases encode_cases returned with
    ⟨_, cause, refused⟩ | ⟨sizes, _, ⟨_, cause, refused⟩ | ⟨_, compared⟩⟩
  · cases refused.symm.trans failed
    rfl
  · cases refused.symm.trans failed
    rfl
  · rw [compared] at failed
    rcases trimFrame_cases buffer sizes content.length with ⟨_, cut⟩ | ⟨_, cause, refused⟩
    · cases cut.symm.trans failed
    · cases refused.symm.trans failed
      rfl

/-- With numbers that are words, a content is encoded, or not by a fault of a transfer. -/
theorem Library.PassesWords.endsInTransfer_conclude {library : Library}
    (passes : library.PassesWords) {settings : Settings}
    (fit : ∀ number ∈ settings.numbers, FitsWord number) (content : Bytes) (after : Source)
    (journal : Journal) :
    EndsInTransfer library content
      (.conclude after journal (library.encode settings content)) := by
  cases encoded : library.encode settings content with
  | ok frame =>
    obtain ⟨sizes, _, delimited, declared, _⟩ := encode_delimits encoded
    exact .made delimited declared after journal
  | error fault =>
    refine .failed ?_ after journal
    cases called : library.compress settings content with
    | ok buffer => exact isTransfer_of_returned called encoded
    | error alarm =>
      obtain ⟨text, rfl⟩ := passes.reports fit called
      simp only [Library.encode, Library.encodeTold, called, Except.error.injEq] at encoded
      rw [← encoded]
      rfl

/-- A library that takes its numbers as words can be called with the settings of a codec exactly
if the size of its blocks is a word. Exactly then compression with the codec ends as it should,
whenever the library can be used at all; otherwise it fails by the overflow of the call.

Proof: the level and the filter of settings are small by construction. What the library returns
is judged by the encoder, which has no faults but those of transfers. -/
theorem compress_endsInTransfer_iff {library : Library} (passes : library.PassesWords)
    {backing : Backing} (provided : backing.blosc = some library) (settings : Settings)
    (source : Source) :
    (settings.CanBePassedTo library ↔ settings.blockSize < 2 ^ 31) ∧
    (EndsInTransfer library source.rest ((Codec.blosc settings).compress backing source) ↔
      ∀ journal, library.IsUsable journal → settings.blockSize < 2 ^ 31) ∧
    ∀ journal, library.IsUsable journal → 2 ^ 31 ≤ settings.blockSize →
      ∃ cause after, (Codec.blosc settings).compress backing source =
        .failed (.foreign cause) after journal ∧ cause.IsOverflow := by
  refine ⟨passes.canBePassedTo_iff settings, ?_⟩
  simp only [Codec.compress, provided]
  rcases compress_cases library settings source with
    ⟨journal, after, usable, concluded⟩ | ⟨unusable, cause, after, journal, refused⟩
  · have same {other : Journal} (also_usable : library.IsUsable other) : other = journal :=
      congrArg Prod.snd (also_usable.symm.trans usable)
    rw [concluded]
    by_cases fit : settings.blockSize < 2 ^ 31
    · have ends := passes.endsInTransfer_conclude (settings.fitWords_iff.mpr fit) source.rest
        after journal
      exact ⟨iff_of_true ends fun _ _ => fit, fun _ _ beyond => absurd fit (Nat.not_lt.mpr beyond)⟩
    · obtain ⟨cause, called, overflow⟩ := passes.overflows source.rest
        (mt settings.fitWords_iff.mp fit)
      have escaped : library.encode settings source.rest = .error (.foreign cause) := by
        simp only [Library.encode, Library.encodeTold, called, Alarm.toFault]
      rw [escaped]
      refine ⟨iff_of_false ?_ fun always => fit (always journal usable), ?_⟩
      · intro ends
        cases ends with
        | failed transferring => cases transferring
      · intro other also_usable _
        obtain rfl := same also_usable
        exact ⟨cause, after, rfl, overflow⟩
  · rw [refused]
    refine ⟨iff_of_true (.failed rfl after journal) ?_, ?_⟩
    · intro other usable
      exact absurd usable (unusable other)
    · intro other usable
      exact absurd usable (unusable other)

/-- The standard settings compress with the standard library as they should. -/
theorem standard_endsInTransfer :
    Library.standard.PassesWords ∧ (⟨some .standard, none⟩ : Backing).blosc = some .standard ∧
      Settings.standard.CanBePassedTo .standard ∧
      EndsInTransfer .standard [1, 2, 3]
        ((Codec.blosc .standard).compress ⟨some .standard, none⟩ (.ofBytes [1, 2, 3])) := by
  have whole := compress_endsInTransfer_iff passesWords_standard
    (show (⟨some .standard, none⟩ : Backing).blosc = some .standard from rfl) .standard
    (.ofBytes [1, 2, 3])
  exact ⟨passesWords_standard, rfl, whole.1.mpr (by decide), whole.2.1.mpr fun _ _ => by decide⟩

/-- A codec with blocks of a size beyond words is built, and compresses nothing: the overflow
escapes. -/
theorem largeBlocks_escape :
    ∃ codec, (Codec.create (.text "blosc") [.dict [(.text "blocksize", .int (2 ^ 31))]]
        []).result = .ok codec ∧
      ¬ EndsInTransfer .standard [1, 2, 3]
        (codec.compress ⟨some .standard, none⟩ (.ofBytes [1, 2, 3])) ∧
      (codec.compress ⟨some .standard, none⟩ (.ofBytes [1, 2, 3])).result =
        .error (.foreign .blockSizeBeyondInt) := by
  have resolved : Codec.resolve (.text "blosc") = .ok .blosc := rfl
  have configured : Codec.configure .blosc [(.text "blocksize", .int (2 ^ 31))] =
      .ok (.blosc { Settings.standard with blockSize := 2 ^ 31 }) := rfl
  have built : (Codec.create (.text "blosc") [.dict [(.text "blocksize", .int (2 ^ 31))]]
      []).result = .ok (.blosc { Settings.standard with blockSize := 2 ^ 31 }) := by
    rw [Codec.result_create_dict resolved]
    exact Codec.result_build_of_configure configured
      (Codec.isPrintable_blosc (Value.intIsPrintable_of_lt (by decide)))
  refine ⟨_, built, ?_, rfl⟩
  intro ends
  cases ends with
  | failed transferring => cases transferring

end Blosc

end ChunkCodecs
