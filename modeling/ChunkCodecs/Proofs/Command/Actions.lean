import Mathlib
import ChunkCodecs.Command.Run
import ChunkCodecs.Proofs.Files
import ChunkCodecs.Proofs.Refusals

/-!
# What actions do

An action on a desk yields a value and a desk, or it fails. What a sequence of actions yields
is what the second one yields on the desk that the first one leaves. Each of the actions of a
command comes with the condition under which it yields something, and with what it yields.

Records change no file but the log file, and they never fail.
-/

namespace ChunkCodecs

/-- The file to which records are added is at a place. -/
def Log.IsAt (log : Log) (place : Place) : Prop := ∃ path, log.path = some path ∧ placeOf path = place

/-- The last line of a file can be added whenever the file can be written. -/
theorem FileSystem.append_spares {files after : FileSystem} {path : String} {addition : Bytes}
    (added : files.append path addition = .ok after) :
    FileSystem.Spares (· = placeOf path) files after := by
  unfold FileSystem.append at added
  split at added <;> exact FileSystem.spares_write added

/-- A file can be added to exactly if it can be written. -/
theorem FileSystem.exists_append_iff {files : FileSystem} {path : String} {addition : Bytes} :
    (∃ after, files.append path addition = .ok after) ↔ files.Accepts path := by
  constructor
  · rintro ⟨after, added⟩
    unfold FileSystem.append at added
    split at added <;> exact (FileSystem.write_eq_ok_iff.mp added).1
  · intro accepted
    unfold FileSystem.append
    split <;> exact FileSystem.exists_write accepted _

namespace Desk

/-- The desk with other files on it. -/
def withFiles (desk : Desk) (files : FileSystem) : Desk := { desk with files := files }

/-- A desk differs from another one by records alone: they are written where they were, and
every file but the log file is left. -/
structure Recorded (before after : Desk) : Prop where
  /-- Records are written where they were. -/
  log : after.log = before.log
  /-- Every file but the log file is left. -/
  spares : FileSystem.Spares before.log.IsAt before.files after.files

/-- Records after records are records. -/
theorem Recorded.trans {before between after : Desk} (first : Recorded before between)
    (second : Recorded between after) : Recorded before after := by
  obtain ⟨same, spares⟩ := second
  rw [first.log] at same spares
  exact ⟨same, first.spares.trans spares⟩

/-- A record is added as a record. -/
theorem recorded_add (desk : Desk) (entry : Record) : Recorded desk (desk.add entry) := by
  unfold add
  split
  · exact ⟨rfl, .refl desk.files⟩
  · refine ⟨rfl, ?_⟩
    cases logged : desk.log.path with
    | none => exact .refl desk.files
    | some path =>
      cases added : desk.files.append path (Text.Utf8.encode entry.line.toList) with
      | error fault =>
        simp only [added]
        exact .refl desk.files
      | ok files =>
        simp only [added]
        exact (FileSystem.append_spares added).mono fun place same => ⟨path, logged, same.symm⟩

/-- The desk after several records. -/
def addAll (desk : Desk) (journal : Journal) : Desk := journal.foldl add desk

/-- Records are added as records. -/
theorem recorded_addAll (desk : Desk) (journal : Journal) :
    Recorded desk (desk.addAll journal) := by
  induction journal generalizing desk with
  | nil => exact ⟨rfl, .refl desk.files⟩
  | cons entry others inductionHypothesis =>
    exact (desk.recorded_add entry).trans (inductionHypothesis (desk.add entry))

end Desk

/-- The least level that is recorded. -/
def Reporting.least (reporting : Reporting) : Level :=
  (Level.all.find? fun level => reporting.level.text? == some level.name).getD .info

/-- The path of the log file, if one is asked for. -/
def Reporting.logPath (reporting : Reporting) : Option String :=
  reporting.file.text?.filter fun path => path != ""

namespace Action

variable {α β : Type} {desk after : Desk}

/-- An action on a desk yields a value and leaves a desk. -/
def Yields (action : Action α) (desk : Desk) (value : α) (after : Desk) : Prop :=
  action.run desk = .ok value after

/-- A sequence of actions yields what the second one yields after the first one. -/
theorem yields_bind_iff {action : Action α} {next : α → Action β} {value : β} :
    (action >>= next).Yields desk value after ↔
      ∃ given between, action.Yields desk given between ∧ (next given).Yields between value after := by
  simp only [Yields, EStateM.run, bind, EStateM.bind]
  cases action desk with
  | ok given between =>
    constructor
    · exact fun later => ⟨given, between, rfl, later⟩
    · rintro ⟨_, _, ⟨⟩, later⟩
      exact later
  | error fault between =>
    constructor
    · nofun
    · rintro ⟨_, _, ⟨⟩, _⟩

/-- A value alone is yielded on the same desk. -/
theorem yields_pure_iff {value found : α} :
    (pure found : Action α).Yields desk value after ↔ value = found ∧ after = desk := by
  simp [Yields, EStateM.run, pure, EStateM.pure, eq_comm]

/-- What is done with the desk is done on the same desk. -/
theorem yields_get_bind_iff {next : Desk → Action β} {value : β} :
    (get >>= next).Yields desk value after ↔ (next desk).Yields desk value after := .rfl

/-- A desk that is set is left. -/
theorem yields_set_iff {wanted : Desk} {value : PUnit} :
    (set wanted : Action PUnit).Yields desk value after ↔ after = wanted := by
  simp [Yields, EStateM.run, set, MonadStateOf.set, EStateM.set, eq_comm]

/-- A change of the desk leaves the changed desk. -/
theorem yields_modify_iff {change : Desk → Desk} {value : PUnit} :
    (modify change : Action PUnit).Yields desk value after ↔ after = change desk := by
  simp [Yields, EStateM.run, modify, modifyGet, MonadStateOf.modifyGet, EStateM.modifyGet, eq_comm]

/-- A failure yields nothing. -/
theorem not_yields_throw {fault : Fault} {value : α} :
    ¬ (throw fault : Action α).Yields desk value after := by
  simp [Yields, EStateM.run, throw, throwThe, MonadExceptOf.throw, EStateM.throw]

/-- A result is yielded if there is one. -/
theorem yields_ofExcept_iff {result : Except Fault α} {value : α} :
    (ofExcept result).Yields desk value after ↔ result = .ok value ∧ after = desk := by
  cases result with
  | ok found => simp [ofExcept, yields_pure_iff, eq_comm]
  | error fault => simp [ofExcept, not_yields_throw]

/-- A record is added to the desk. -/
theorem yields_inform_iff {text : String} {value : Unit} :
    (inform text).Yields desk value after ↔ after = desk.add ⟨.info, .commandLine, text⟩ :=
  yields_modify_iff

/-- Records are added to the desk. -/
theorem yields_recordAll_iff {journal : Journal} {value : Unit} :
    (recordAll journal).Yields desk value after ↔ after = desk.addAll journal :=
  yields_modify_iff

/-- What was recorded is added to the desk, and the result is yielded. -/
theorem yields_perform_iff {logged : Logged α} {value : α} :
    (perform logged).Yields desk value after ↔
      logged.result = .ok value ∧ after = desk.addAll logged.journal := by
  simp only [perform, yields_bind_iff, yields_recordAll_iff, yields_ofExcept_iff]
  constructor
  · rintro ⟨_, _, rfl, result, rfl⟩
    exact ⟨result, rfl⟩
  · rintro ⟨result, rfl⟩
    exact ⟨(), _, rfl, result, rfl⟩

/-- The content of a file is yielded if it can be read. -/
theorem yields_readFile_iff {path : String} {content : Bytes} :
    (readFile path).Yields desk content after ↔
      desk.files.read path = .ok content ∧ after = desk := by
  rw [readFile, yields_get_bind_iff, yields_ofExcept_iff, mapError_eq_ok_iff]

/-- A file is written if it can be. -/
theorem yields_writeFile_iff {path : String} {content : Bytes} {value : Unit} :
    (writeFile path content).Yields desk value after ↔
      ∃ files, desk.files.write path content = .ok files ∧ after = desk.withFiles files := by
  rw [writeFile, yields_get_bind_iff, yields_bind_iff]
  simp only [yields_ofExcept_iff, mapError_eq_ok_iff, yields_set_iff, and_assoc, exists_eq_left,
    exists_and_left]
  exact .rfl

/-- A log file is opened if it can be written. -/
theorem yields_openLog_iff {path : String} {value : Unit} :
    (openLog path).Yields desk value after ↔
      ∃ files, desk.files.append path [] = .ok files ∧
        after = { desk with files := files, log := { desk.log with path := some path } } := by
  rw [openLog, yields_get_bind_iff, yields_bind_iff]
  simp only [yields_ofExcept_iff, mapError_eq_ok_iff, yields_set_iff, and_assoc, exists_eq_left,
    exists_and_left]

/-- A chunk is moved to another file if it can be read, if the other file can be emptied and
then written, and if moving it does not fail.

The file that is read is read again after the other one was emptied; as it is another file,
it holds the same content. -/
theorem yields_moveChunk_iff {input output : String} {move : Source → Transfer} {content : Bytes}
    (read : desk.files.read input = .ok content) (different : placeOf input ≠ placeOf output)
    {value : Unit} :
    (moveChunk input output move).Yields desk value after ↔
      (move (.ofBytes content)).failure = none ∧
      ∃ emptied files, desk.files.write output [] = .ok emptied ∧
        ((desk.withFiles emptied).addAll (move (.ofBytes content)).journal).files.write output
          (move (.ofBytes content)).written = .ok files ∧
        after = ((desk.withFiles emptied).addAll (move (.ofBytes content)).journal).withFiles
          files := by
  simp only [moveChunk, yields_bind_iff, yields_readFile_iff, yields_writeFile_iff,
    yields_recordAll_iff, read]
  constructor
  · rintro ⟨_, _, ⟨⟨⟩, rfl⟩, _, _, ⟨emptied, written, rfl⟩, again, _, ⟨reread, rfl⟩, _, _, rfl, _, _,
      ⟨files, filled, rfl⟩, ended⟩
    have same := (FileSystem.spares_write written).read different read
    obtain rfl := Except.ok.inj (reread.symm.trans same)
    cases outcome : (move (.ofBytes again)).failure with
    | none =>
      rw [outcome] at ended
      obtain ⟨_, rfl⟩ := yields_pure_iff.mp ended
      exact ⟨rfl, emptied, files, written, filled, rfl⟩
    | some fault =>
      rw [outcome] at ended
      exact absurd ended not_yields_throw
  · rintro ⟨completed, emptied, files, written, filled, rfl⟩
    have same := (FileSystem.spares_write written).read different read
    refine ⟨content, desk, ⟨rfl, rfl⟩, (), _, ⟨emptied, written, rfl⟩, content, _, ⟨same, rfl⟩, (), _,
      rfl, (), _, ⟨files, filled, rfl⟩, ?_⟩
    rw [completed]
    exact yields_pure_iff.mpr ⟨rfl, rfl⟩

/-- A chunk is moved only to a file that can be written. -/
theorem accepts_of_yields_moveChunk {input output : String} {move : Source → Transfer}
    {value : Unit} (moved : (moveChunk input output move).Yields desk value after) :
    desk.files.Accepts output := by
  simp only [moveChunk, yields_bind_iff, yields_readFile_iff, yields_writeFile_iff] at moved
  obtain ⟨_, _, ⟨_, rfl⟩, _, _, ⟨_, written, _⟩, _⟩ := moved
  exact (FileSystem.write_eq_ok_iff.mp written).1

/-- A chunk that was moved is in the other file, and all files but this one and the log file
are left. -/
theorem moved_of_yields {input output : String} {move : Source → Transfer} {content : Bytes}
    {value : Unit} (moved : (moveChunk input output move).Yields desk value after)
    (read : desk.files.read input = .ok content) (different : placeOf input ≠ placeOf output) :
    (move (.ofBytes content)).result = .ok (move (.ofBytes content)).written ∧
      after.files.read output = .ok (move (.ofBytes content)).written ∧ after.log = desk.log ∧
      FileSystem.Spares (fun place => place = placeOf output ∨ desk.log.IsAt place) desk.files
        after.files := by
  obtain ⟨completed, emptied, files, written, filled, rfl⟩ :=
    (yields_moveChunk_iff read different).mp moved
  have recorded := (desk.withFiles emptied).recorded_addAll (move (.ofBytes content)).journal
  refine ⟨?_, FileSystem.read_write filled, recorded.log, ?_⟩
  · simp only [Transfer.result, completed]
  · have first := FileSystem.spares_write written
    have last := FileSystem.spares_write filled
    exact ((first.mono fun _ => .inl).trans (recorded.spares.mono fun _ => .inr)).trans
      (last.mono fun _ => .inl)

/-- A chunk that can be read is moved to another file that can be written and is not the log
file, if moving it does not fail. -/
theorem exists_yields_moveChunk {input output : String} {move : Source → Transfer}
    {content written : Bytes} {source : Source} {journal : Journal}
    (read : desk.files.read input = .ok content) (different : placeOf input ≠ placeOf output)
    (accepted : desk.files.Accepts output) (unlogged : ¬ desk.log.IsAt (placeOf output))
    (completed : move (.ofBytes content) = .complete written source journal) :
    ∃ after, (moveChunk input output move).Yields desk () after ∧
      after.files.read output = .ok written := by
  obtain ⟨emptied, first⟩ := FileSystem.exists_write accepted []
  have recorded := (desk.withFiles emptied).recorded_addAll journal
  have kept := (recorded.spares.accepts_iff unlogged).mpr (FileSystem.accepts_write first)
  obtain ⟨files, filled⟩ := FileSystem.exists_write kept written
  have same : (move (.ofBytes content)).journal = journal ∧
      (move (.ofBytes content)).written = written ∧ (move (.ofBytes content)).failure = none := by
    rw [completed]
    exact ⟨rfl, rfl, rfl⟩
  obtain ⟨journalled, moved, completes⟩ := same
  rw [← journalled, ← moved] at filled
  refine ⟨_, (yields_moveChunk_iff read different).mpr
    ⟨completes, emptied, files, first, filled, rfl⟩, ?_⟩
  rw [← moved]
  exact FileSystem.read_write filled

/-- The log file is opened if one is asked for. -/
theorem yields_prepare_iff {reporting : Reporting} {value : Unit} :
    (prepare reporting).Yields desk value after ↔
      match reporting.logPath with
      | none => after = { desk with log := ⟨reporting.least, desk.log.path⟩ }
      | some path => ∃ files, desk.files.append path [] = .ok files ∧
          after = { desk with files := files, log := ⟨reporting.least, some path⟩ } := by
  simp only [prepare, yields_bind_iff, yields_modify_iff, Reporting.logPath]
  have unopened (least : Level) :
      (∃ (_ : Unit) (between : Desk), between = { desk with log := ⟨least, desk.log.path⟩ } ∧
        True ∧ after = between) ↔ after = { desk with log := ⟨least, desk.log.path⟩ } := by
    constructor
    · rintro ⟨_, _, same, _, ended⟩
      exact ended.trans same
    · intro same
      exact ⟨(), _, rfl, trivial, same⟩
  cases reporting.file.text? with
  | none =>
    simp only [yields_pure_iff, Option.filter_none]
    exact unopened _
  | some path =>
    by_cases empty : path = ""
    · simp only [empty, if_true, yields_pure_iff, Option.filter_some, bne_self_eq_false,
        Bool.false_eq_true, if_false]
      exact unopened _
    · have kept : (path != "") = true := bne_iff_ne.mpr empty
      simp only [empty, if_false, yields_openLog_iff, Option.filter_some, kept, if_true]
      constructor
      · rintro ⟨_, _, rfl, files, added, rfl⟩
        exact ⟨files, added, rfl⟩
      · rintro ⟨files, added, rfl⟩
        exact ⟨(), _, rfl, files, added, rfl⟩

/-- Preparing the journal leaves every file but the log file. -/
theorem spares_of_yields_prepare {reporting : Reporting} {value : Unit}
    (prepared : (prepare reporting).Yields desk value after) (fresh : desk.log.path = none) :
    after.log.path = reporting.logPath ∧
      FileSystem.Spares after.log.IsAt desk.files after.files := by
  have ended := yields_prepare_iff.mp prepared
  cases logged : reporting.logPath with
  | none =>
    rw [logged] at ended
    obtain rfl := ended
    exact ⟨fresh, .refl desk.files⟩
  | some path =>
    rw [logged] at ended
    obtain ⟨files, added, rfl⟩ := ended
    exact ⟨rfl, (FileSystem.append_spares added).mono fun place same => ⟨path, rfl, same.symm⟩⟩

/-- The journal is prepared exactly if the log file, where there is one, can be written. -/
theorem exists_yields_prepare_iff {reporting : Reporting} :
    (∃ after, (prepare reporting).Yields desk () after) ↔
      ∀ log, reporting.logPath = some log → desk.files.Accepts log := by
  simp only [yields_prepare_iff]
  cases reporting.logPath with
  | none =>
    constructor
    · rintro _ _ ⟨⟩
    · intro _
      exact ⟨_, rfl⟩
  | some path =>
    constructor
    · rintro ⟨_, files, added, _⟩ _ ⟨⟩
      exact FileSystem.exists_append_iff.mp ⟨files, added⟩
    · intro accepted
      obtain ⟨files, added⟩ := FileSystem.exists_append_iff.mpr (accepted path rfl)
      exact ⟨_, files, added, rfl⟩

end Action

end ChunkCodecs
