import ChunkCodecs.Proofs.Command.Failures
import ChunkCodecs.Proofs.Command.RoundTrip
import ChunkCodecs.Proofs.Wholeness

/-!
# What comes of compressing a file

A command that compresses a file opens the compressed file if it can build its codec, open its log
file, read the file and write the compressed one. What it does to the files is one of three
things. If it does not open the compressed file, it fails and changes no file but the log file. If
it opens it and compressing fails, it leaves it empty, for a codec that fails to compress writes
nothing, and it changes no other file. Otherwise it succeeds, and leaves the compressed chunk and
the configuration of the codec beside it.
-/

namespace ChunkCodecs

/-- A codec that fails to compress has written nothing. -/
theorem Codec.written_eq_nil_of_failure {backing : Backing} {codec : Codec} {source : Source}
    (failure : (codec.compress backing source).failure ≠ none) :
    (codec.compress backing source).written = [] := by
  cases codec with
  | identity =>
    obtain ⟨_, copied, _⟩ := copyThrough_complete source
    rw [compress, copied] at failure
    exact absurd rfl failure
  | deflate settings =>
    obtain ⟨_, _, _, _, completed⟩ := Deflate.compress_complete backing.deflate settings source
    rw [compress, completed] at failure
    exact absurd rfl failure
  | blosc settings =>
    exact (@Blosc.compressTold_allOrNothing Blosc.Library.introspect backing.blosc settings
      source).written_eq_nil failure
  | raster settings =>
    exact (Raster.compress_allOrNothing backing.raster settings source).written_eq_nil failure

namespace FileSystem

/-- A file that is left is read as before, and not otherwise. -/
theorem Spares.read_iff {changed : Place → Prop} {before after : FileSystem} {path : String}
    {content : Bytes} (spares : Spares changed before after)
    (untouched : ¬ changed (placeOf path)) :
    after.read path = .ok content ↔ before.read path = .ok content := by
  constructor
  · intro held
    have found := read_eq_ok_iff.mp held
    have opened : (after.standing path).IsOpen := by
      rw [found]
      trivial
    exact read_eq_ok_iff.mpr ((spares path untouched (.inr opened)).symm.trans found)
  · exact spares.read untouched

/-- Where a chunk can be written its configuration can be, unless there is a directory. -/
theorem accepts_sidecarOf {system : FileSystem} {path : String} (accepted : system.Accepts path)
    (free : system.standing (sidecarOf path) ≠ .directory) :
    system.Accepts (sidecarOf path) := by
  obtain ⟨opened, file⟩ := accepted
  obtain ⟨⟨_, detours⟩, place⟩ := isOpen_of_standing opened
  have named : sidecarOf path ≠ "" := by
    intro empty
    have characters := congrArg String.toList empty
    simp [sidecarOf, sidecarExtension] at characters
  have passable : system.IsPassable (sidecarOf path) := by
    refine ⟨named, ?_⟩
    rw [detoursOf_sidecarOf file]
    exact detours
  have directory : system.hasDirectory (placeOf (sidecarOf path)).dropLast = true := by
    rw [dropLast_placeOf_sidecarOf file]
    exact place.directory
  have unblocked : system.isBlocked (placeOf (sidecarOf path)) = false := by
    rw [Bool.eq_false_iff]
    intro blocked
    -- What is on the way to the configuration is on the way to the chunk.
    obtain ⟨other, member, lead, differs⟩ := isBlocked_iff.mp blocked
    have upper := prefix_dropLast_of_ne lead differs
    rw [dropLast_placeOf_sidecarOf file] at upper
    refine Bool.eq_false_iff.mp place.unblocked (isBlocked_iff.mpr
      ⟨other, member, upper.trans (List.dropLast_prefix _), ?_⟩)
    intro same
    have lengths := upper.length_le
    have positive := List.length_pos_iff.mpr (placeOf_ne_nil file)
    rw [same, List.length_dropLast] at lengths
    omega
  refine ⟨?_, namesDirectory_sidecarOf path⟩
  rw [standing_of_isPassable passable] at free ⊢
  unfold standingAt at free ⊢
  rw [namesDirectory_sidecarOf, unblocked] at free ⊢
  simp only [Bool.false_eq_true, if_false, directory, if_true] at free ⊢
  cases held : system.contentAt (placeOf (sidecarOf path)) with
  | some content => trivial
  | none =>
    rw [held] at free
    by_cases there : system.hasDirectory (placeOf (sidecarOf path)) = true
    · exact absurd (if_pos there) free
    · simp only [there, Bool.false_eq_true, if_false]
      trivial

end FileSystem

namespace Action

variable {backing : Backing} {input output target : String} {codec : Codec} {desk after : Desk}

/-- A chunk is not moved if it cannot be read or the other file cannot be written, and then
everything is left. -/
theorem fails_moveChunk_of_refused {move : Source → Transfer}
    (refused : ¬ ((∃ content, desk.files.read input = .ok content) ∧ desk.files.Accepts output)) :
    (moveChunk input output move).Fails desk desk := by
  by_cases readable : ∃ content, desk.files.read input = .ok content
  case neg => exact fails_bind_iff.mpr (.inl (fails_readFile_iff.mpr ⟨readable, rfl⟩))
  obtain ⟨content, read⟩ := readable
  have unwritable : ¬ desk.files.Accepts output :=
    fun accepted => refused ⟨⟨content, read⟩, accepted⟩
  refine fails_bind_iff.mpr (.inr ⟨content, desk, yields_readFile_iff.mpr ⟨read, rfl⟩, ?_⟩)
  exact fails_bind_iff.mpr (.inl (fails_writeFile_iff.mpr ⟨unwritable, rfl⟩))

/-- A chunk that is not moved to the end leaves what was written, and all files but the other one
and the log file. -/
theorem exists_fails_moveChunk {move : Source → Transfer} {content : Bytes}
    (read : desk.files.read input = .ok content) (different : placeOf input ≠ placeOf output)
    (accepted : desk.files.Accepts output) (unlogged : ¬ desk.log.IsAt (placeOf output))
    (failure : (move (.ofBytes content)).failure ≠ none) :
    ∃ after, (moveChunk input output move).Fails desk after ∧
      after.files.read output = .ok (move (.ofBytes content)).written ∧
      FileSystem.Spares (fun place => place = placeOf output ∨ desk.log.IsAt place) desk.files
        after.files := by
  obtain ⟨emptied, first⟩ := FileSystem.exists_write accepted []
  have first_spares := FileSystem.spares_write first
  have recorded := (desk.withFiles emptied).recorded_addAll (move (.ofBytes content)).journal
  have kept := (recorded.spares.accepts_iff unlogged).mpr (FileSystem.accepts_write first)
  obtain ⟨files, filled⟩ := FileSystem.exists_write kept (move (.ofBytes content)).written
  refine ⟨((desk.withFiles emptied).addAll (move (.ofBytes content)).journal).withFiles files, ?_,
    FileSystem.read_write filled, ?_⟩
  · refine fails_bind_iff.mpr (.inr ⟨content, desk, yields_readFile_iff.mpr ⟨read, rfl⟩, ?_⟩)
    refine fails_bind_iff.mpr
      (.inr ⟨(), desk.withFiles emptied, yields_writeFile_iff.mpr ⟨emptied, first, rfl⟩, ?_⟩)
    have again := first_spares.read different read
    refine fails_bind_iff.mpr (.inr ⟨content, _, yields_readFile_iff.mpr ⟨again, rfl⟩, ?_⟩)
    refine fails_bind_iff.mpr (.inr ⟨(), _, yields_recordAll_iff.mpr rfl, ?_⟩)
    refine fails_bind_iff.mpr
      (.inr ⟨(), _, yields_writeFile_iff.mpr ⟨files, filled, rfl⟩, ?_⟩)
    cases ended : (move (.ofBytes content)).failure with
    | none => exact absurd ended failure
    | some fault => exact fails_throw_iff.mpr rfl
  · have last_spares := FileSystem.spares_write filled
    exact ((first_spares.mono fun _ => .inl).trans (recorded.spares.mono fun _ => .inr)).trans
      (last_spares.mono fun _ => .inl)

/-- The path under which the chunk of a file is compressed. -/
def targetOf (input : String) (output : Option String) (codec : Codec) : String :=
  match output with
  | some path => if path = "" then compressedName input codec.identifier else path
  | none => compressedName input codec.identifier

/-- Write the configuration of a codec beside the chunk that it compressed, and record the sizes of
the file and of the chunk. -/
def describeChunk (input target : String) (codec : Codec) : Action String := do
  let document := Document.chars (.indented 0) (.dict codec.configuration)
  writeFile (sidecarOf target) (Text.Utf8.encode document)
  let before ← sizeOf input
  let after ← sizeOf target
  inform s!"{before} -> {after} bytes"
  return target ++ "\n"

/-- Compress a file with a codec to a path. -/
def compressTo (backing : Backing) (input target : String) (codec : Codec) : Action String := do
  inform ("Compressing " ++ input ++ " -> " ++ target ++ " (" ++ codec.describe ++ ")")
  moveChunk input target (codec.compress backing)
  describeChunk input target codec

/-- A file is compressed with the chosen codec, to the path that belongs to it. -/
theorem compress_eq (backing : Backing) (input : String) (output : Option String)
    (choice : CodecChoice) : compress backing input output choice =
      perform choice.build >>= fun codec =>
        compressTo backing input (targetOf input output codec) codec := rfl

/-- An operation that has a result is recorded, and the result is used. -/
theorem perform_bind_ok {α β : Type} (journal : Journal) (value : α) (next : α → Action β) :
    (perform ⟨journal, .ok value⟩ >>= next) = (recordAll journal >>= fun _ => next value) := rfl

/-- A file is to be compressed to a path that is apart from it: neither of the files that are
written is the file or the log file, and there is no directory in the place of the
configuration. -/
structure Apart (desk : Desk) (input target : String) : Prop where
  /-- The compressed file is another file. -/
  different : placeOf input ≠ placeOf target
  /-- The configuration is another file. -/
  beside : placeOf input ≠ placeOf (sidecarOf target)
  /-- None of the files is the log file. -/
  unlogged : ∀ path ∈ [input, target, sidecarOf target], ¬ desk.log.IsAt (placeOf path)
  /-- The configuration can be a file. -/
  free : desk.files.standing (sidecarOf target) ≠ .directory

/-- Compressing fails if the file cannot be read or the compressed one cannot be written, and then
no file but the log file is changed. -/
theorem exists_fails_compressTo_of_refused
    (unlogged : ∀ path ∈ [input, target], ¬ desk.log.IsAt (placeOf path))
    (refused : ¬ ((∃ content, desk.files.read input = .ok content) ∧ desk.files.Accepts target)) :
    ∃ after, (compressTo backing input target codec).Fails desk after ∧ desk.Recorded after := by
  obtain ⟨informed, told⟩ : ∃ informed : Desk, informed = desk.add ⟨.info, .commandLine,
      "Compressing " ++ input ++ " -> " ++ target ++ " (" ++ codec.describe ++ ")"⟩ := ⟨_, rfl⟩
  have recorded : desk.Recorded informed := told ▸ desk.recorded_add _
  have still : ¬ ((∃ content, informed.files.read input = .ok content) ∧
      informed.files.Accepts target) := by
    simp only [recorded.spares.read_iff (unlogged input (by simp)),
      recorded.spares.accepts_iff (unlogged target (by simp))]
    exact refused
  refine ⟨informed, fails_bind_iff.mpr (.inr ⟨(), informed, ?_, ?_⟩), recorded⟩
  · exact yields_inform_iff.mpr told
  · exact fails_bind_iff.mpr (.inl (fails_moveChunk_of_refused still))

/-- If the codec fails to compress, so does the command, and it leaves the compressed file empty and
changes no other file but the log file. -/
theorem exists_fails_compressTo_of_failure (apart : Apart desk input target) {content : Bytes}
    (read : desk.files.read input = .ok content) (accepted : desk.files.Accepts target)
    (failure : (codec.compress backing (.ofBytes content)).failure ≠ none) :
    ∃ after, (compressTo backing input target codec).Fails desk after ∧
      after.files.read target = .ok [] ∧
      FileSystem.Spares (fun place => place = placeOf target ∨ desk.log.IsAt place) desk.files
        after.files := by
  obtain ⟨informed, told⟩ : ∃ informed : Desk, informed = desk.add ⟨.info, .commandLine,
      "Compressing " ++ input ++ " -> " ++ target ++ " (" ++ codec.describe ++ ")"⟩ := ⟨_, rfl⟩
  have recorded : desk.Recorded informed := told ▸ desk.recorded_add _
  have unlogged := apart.unlogged target (by simp)
  obtain ⟨after, failed, emptied, spares⟩ := exists_fails_moveChunk
    (recorded.spares.read (apart.unlogged input (by simp)) read) apart.different
    ((recorded.spares.accepts_iff unlogged).mpr accepted)
    (by rwa [recorded.log]) failure
  rw [Codec.written_eq_nil_of_failure failure] at emptied
  rw [recorded.log] at spares
  refine ⟨after, fails_bind_iff.mpr (.inr ⟨(), informed, ?_, ?_⟩), emptied, ?_⟩
  · exact yields_inform_iff.mpr told
  · exact fails_bind_iff.mpr (.inl failed)
  · exact (recorded.spares.mono fun _ => .inr).trans spares

/-- A chunk is described if its configuration can be written. Then the configuration is there, and
no other file but the log file is changed. -/
theorem exists_yields_describeChunk {content encoded : Bytes}
    (read : desk.files.read input = .ok content) (chunk : desk.files.read target = .ok encoded)
    (beside : placeOf input ≠ placeOf (sidecarOf target))
    (unlogged : ¬ desk.log.IsAt (placeOf (sidecarOf target)))
    (accepted : desk.files.Accepts (sidecarOf target)) :
    ∃ after, (describeChunk input target codec).Yields desk (target ++ "\n") after ∧
      after.files.read (sidecarOf target) =
        .ok (Text.Utf8.encode (Document.chars (.indented 0) (.dict codec.configuration))) ∧
      FileSystem.Spares (fun place => place = placeOf (sidecarOf target) ∨ desk.log.IsAt place)
        desk.files after.files := by
  have file := FileSystem.namesDirectory_of_file (FileSystem.read_eq_ok_iff.mp chunk)
  obtain ⟨files, written⟩ := FileSystem.exists_write accepted
    (Text.Utf8.encode (Document.chars (.indented 0) (.dict codec.configuration)))
  have spares := FileSystem.spares_write written
  have kept_input := spares.read beside read
  have kept_chunk := spares.read (placeOf_sidecarOf_ne file).symm chunk
  obtain ⟨final, sizes⟩ : ∃ final : Desk, final = (desk.withFiles files).add ⟨.info, .commandLine,
      s!"{content.length} -> {encoded.length} bytes"⟩ := ⟨_, rfl⟩
  have recorded : (desk.withFiles files).Recorded final := sizes ▸ Desk.recorded_add _ _
  refine ⟨final, ?_, recorded.spares.read unlogged (FileSystem.read_write written), ?_⟩
  · simp only [describeChunk, yields_bind_iff, yields_inform_iff, yields_writeFile_iff,
      yields_sizeOf_iff, yields_pure_iff]
    exact ⟨(), _, ⟨files, written, rfl⟩, _, _, ⟨content, kept_input, rfl, rfl⟩, _, _,
      ⟨encoded, kept_chunk, rfl, rfl⟩, (), final, sizes, trivial, rfl⟩
  · exact (spares.mono fun _ => .inl).trans (recorded.spares.mono fun _ => .inr)

/-- If the codec compresses, so does the command, and it leaves the compressed chunk and the
configuration of the codec beside it and changes no other file but the log file. -/
theorem exists_yields_compressTo (apart : Apart desk input target) {content : Bytes}
    (read : desk.files.read input = .ok content) (accepted : desk.files.Accepts target)
    (completed : (codec.compress backing (.ofBytes content)).failure = none) :
    ∃ after, (compressTo backing input target codec).Yields desk (target ++ "\n") after ∧
      after.files.read target = .ok (codec.compress backing (.ofBytes content)).written ∧
      after.files.read (sidecarOf target) =
        .ok (Text.Utf8.encode (Document.chars (.indented 0) (.dict codec.configuration))) ∧
      FileSystem.Spares (fun place => place = placeOf target ∨ place = placeOf (sidecarOf target) ∨
        desk.log.IsAt place) desk.files after.files := by
  obtain ⟨informed, told⟩ : ∃ informed : Desk, informed = desk.add ⟨.info, .commandLine,
      "Compressing " ++ input ++ " -> " ++ target ++ " (" ++ codec.describe ++ ")"⟩ := ⟨_, rfl⟩
  have recorded : desk.Recorded informed := told ▸ desk.recorded_add _
  have apart_input := apart.unlogged input (by simp)
  have apart_target := apart.unlogged target (by simp)
  have apart_sidecar := apart.unlogged (sidecarOf target) (by simp)
  have informed_read := recorded.spares.read apart_input read
  have whole : codec.compress backing (.ofBytes content) =
      .complete (codec.compress backing (.ofBytes content)).written
        (codec.compress backing (.ofBytes content)).source
        (codec.compress backing (.ofBytes content)).journal := by
    rw [Transfer.complete, ← completed]
  -- The chunk is moved.
  obtain ⟨moved, moves, chunk⟩ := exists_yields_moveChunk informed_read apart.different
    ((recorded.spares.accepts_iff apart_target).mpr accepted)
    (by rwa [recorded.log]) whole
  obtain ⟨_, _, log, spares⟩ := moved_of_yields moves informed_read apart.different
  rw [recorded.log] at log spares
  have moved_spares := (recorded.spares.mono fun _ => .inr).trans spares
  have kept : moved.files.read input = .ok content :=
    moved_spares.read (not_or.mpr ⟨apart.different, apart_input⟩) read
  -- The configuration can be written, as no directory has come in its place.
  have extends_moved : desk.files.Extends moved.files := by
    apply FileSystem.Extends.trans (told ▸ desk.extends_add _)
    exact extending_moveChunk input target _ _ _ (.inl ⟨(), moves⟩)
  have free : moved.files.standing (sidecarOf target) ≠ .directory :=
    fun found => apart.free (extends_moved.standing_of_directory found)
  obtain ⟨final, describes, sidecar, last_spares⟩ := @exists_yields_describeChunk input target codec
    moved _ _ kept chunk apart.beside (by rwa [log])
    (FileSystem.accepts_sidecarOf (FileSystem.accepts_of_read chunk) free)
  rw [log] at last_spares
  have chunk_beside := (placeOf_sidecarOf_ne accepted.2).symm
  refine ⟨final, ?_, last_spares.read (not_or.mpr ⟨chunk_beside, apart_target⟩) chunk, sidecar, ?_⟩
  · simp only [compressTo, yields_bind_iff, yields_inform_iff]
    exact ⟨(), informed, told, (), moved, moves, describes⟩
  · refine (moved_spares.mono ?_).trans (last_spares.mono fun _ => .inr)
    rintro place (same | logged)
    · exact .inl same
    · exact .inr (.inr logged)

end Action

/-- A command that compresses a file. -/
structure Compression where
  /-- The file. -/
  input : String
  /-- The path of the compressed file, if one is given. -/
  output : Option String
  /-- The codec that is asked for. -/
  choice : CodecChoice
  /-- What is recorded, and where. -/
  reporting : Reporting

namespace Compression

variable {backing : Backing} {files : FileSystem} {compression : Compression}

/-- The command. -/
def command (compression : Compression) : Command :=
  .compress compression.input compression.output compression.choice compression.reporting

/-- The path of the compressed file. -/
def target (compression : Compression) (codec : Codec) : String :=
  Action.targetOf compression.input compression.output codec

/-- Records are written to a file at a place. -/
def LogsTo (compression : Compression) (place : Place) : Prop :=
  ∃ log, compression.reporting.logPath = some log ∧ namesDirectory log = false ∧
    placeOf log = place

/-- The compressed file is opened: the codec is built, the log file, if there is one, and the
compressed file can be written, and the file can be read. -/
structure Opens (compression : Compression) (files : FileSystem) (codec : Codec) : Prop where
  /-- The codec is built. -/
  built : compression.choice.build.result = .ok codec
  /-- The log file can be written. -/
  recordable : Command.CanRecord files compression.reporting
  /-- The file can be read. -/
  readable : ∃ content, files.read compression.input = .ok content
  /-- The compressed file can be written. -/
  writable : files.Accepts (compression.target codec)

/-- What comes of a compression. -/
inductive ComesTo (backing : Backing) (files : FileSystem) (compression : Compression)
    (outcome : Outcome) : Prop where
  /-- The compressed file is not opened. -/
  | refused (unopened : ∀ codec, ¬ compression.Opens files codec)
      (failed : ∃ fault, outcome.result = .error fault)
      (spares : FileSystem.Spares compression.LogsTo files outcome.files)
  /-- The compressed file is opened and left empty. -/
  | emptied {codec : Codec} (opens : compression.Opens files codec)
      (failed : ∃ fault, outcome.result = .error fault)
      (chunk : outcome.files.read (compression.target codec) = .ok [])
      (spares : FileSystem.Spares (fun place => place = placeOf (compression.target codec) ∨
        compression.LogsTo place) files outcome.files)
  /-- The compressed chunk and the configuration are written. -/
  | stored {codec : Codec} {content encoded : Bytes} (opens : compression.Opens files codec)
      (succeeded : outcome.result = .ok (compression.target codec ++ "\n"))
      (read : files.read compression.input = .ok content)
      (made : (codec.compress backing (.ofBytes content)).result = .ok encoded)
      (chunk : outcome.files.read (compression.target codec) = .ok encoded)
      (sidecar : outcome.files.read (sidecarOf (compression.target codec)) =
        .ok (Text.Utf8.encode (Document.chars (.indented 0) (.dict codec.configuration))))
      (spares : FileSystem.Spares (fun place => place = placeOf (compression.target codec) ∨
        place = placeOf (sidecarOf (compression.target codec)) ∨ compression.LogsTo place) files
          outcome.files)

/-- A compression keeps to its files: the names of its files do not end with the extension of
configurations, the compressed file is another file than the file, and the log file, if there is
one, is neither of them. -/
structure IsOrderly (compression : Compression) : Prop where
  /-- The file is no configuration. -/
  plain_input : ∀ chunk, compression.input ≠ sidecarOf chunk
  /-- The compressed file is another file. -/
  different : ∀ codec, compression.choice.build.result = .ok codec →
    placeOf compression.input ≠ placeOf (compression.target codec)
  /-- The log file is no configuration. -/
  plain_log : ∀ log, compression.reporting.logPath = some log → ∀ chunk, log ≠ sidecarOf chunk
  /-- The log file is not the file. -/
  input_unlogged : ¬ compression.LogsTo (placeOf compression.input)
  /-- The log file is not the compressed file. -/
  target_unlogged : ∀ codec, compression.choice.build.result = .ok codec →
    ¬ compression.LogsTo (placeOf (compression.target codec))

/-- The log file is in no place of a configuration. -/
theorem IsOrderly.not_logsTo_sidecarOf (orderly : compression.IsOrderly) (path : String) :
    ¬ compression.LogsTo (placeOf (sidecarOf path)) := by
  rintro ⟨log, logged, file, same⟩
  exact placeOf_ne_sidecarOf file (orderly.plain_log log logged) path same

end Compression

namespace Command

/-- A command that fails leaves what its action leaves. -/
theorem exists_run_of_fails {backing : Backing} {files : FileSystem} {command : Command}
    {after : Desk} (failed : (Action.ofCommand backing command).Fails (desk files) after) :
    ∃ fault, run backing files command = ⟨after.files, after.journal, .error fault⟩ := by
  obtain ⟨fault, ended⟩ := failed
  rw [desk] at ended
  exact ⟨fault, by rw [run, ended]⟩

end Command

namespace Compression

variable {backing : Backing} {files : FileSystem} {compression : Compression} {chosen : Desk}

/-- A desk is left by the beginning of a compression: the journal is prepared, and what is recorded
while the codec is built is recorded. -/
def Begins (compression : Compression) (files : FileSystem) (chosen : Desk) : Prop :=
  ∃ prepared, (Action.prepare compression.reporting).Yields (Command.desk files) () prepared ∧
    chosen = prepared.addAll compression.choice.build.journal

/-- A compression begins if its log file can be written, and not otherwise. -/
theorem exists_begins_iff : (∃ chosen, compression.Begins files chosen) ↔
    Command.CanRecord files compression.reporting := by
  refine .trans ?_ (@Action.exists_yields_prepare_iff (Command.desk files) compression.reporting)
  constructor
  · rintro ⟨_, prepared, prepares, _⟩
    exact ⟨prepared, prepares⟩
  · rintro ⟨prepared, prepares⟩
    exact ⟨_, prepared, prepares, rfl⟩

/-- A compression that begins records to its log file. -/
theorem Begins.logsTo (begins : compression.Begins files chosen) (place : Place)
    (logged : chosen.log.IsAt place) : compression.LogsTo place := by
  have recordable := exists_begins_iff.mp ⟨chosen, begins⟩
  obtain ⟨prepared, prepares, choosing⟩ := begins
  obtain ⟨path, _⟩ := Action.spares_of_yields_prepare prepares rfl
  have recorded : prepared.Recorded chosen := choosing ▸ prepared.recorded_addAll _
  obtain ⟨log, found, same⟩ := logged
  rw [recorded.log, path] at found
  exact ⟨log, found, (recordable log found).2, same⟩

/-- The beginning of a compression changes no file but the log file. -/
theorem Begins.spares (begins : compression.Begins files chosen) :
    FileSystem.Spares compression.LogsTo files chosen.files := by
  have logs := begins.logsTo
  obtain ⟨prepared, prepares, choosing⟩ := begins
  obtain ⟨_, spares⟩ := Action.spares_of_yields_prepare prepares rfl
  have recorded : prepared.Recorded chosen := choosing ▸ prepared.recorded_addAll _
  rw [recorded.log] at logs
  exact (spares.trans recorded.spares).mono logs

/-- The beginning of a compression makes no directory and removes no file. -/
theorem Begins.extends_files (begins : compression.Begins files chosen) :
    files.Extends chosen.files := by
  obtain ⟨prepared, prepares, choosing⟩ := begins
  have extends_prepared := Action.extending_prepare compression.reporting _ _ (.inl ⟨(), prepares⟩)
  exact extends_prepared.trans (choosing ▸ prepared.extends_addAll _)

/-- A compression that begins and builds its codec fails if compressing does. -/
theorem Begins.exists_run_of_fails (begins : compression.Begins files chosen) {codec : Codec}
    (built : compression.choice.build.result = .ok codec) {after : Desk}
    (failed : (Action.compressTo backing compression.input (compression.target codec) codec).Fails
      chosen after) :
    ∃ fault, Command.run backing files compression.command =
      ⟨after.files, after.journal, .error fault⟩ := by
  obtain ⟨prepared, prepares, choosing⟩ := begins
  have performs := Action.yields_perform_iff.mpr ⟨built, choosing⟩
  exact Command.exists_run_of_fails (Action.fails_bind_iff.mpr (.inr ⟨(), prepared, prepares,
    Action.fails_bind_iff.mpr (.inr ⟨codec, chosen, performs, failed⟩)⟩))

/-- A compression that begins and builds its codec succeeds if compressing does. -/
theorem Begins.run_of_yields (begins : compression.Begins files chosen) {codec : Codec}
    (built : compression.choice.build.result = .ok codec) {shown : String} {after : Desk}
    (yielded : (Action.compressTo backing compression.input (compression.target codec) codec).Yields
      chosen shown after) :
    Command.run backing files compression.command = ⟨after.files, after.journal, .ok shown⟩ := by
  obtain ⟨prepared, prepares, choosing⟩ := begins
  have performs := Action.yields_perform_iff.mpr ⟨built, choosing⟩
  exact Command.run_of_yields (Action.yields_bind_iff.mpr ⟨(), prepared, prepares,
    Action.yields_bind_iff.mpr ⟨codec, chosen, performs, yielded⟩⟩)

/-- A compression is refused if its log file cannot be written. -/
theorem comesTo_of_unrecordable (unrecordable : ¬ Command.CanRecord files compression.reporting) :
    compression.ComesTo backing files (Command.run backing files compression.command) := by
  rcases Action.yields_or_fails (Action.prepare compression.reporting) (Command.desk files) with
    ⟨⟨⟩, prepared, prepares⟩ | ⟨after, failed⟩
  · exact absurd (exists_begins_iff.mp ⟨_, prepared, prepares, rfl⟩) unrecordable
  · have fails : (Action.ofCommand backing compression.command).Fails (Command.desk files) after :=
      Action.fails_bind_iff.mpr (.inl failed)
    obtain ⟨fault, ran⟩ := Command.exists_run_of_fails fails
    rw [ran]
    refine .refused (fun codec opens => unrecordable opens.recordable) ⟨fault, rfl⟩ ?_
    rw [Action.files_of_fails_prepare failed]
    exact .refl files

/-- A compression that begins is refused if its codec is not built. -/
theorem Begins.comesTo_of_unbuilt (begins : compression.Begins files chosen)
    (unbuilt : ¬ ∃ codec, compression.choice.build.result = .ok codec) :
    compression.ComesTo backing files (Command.run backing files compression.command) := by
  have spares := begins.spares
  obtain ⟨prepared, prepares, choosing⟩ := begins
  have fails : (Action.ofCommand backing compression.command).Fails (Command.desk files) chosen :=
    Action.fails_bind_iff.mpr (.inr ⟨(), prepared, prepares, Action.fails_bind_iff.mpr
      (.inl (Action.fails_perform_iff.mpr ⟨unbuilt, choosing⟩))⟩)
  obtain ⟨fault, ran⟩ := Command.exists_run_of_fails fails
  rw [ran]
  exact .refused (fun codec opens => unbuilt ⟨codec, opens.built⟩) ⟨fault, rfl⟩ spares

/-- Where an orderly compression has begun, the compressed file is apart from the file. -/
theorem Begins.apart (begins : compression.Begins files chosen) (orderly : compression.IsOrderly)
    (free : ∀ path, files.standing (sidecarOf path) ≠ .directory) {codec : Codec}
    (built : compression.choice.build.result = .ok codec) {content : Bytes}
    (read : chosen.files.read compression.input = .ok content) :
    Action.Apart chosen compression.input (compression.target codec) where
  different := orderly.different codec built
  beside := placeOf_ne_sidecarOf
    (FileSystem.namesDirectory_of_file (FileSystem.read_eq_ok_iff.mp read)) orderly.plain_input _
  unlogged := by
    simp only [List.forall_mem_cons, List.not_mem_nil, false_imp_iff, implies_true, and_true]
    exact ⟨fun logged => orderly.input_unlogged (begins.logsTo _ logged),
      fun logged => orderly.target_unlogged codec built (begins.logsTo _ logged),
      fun logged => orderly.not_logsTo_sidecarOf _ (begins.logsTo _ logged)⟩
  free found := free _ (begins.extends_files.standing_of_directory found)

/-- What comes of an orderly compression that begins and builds its codec. -/
theorem Begins.comesTo_of_built (begins : compression.Begins files chosen)
    (orderly : compression.IsOrderly)
    (free : ∀ path, files.standing (sidecarOf path) ≠ .directory) {codec : Codec}
    (built : compression.choice.build.result = .ok codec) :
    compression.ComesTo backing files (Command.run backing files compression.command) := by
  have logs := begins.logsTo
  have spares := begins.spares
  have input_unlogged := orderly.input_unlogged
  have target_unlogged := orderly.target_unlogged codec built
  by_cases opened : (∃ content, chosen.files.read compression.input = .ok content) ∧
      chosen.files.Accepts (compression.target codec)
  case neg =>
    have unlogged : ∀ path ∈ [compression.input, compression.target codec],
        ¬ chosen.log.IsAt (placeOf path) := by
      simp only [List.forall_mem_cons, List.not_mem_nil, false_imp_iff, implies_true, and_true]
      exact ⟨fun logged => input_unlogged (logs _ logged),
        fun logged => target_unlogged (logs _ logged)⟩
    obtain ⟨after, failed, kept⟩ :=
      @Action.exists_fails_compressTo_of_refused backing _ _ codec chosen unlogged opened
    obtain ⟨fault, ran⟩ := begins.exists_run_of_fails built failed
    rw [ran]
    refine .refused ?_ ⟨fault, rfl⟩ (spares.trans (kept.spares.mono logs))
    intro other opens
    obtain rfl := Except.ok.inj (built.symm.trans opens.built)
    obtain ⟨content, read⟩ := opens.readable
    exact opened ⟨⟨content, spares.read input_unlogged read⟩,
      (spares.accepts_iff target_unlogged).mpr opens.writable⟩
  obtain ⟨⟨content, read⟩, accepted⟩ := opened
  have read_before := (spares.read_iff input_unlogged).mp read
  have opens : compression.Opens files codec :=
    ⟨built, exists_begins_iff.mp ⟨chosen, begins⟩, ⟨content, read_before⟩,
      (spares.accepts_iff target_unlogged).mp accepted⟩
  have apart := begins.apart orderly free built read
  by_cases completed : (codec.compress backing (.ofBytes content)).failure = none
  case neg =>
    obtain ⟨after, failed, chunk, kept⟩ :=
      Action.exists_fails_compressTo_of_failure apart read accepted completed
    obtain ⟨fault, ran⟩ := begins.exists_run_of_fails built failed
    rw [ran]
    refine .emptied opens ⟨fault, rfl⟩ chunk ?_
    exact (spares.mono fun _ => .inr).trans (kept.mono fun place => .imp_right (logs place))
  obtain ⟨after, yields, chunk, sidecar, kept⟩ :=
    Action.exists_yields_compressTo apart read accepted completed
  rw [begins.run_of_yields built yields]
  refine .stored opens rfl read_before ?_ chunk sidecar ?_
  · simp only [Transfer.result, completed]
  · exact (spares.mono fun _ logged => .inr (.inr logged)).trans
      (kept.mono fun place => .imp_right (.imp_right (logs place)))

/-- An orderly compression is refused, leaves the compressed file empty, or stores a chunk with its
configuration, as long as no directory is in the place of a configuration. -/
theorem comesTo (orderly : compression.IsOrderly)
    (free : ∀ path, files.standing (sidecarOf path) ≠ .directory) :
    compression.ComesTo backing files (Command.run backing files compression.command) := by
  by_cases recordable : Command.CanRecord files compression.reporting
  case neg => exact comesTo_of_unrecordable recordable
  obtain ⟨chosen, begins⟩ := exists_begins_iff.mpr recordable
  by_cases built : ∃ codec, compression.choice.build.result = .ok codec
  case neg => exact begins.comesTo_of_unbuilt built
  obtain ⟨codec, built⟩ := built
  exact begins.comesTo_of_built orderly free built

end Compression

end ChunkCodecs
