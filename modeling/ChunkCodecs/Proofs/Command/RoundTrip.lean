import ChunkCodecs.Proofs.Command.Actions
import ChunkCodecs.Proofs.Command.FileNames
import ChunkCodecs.Proofs.Document.Plain
import ChunkCodecs.Proofs.Inversion

/-!
# Files compressed and uncompressed

Compressing a file leaves the compressed chunk and, beside it, the configuration of the codec.
As long as these two files are kept, uncompressing gives the file back, whatever codec is asked
for then: the codec is built from the configuration. The file that is written may be any other
file than the chunk, also the one that holds the configuration, which is read before.
-/

namespace ChunkCodecs

namespace Action

variable {desk after : Desk}

/-- The size of a file is that of its content. -/
theorem yields_sizeOf_iff {path : String} {size : Nat} :
    (sizeOf path).Yields desk size after ↔
      ∃ content, desk.files.read path = .ok content ∧ size = content.length ∧ after = desk := by
  have mapped : sizeOf path = readFile path >>= fun content => pure content.length := rfl
  rw [mapped, yields_bind_iff]
  simp only [yields_readFile_iff, yields_pure_iff]
  constructor
  · rintro ⟨content, _, ⟨read, rfl⟩, same, rfl⟩
    exact ⟨content, read, same, rfl⟩
  · rintro ⟨content, read, same, rfl⟩
    exact ⟨content, _, ⟨read, rfl⟩, same, rfl⟩

/-- A document that was written is read from its file. -/
theorem yields_readDocument_iff {path : String} {layout : Document.Layout} {value document : Value}
    (held : desk.files.read path = .ok (Text.Utf8.encode (Document.chars layout value))) :
    (readDocument path).Yields desk document after ↔
      Document.read (String.ofList (Document.chars layout value)) = .ok document ∧
        after = desk := by
  obtain ⟨decoded, unified⟩ := Document.decode_encode_chars layout value
  simp only [readDocument, yields_bind_iff, yields_readFile_iff, held]
  constructor
  · rintro ⟨_, _, ⟨⟨⟩, rfl⟩, ended⟩
    simp only [decoded, unified, yields_ofExcept_iff, mapError_eq_ok_iff] at ended
    exact ended
  · rintro ⟨read, rfl⟩
    refine ⟨_, _, ⟨rfl, rfl⟩, ?_⟩
    simp only [decoded, unified, yields_ofExcept_iff, mapError_eq_ok_iff]
    exact ⟨read, trivial⟩

/-- Reading a document changes nothing. -/
theorem eq_of_yields_readDocument {path : String} {document : Value}
    (read : (readDocument path).Yields desk document after) : after = desk := by
  simp only [readDocument, yields_bind_iff, yields_readFile_iff] at read
  obtain ⟨_, _, ⟨_, rfl⟩, ended⟩ := read
  split at ended
  · exact absurd ended not_yields_throw
  · exact (yields_ofExcept_iff.mp ended).2

/-- Finding the codec of a compressed file changes nothing but records. -/
theorem recorded_of_yields_codecOf {input : String} {choice : CodecChoice} {codec : Codec}
    (found : (codecOf input choice).Yields desk codec after) : desk.Recorded after := by
  simp only [codecOf] at found
  rw [yields_get_bind_iff] at found
  split at found
  · simp only [yields_bind_iff, yields_inform_iff, yields_perform_iff] at found
    obtain ⟨_, informed, rfl, _, _, read, _, rfl⟩ := found
    obtain rfl := eq_of_yields_readDocument read
    exact (desk.recorded_add _).trans (Desk.recorded_addAll _ _)
  · obtain ⟨_, rfl⟩ := yields_perform_iff.mp found
    exact desk.recorded_addAll _

/-- The codec of a compressed file is built from the configuration beside it, whatever codec
is asked for. -/
theorem exists_yields_codecOf {input : String} {codec : Codec}
    (printable : codec.isPrintable = true)
    (held : desk.files.read (sidecarOf input) =
      .ok (Text.Utf8.encode (Document.chars (.indented 0) (.dict codec.configuration))))
    (unlogged : ¬ desk.log.IsAt (placeOf (sidecarOf input))) (choice : CodecChoice) :
    ∃ found after, (codecOf input choice).Yields desk (codec.reread found) after ∧
      desk.Recorded after := by
  obtain ⟨found, document, read, created⟩ := Codec.create_read_configuration printable
  have there : desk.files.isPresent (sidecarOf input) = true := by
    rw [FileSystem.isPresent, FileSystem.read_eq_ok_iff.mp held]
  obtain ⟨informed, told⟩ : ∃ informed : Desk, informed =
      desk.add ⟨.info, .commandLine, "Reading codec configuration from " ++ sidecarOf input⟩ :=
    ⟨_, rfl⟩
  have first : desk.Recorded informed := by
    rw [told]
    exact desk.recorded_add _
  have kept := first.spares.read unlogged held
  have second := informed.recorded_addAll (Codec.create document [] []).journal
  refine ⟨found, informed.addAll (Codec.create document [] []).journal, ?_, first.trans second⟩
  simp only [codecOf]
  rw [yields_get_bind_iff]
  simp only [there, if_true, yields_bind_iff, yields_inform_iff, yields_perform_iff]
  exact ⟨(), informed, told, document, informed, (yields_readDocument_iff kept).mpr ⟨read, rfl⟩,
    created, rfl⟩

/-- A file that was compressed under a name leaves the compressed chunk under the name, and
the configuration of the codec beside it. -/
theorem stored_of_yields_compress {backing : Backing} {input output shown : String}
    {choice : CodecChoice}
    (compressed : (compress backing input (some output) choice).Yields desk shown after)
    {content : Bytes} (read : desk.files.read input = .ok content) (named : output ≠ "")
    (different : placeOf input ≠ placeOf output)
    (unlogged : ∀ path ∈ [input, output, sidecarOf output], ¬ desk.log.IsAt (placeOf path)) :
    ∃ codec encoded, choice.build.result = .ok codec ∧
      (codec.compress backing (.ofBytes content)).result = .ok encoded ∧
      after.files.read output = .ok encoded ∧
      after.files.read (sidecarOf output) =
        .ok (Text.Utf8.encode (Document.chars (.indented 0) (.dict codec.configuration))) := by
  simp only [List.forall_mem_cons] at unlogged
  obtain ⟨apartInput, apartOutput, apartSidecar, _⟩ := unlogged
  simp only [compress, named, if_false, yields_bind_iff, yields_perform_iff, yields_inform_iff,
    yields_writeFile_iff, yields_sizeOf_iff, yields_pure_iff] at compressed
  obtain ⟨codec, _, ⟨built, rfl⟩, _, informed, told, _, moved, moves, _, _, ⟨files, written, rfl⟩,
    before, _, ⟨_, _, _, rfl⟩, behind, _, ⟨_, _, _, rfl⟩, _, _, rfl, _, rfl⟩ := compressed
  have recorded : desk.Recorded informed := by
    rw [told]
    exact (desk.recorded_addAll choice.build.journal).trans (Desk.recorded_add _ _)
  obtain ⟨result, chunk, log, _⟩ :=
    moved_of_yields moves (recorded.spares.read apartInput read) different
  have file : namesDirectory output = false :=
    FileSystem.namesDirectory_of_file (FileSystem.read_eq_ok_iff.mp chunk)
  have last := (moved.withFiles files).recorded_add
    ⟨.info, .commandLine, s!"{before} -> {behind} bytes"⟩
  have same : (moved.withFiles files).log = desk.log := log.trans recorded.log
  rw [← same] at apartOutput apartSidecar
  have stored := (FileSystem.spares_write written).read (placeOf_sidecarOf_ne file).symm chunk
  refine ⟨codec, _, built, result, ?_, ?_⟩
  · exact last.spares.read apartOutput stored
  · exact last.spares.read apartSidecar (FileSystem.read_write written)

/-- A compressed file is uncompressed to another file that can be written, if it holds what a
lossless codec made of a content and its configuration is beside it. -/
theorem exists_yields_decompress {backing : Backing} {input target : String} {codec : Codec}
    {content encoded : Bytes} (printable : codec.isPrintable = true)
    (lossless : codec.IsLossless) (givesBack : backing.GivesBack content codec)
    (made : (codec.compress backing (.ofBytes content)).result = .ok encoded)
    (chunk : desk.files.read input = .ok encoded)
    (sidecar : desk.files.read (sidecarOf input) =
      .ok (Text.Utf8.encode (Document.chars (.indented 0) (.dict codec.configuration))))
    (different : placeOf input ≠ placeOf target) (accepted : desk.files.Accepts target)
    (unlogged : ∀ path ∈ [input, sidecarOf input, target], ¬ desk.log.IsAt (placeOf path))
    (choice : CodecChoice) :
    ∃ after, (decompress backing input (some target) choice).Yields desk (target ++ "\n") after ∧
      after.files.read target = .ok content := by
  simp only [List.forall_mem_cons] at unlogged
  obtain ⟨apartInput, apartSidecar, apartTarget, _⟩ := unlogged
  obtain ⟨found, prepared, chosen, first⟩ :=
    exists_yields_codecOf printable sidecar apartSidecar choice
  obtain ⟨informed, told⟩ : ∃ informed : Desk, informed = prepared.add ⟨.info, .commandLine,
      "Uncompressing " ++ input ++ " -> " ++ target ++ " (" ++ (codec.reread found).describe ++
        ")"⟩ := ⟨_, rfl⟩
  have recorded : desk.Recorded informed := by
    rw [told]
    exact first.trans (prepared.recorded_add _)
  obtain ⟨source, journal, completed⟩ := @Codec.uncompress_reread backing codec lossless content
    encoded givesBack (.ofBytes content) (.ofBytes encoded) rfl made rfl found
  have apart : ¬ informed.log.IsAt (placeOf target) := by
    rw [recorded.log]
    exact apartTarget
  obtain ⟨after, moves, restored⟩ := exists_yields_moveChunk
    (recorded.spares.read apartInput chunk) different ((recorded.spares.accepts_iff apartTarget).mpr accepted)
    apart completed
  refine ⟨after, ?_, restored⟩
  simp only [decompress, Option.getD_some, yields_bind_iff, yields_inform_iff, yields_pure_iff]
  exact ⟨_, prepared, chosen, (), informed, told, (), after, moves, trivial, rfl⟩

/-- A file is uncompressed only to a file that can be written. -/
theorem accepts_of_yields_decompress {backing : Backing} {input target shown : String}
    {choice : CodecChoice}
    (yielded : (decompress backing input (some target) choice).Yields desk shown after)
    (unlogged : ¬ desk.log.IsAt (placeOf target)) : desk.files.Accepts target := by
  simp only [decompress, Option.getD_some, yields_bind_iff, yields_inform_iff] at yielded
  obtain ⟨codec, chosen, choosing, _, informed, told, _, _, moves, _⟩ := yielded
  have recorded : desk.Recorded informed := by
    rw [told]
    exact (recorded_of_yields_codecOf choosing).trans (chosen.recorded_add _)
  exact (recorded.spares.accepts_iff unlogged).mp (accepts_of_yields_moveChunk moves)

end Action

namespace Command

variable {backing : Backing} {files : FileSystem} {command : Command} {shown : String}

/-- The desk at the beginning of a command. -/
def desk (files : FileSystem) : Desk := ⟨files, [], ⟨.info, none⟩⟩

/-- A command that yields what it shows succeeds. -/
theorem run_of_yields {after : Desk}
    (yielded : (Action.ofCommand backing command).Yields (desk files) shown after) :
    run backing files command = ⟨after.files, after.journal, .ok shown⟩ := by
  rw [Action.Yields, desk] at yielded
  rw [run, yielded]

/-- A command that succeeds yields what it shows. -/
theorem yields_of_run (succeeded : (run backing files command).result = .ok shown) :
    ∃ after, (Action.ofCommand backing command).Yields (desk files) shown after ∧
      (run backing files command).files = after.files := by
  unfold run at succeeded ⊢
  split at succeeded
  · rename_i found after ended
    obtain rfl := Except.ok.inj succeeded
    exact ⟨after, ended, rfl⟩
  · cases succeeded

/-- Whether a command records apart from some paths: the log file, if there is one, is none of
the files under them. -/
def RecordsApart (reporting : Reporting) (paths : List String) : Prop :=
  ∀ log, reporting.logPath = some log → ∀ path ∈ paths, placeOf path ≠ placeOf log

/-- Whether a command can record: the log file, if there is one, can be written. -/
def CanRecord (files : FileSystem) (reporting : Reporting) : Prop :=
  ∀ log, reporting.logPath = some log → files.Accepts log

/-- A codec that was chosen can be shown. -/
theorem isPrintable_of_choice {choice : CodecChoice} {codec : Codec}
    (built : choice.build.result = .ok codec) : codec.isPrintable = true := by
  unfold CodecChoice.build at built
  split at built
  · exact Codec.isPrintable_of_create built
  · cases built

/-- Records are written to none of the paths that they are apart from. -/
theorem RecordsApart.not_isAt {reporting : Reporting} {paths : List String}
    (apart : RecordsApart reporting paths) {log : Log} (path : log.path = reporting.logPath) :
    ∀ one ∈ paths, ¬ log.IsAt (placeOf one) := by
  rintro one member ⟨found, logged, same⟩
  exact apart found (path.symm.trans logged) one member same.symm

/-- Uncompressing to a file that is not the log file succeeds only if both can be written. -/
theorem accepts_of_decompress {input target : String} {choice : CodecChoice}
    {reporting : Reporting} (apart : RecordsApart reporting [target])
    (succeeded : (run backing files (.decompress input (some target) choice reporting)).result =
      .ok shown) : files.Accepts target ∧ CanRecord files reporting := by
  obtain ⟨after, yielded, _⟩ := yields_of_run succeeded
  obtain ⟨_, prepared, prepares, decompresses⟩ := Action.yields_bind_iff.mp yielded
  obtain ⟨path, spares⟩ := Action.spares_of_yields_prepare prepares rfl
  have unlogged := apart.not_isAt path target List.mem_cons_self
  constructor
  · exact (spares.accepts_iff unlogged).mp
      (Action.accepts_of_yields_decompress decompresses unlogged)
  · exact Action.exists_yields_prepare_iff.mp ⟨prepared, prepares⟩

/-- A file that was compressed without loss is given back when it is uncompressed to another
file, whatever codec is asked for then, as long as the compressed file and its configuration are
kept. Uncompressing succeeds exactly if the other file and the log file can be written. -/
theorem decompress_compressed {input output : String} {choice : CodecChoice}
    {reporting : Reporting} {codec : Codec} {content : Bytes}
    (held : files.read input = .ok content) (named : output ≠ "")
    (other : placeOf input ≠ placeOf output)
    (apart : RecordsApart reporting [input, output, sidecarOf output])
    (built : choice.build.result = .ok codec) (lossless : codec.IsLossless)
    (givesBack : backing.GivesBack content codec)
    (compressed : (run backing files (.compress input (some output) choice reporting)).result =
      .ok shown)
    {later : FileSystem}
    (chunk : later.read output =
      (run backing files (.compress input (some output) choice reporting)).files.read output)
    (sidecar : later.read (sidecarOf output) =
      (run backing files (.compress input (some output) choice reporting)).files.read
        (sidecarOf output))
    {target : String} (different : placeOf output ≠ placeOf target) (asked : CodecChoice)
    {recording : Reporting} (aside : RecordsApart recording [output, sidecarOf output, target]) :
    ((run backing later (.decompress output (some target) asked recording)).result =
        .ok (target ++ "\n") ↔ later.Accepts target ∧ CanRecord later recording) ∧
      (later.Accepts target → CanRecord later recording →
        (run backing later (.decompress output (some target) asked recording)).files.read target =
          .ok content) := by
  have alone : RecordsApart recording [target] := by
    intro log path one member
    rw [List.mem_singleton.mp member]
    exact aside log path target (by simp)
  suffices restores : later.Accepts target → CanRecord later recording →
      (run backing later (.decompress output (some target) asked recording)).result =
          .ok (target ++ "\n") ∧
        (run backing later (.decompress output (some target) asked recording)).files.read target =
          .ok content from
    ⟨⟨accepts_of_decompress alone, fun able => (restores able.1 able.2).1⟩,
      fun accepted recordable => (restores accepted recordable).2⟩
  intro accepted recordable
  obtain ⟨after, yielded, same⟩ := yields_of_run compressed
  rw [same] at chunk sidecar
  obtain ⟨_, prepared, prepares, compresses⟩ := Action.yields_bind_iff.mp yielded
  obtain ⟨path, spares⟩ := Action.spares_of_yields_prepare prepares rfl
  have unlogged := apart.not_isAt path
  have read := spares.read (unlogged input List.mem_cons_self) held
  obtain ⟨found, encoded, chosen, made, stored, beside⟩ :=
    Action.stored_of_yields_compress compresses read named other unlogged
  obtain rfl := Except.ok.inj (chosen.symm.trans built)
  obtain ⟨opened, opens⟩ := (@Action.exists_yields_prepare_iff (desk later) recording).mpr recordable
  obtain ⟨place, kept⟩ := Action.spares_of_yields_prepare opens rfl
  have untouched := aside.not_isAt place
  have apartChunk := untouched output (by simp)
  have apartSidecar := untouched (sidecarOf output) (by simp)
  have apartTarget := untouched target (by simp)
  obtain ⟨final, decompresses, restored⟩ := Action.exists_yields_decompress
    (isPrintable_of_choice built) lossless givesBack made
    (kept.read apartChunk (chunk.trans stored)) (kept.read apartSidecar (sidecar.trans beside))
    different ((kept.accepts_iff apartTarget).mpr accepted) untouched asked
  have completes : (Action.ofCommand backing
      (.decompress output (some target) asked recording)).Yields (desk later) (target ++ "\n") final :=
    Action.yields_bind_iff.mpr ⟨(), opened, opens, decompresses⟩
  rw [run_of_yields completes]
  exact ⟨rfl, restored⟩

/-- The standard codec can be shown. -/
theorem isPrintable_standard : (Codec.blosc .standard).isPrintable = true :=
  Codec.isPrintable_blosc (Value.intIsPrintable_of_lt (by decide))

/-- The standard choice builds the standard codec, and records nothing else. -/
theorem build_standard : CodecChoice.standard.build =
    ⟨[⟨.debug, .factory, "Created codec " ++ (Codec.blosc .standard).describe⟩],
      .ok (.blosc .standard)⟩ := by
  have configured : Codec.configure .blosc [(.text "id", .text "blosc")] =
      .ok (.blosc .standard) := rfl
  have silent : Parameter.warnUnknown [(.text "id", .text "blosc")] Blosc.Settings.knownKeys
      CodecId.blosc.name = [] := by
    have known : Parameter.unknownKeys [(.text "id", .text "blosc")] Blosc.Settings.knownKeys = [] := by
      simp [Parameter.unknownKeys, Properties.keys, Value.sameKey_text]
    rw [Parameter.warnUnknown, known]
  show Codec.build .blosc [(.text "id", .text "blosc")] = _
  rw [Codec.build, configured]
  simp only [isPrintable_standard, if_true, Codec.knownKeys?, silent, List.nil_append]

/-- One file and nothing else. -/
def singleFile (path : String) (content : Bytes) : FileSystem := ⟨[(placeOf path, content)], []⟩

/-- The standard library alone. -/
def standardBacking : Backing := ⟨some .standard, none⟩

/-- Three bytes are given back by the standard library. -/
theorem standardBacking_givesBack : standardBacking.GivesBack [1, 2, 3] (.blosc .standard) := by
  rintro library ⟨⟩ nonempty
  exact Blosc.standard_givesBack (by decide) nonempty (by decide)

/-- Reporting to a file. -/
def reportingTo (log : String) : Reporting := ⟨.text "info", .text log, .bool false⟩

/-- A file that is in the place of the configuration is overwritten when it is compressed, and
restored when it is uncompressed, although an image codec is asked for then. -/
theorem overwritten_file_restored :
    ∃ outcome, outcome = run standardBacking (singleFile "c.json" [1, 2, 3])
        (.compress "c.json" (some "c") .standard (reportingTo "log")) ∧ outcome.result = .ok "c\n" ∧
      (run standardBacking outcome.files
        (.decompress "c" (some "c.json") ⟨.text "j2k", .dict []⟩ (reportingTo "log"))).result =
          .ok "c.json\n" ∧
      (run standardBacking outcome.files
        (.decompress "c" (some "c.json") ⟨.text "j2k", .dict []⟩
          (reportingTo "log"))).files.read "c.json" = .ok [1, 2, 3] := by
  obtain ⟨outcome, same⟩ : ∃ outcome, outcome = run standardBacking (singleFile "c.json" [1, 2, 3])
      (.compress "c.json" (some "c") .standard (reportingTo "log")) := ⟨_, rfl⟩
  have evaluated : outcome.result = .ok "c\n" ∧
      (∃ content, outcome.files.read "c.json" = .ok content) ∧
      ∃ content, outcome.files.read "log" = .ok content := by
    rw [same]
    simp only [run, Action.ofCommand, Action.compress, Action.perform, build_standard]
    exact ⟨rfl, ⟨_, rfl⟩, ⟨_, rfl⟩⟩
  obtain ⟨compressed, ⟨_, overwritten⟩, ⟨_, logged⟩⟩ := evaluated
  have apart : ∀ paths : List String, (∀ path ∈ paths, placeOf path ≠ placeOf "log") →
      RecordsApart (reportingTo "log") paths := by
    rintro paths different log ⟨⟩
    exact different
  have recordable : CanRecord outcome.files (reportingTo "log") := by
    rintro log ⟨⟩
    exact FileSystem.accepts_of_read logged
  have built : CodecChoice.standard.build.result = .ok (.blosc .standard) := by
    rw [build_standard]
  refine ⟨outcome, same, compressed, ?_⟩
  have held : (singleFile "c.json" [1, 2, 3]).read "c.json" = .ok [1, 2, 3] := rfl
  rw [same] at compressed
  have different : placeOf "c" ≠ placeOf "c.json" := by decide
  have kept (path : String) : outcome.files.read path =
      (run standardBacking (singleFile "c.json" [1, 2, 3])
        (.compress "c.json" (some "c") .standard (reportingTo "log"))).files.read path := by
    rw [same]
  have restored := decompress_compressed held (by decide) (by decide) (apart _ (by decide)) built
    trivial standardBacking_givesBack compressed (kept "c") (kept (sidecarOf "c")) different
    ⟨.text "j2k", .dict []⟩ (apart _ (by decide))
  have writable := FileSystem.accepts_of_read overwritten
  exact ⟨restored.1.mpr ⟨writable, recordable⟩, restored.2 writable recordable⟩

/-- A file that was compressed is not uncompressed into a directory that is not there, nor is
it when the log file would be in one. -/
theorem missing_directory_refused :
    ∃ outcome, outcome = run standardBacking (singleFile "raw" [1, 2, 3])
        (.compress "raw" (some "c") .standard .standard) ∧ outcome.result = .ok "c\n" ∧
      (singleFile "raw" [1, 2, 3]).read "raw" = .ok [1, 2, 3] ∧ placeOf "raw" ≠ placeOf "c" ∧
      CodecChoice.standard.build.result = .ok (.blosc .standard) ∧
      (Codec.blosc .standard).IsLossless ∧
      standardBacking.GivesBack [1, 2, 3] (.blosc .standard) ∧
      placeOf "c" ≠ placeOf "missing/d" ∧ placeOf "c" ≠ placeOf "d" ∧
      (∀ shown, (run standardBacking outcome.files
        (.decompress "c" (some "missing/d") .standard .standard)).result ≠ .ok shown) ∧
      ∀ shown, (run standardBacking outcome.files
        (.decompress "c" (some "d") .standard (reportingTo "missing/log"))).result ≠ .ok shown := by
  obtain ⟨outcome, same⟩ : ∃ outcome, outcome = run standardBacking (singleFile "raw" [1, 2, 3])
      (.compress "raw" (some "c") .standard .standard) := ⟨_, rfl⟩
  have evaluated : outcome.result = .ok "c\n" ∧
      outcome.files.standing "missing/d" = .unreachable ∧
      outcome.files.standing "missing/log" = .unreachable := by
    rw [same]
    simp only [run, Action.ofCommand, Action.compress, Action.perform, build_standard]
    exact ⟨rfl, rfl, rfl⟩
  obtain ⟨compressed, unreachable, unreachableLog⟩ := evaluated
  refine ⟨outcome, same, compressed, rfl, by decide, by rw [build_standard], trivial,
    standardBacking_givesBack, by decide, by decide, ?_, ?_⟩
  · intro shown succeeded
    have apart : RecordsApart .standard ["missing/d"] := by
      rintro log ⟨⟩
    obtain ⟨⟨opened, _⟩, _⟩ := accepts_of_decompress apart succeeded
    rw [unreachable] at opened
    exact opened
  · intro shown succeeded
    have apart : RecordsApart (reportingTo "missing/log") ["d"] := by
      rintro log ⟨⟩
      decide
    obtain ⟨_, recordable⟩ := accepts_of_decompress apart succeeded
    obtain ⟨opened, _⟩ := recordable "missing/log" rfl
    rw [unreachableLog] at opened
    exact opened

end Command

end ChunkCodecs
