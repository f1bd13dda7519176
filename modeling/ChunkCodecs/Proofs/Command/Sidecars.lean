import ChunkCodecs.Proofs.Command.Runs
import ChunkCodecs.Proofs.Construction

/-!
# Configurations beside chunks

A configuration is written only when the chunk beside it is complete, but a command that fails when
it has opened the compressed file leaves this file empty, and the configuration of an earlier
command stays beside it. So in the end of a run a configuration belongs to the last command that
succeeded for its path, and the chunk beside it is the one of this command, from which the
configuration restores the file, unless a later command has opened the chunk and failed: then the
chunk is empty.
-/

namespace ChunkCodecs

variable {backing : Backing} {files : FileSystem}

/-- The chunk under a path is uncompressed to a content by the codec that is built from the
configuration beside it. -/
def FileSystem.Restores (files : FileSystem) (backing : Backing) (path : String)
    (content : Bytes) : Prop :=
  ∃ document rebuilt encoded,
    (Action.readDocument (sidecarOf path)).Yields (Command.desk files) document
      (Command.desk files) ∧
    (Codec.create document [] []).result = .ok rebuilt ∧
    files.read path = .ok encoded ∧ (rebuilt.decode backing encoded).result = .ok content

/-- Beside the configuration of a codec a chunk restores what the codec uncompresses it to. -/
theorem FileSystem.exists_restores_iff {path : String} {codec : Codec} {encoded : Bytes}
    (printable : codec.isPrintable = true) (chunk : files.read path = .ok encoded)
    (sidecar : files.read (sidecarOf path) =
      .ok (Text.Utf8.encode (Document.chars (.indented 0) (.dict codec.configuration)))) :
    ∃ found, ∀ content, files.Restores backing path content ↔
      ((codec.reread found).decode backing encoded).result = .ok content := by
  obtain ⟨found, document, read, created⟩ := Codec.create_read_configuration printable
  have held : (Command.desk files).files.read (sidecarOf path) =
      .ok (Text.Utf8.encode (Document.chars (.indented 0) (.dict codec.configuration))) := sidecar
  refine ⟨found, fun content => ⟨?_, ?_⟩⟩
  · rintro ⟨other, rebuilt, stored, reads, creates, holds, decodes⟩
    obtain rfl := Except.ok.inj (read.symm.trans ((Action.yields_readDocument_iff held).mp reads).1)
    obtain rfl := Except.ok.inj (created.symm.trans creates)
    obtain rfl := Except.ok.inj (chunk.symm.trans holds)
    exact decodes
  · intro decodes
    exact ⟨document, codec.reread found, encoded,
      (Action.yields_readDocument_iff held).mpr ⟨read, rfl⟩, created, chunk, decodes⟩

/-- A chunk beside the configuration of its codec restores what was compressed without loss. -/
theorem FileSystem.restores_of_read {path : String} {codec : Codec} {content encoded : Bytes}
    (printable : codec.isPrintable = true) (lossless : codec.IsLossless)
    (givesBack : backing.GivesBack content codec)
    (made : (codec.compress backing (.ofBytes content)).result = .ok encoded)
    (chunk : files.read path = .ok encoded)
    (sidecar : files.read (sidecarOf path) =
      .ok (Text.Utf8.encode (Document.chars (.indented 0) (.dict codec.configuration)))) :
    files.Restores backing path content := by
  obtain ⟨found, restores_iff⟩ :=
    @FileSystem.exists_restores_iff backing files _ _ _ printable chunk sidecar
  obtain ⟨after, journal, completed⟩ := @Codec.uncompress_reread backing codec lossless content
    encoded givesBack (.ofBytes content) (.ofBytes encoded) rfl made rfl found
  rw [restores_iff, Codec.decode, completed]
  rfl

/-- A turn is the last one of several compressions that stores a chunk under a path. -/
structure IsLastStore (backing : Backing) (files : FileSystem) (compressions : List Compression)
    (path : String) (turn : Turn) (later : List Turn) : Prop where
  /-- The turn is one of the compressions, with all later ones behind it. -/
  split : ∃ earlier, turns backing files compressions = earlier ++ turn :: later
  /-- It stores a chunk. -/
  stores : turn.Stores backing path
  /-- No later turn does. -/
  last : ∀ other ∈ later, ¬ other.Stores backing path

/-- In the end a configuration describes the chunk beside it. Where there is no configuration at the
beginning, and several orderly compressions without loss are run one after another, successful or
not, every configuration that is there in the end is the one of the last compression that stored a
chunk under its path. If no later compression has opened this file, the codec that is built from
the configuration uncompresses the chunk to the content of the file that was compressed, as long as
the libraries give back what they were handed. Otherwise the chunk is empty. -/
theorem sidecar_describes {compressions : List Compression}
    (fresh : ∀ path, files.isPresent (sidecarOf path) = false) (orderly : AreOrderly compressions)
    (lossless : ∀ one ∈ compressions, ∀ codec, one.choice.build.result = .ok codec →
      codec.IsLossless)
    (givesBack : ∀ one ∈ compressions, ∀ codec content, one.choice.build.result = .ok codec →
      files.read one.input = .ok content → backing.GivesBack content codec)
    {path : String}
    (present : (runEach backing files compressions).isPresent (sidecarOf path) = true) :
    ∃ turn later codec content, IsLastStore backing files compressions path turn later ∧
      turn.compression.choice.build.result = .ok codec ∧
      files.read turn.compression.input = .ok content ∧
      turn.files.read turn.compression.input = .ok content ∧
      (runEach backing files compressions).read (sidecarOf path) =
        .ok (Text.Utf8.encode (Document.chars (.indented 0) (.dict codec.configuration))) ∧
      ((∀ other ∈ later, ¬ other.Opens path) →
        (runEach backing files compressions).Restores backing path content) ∧
      ((∃ other ∈ later, other.Opens path) →
        (runEach backing files compressions).read path = .ok []) := by
  have free : files.IsFree := by
    intro path found
    have there : files.isPresent (sidecarOf path) = true := by rw [FileSystem.isPresent, found]
    rw [fresh path] at there
    cases there
  have members : ∀ compression ∈ compressions, compression ∈ compressions := fun _ => id
  rcases orderly.exists_stores_of_present members free present with before | ⟨stored, file⟩
  · rw [fresh path] at before
    cases before
  obtain ⟨earlier, turn, rest, split, member, turn_free, stores, rest_members, unstored, ran⟩ :=
    exists_last_stores members free stored
  obtain ⟨codec, shown, built, place, succeeded⟩ := stores
  have taken : turn ∈ turns backing files compressions := by
    rw [split]
    exact List.mem_append_right _ List.mem_cons_self
  have comes : turn.compression.ComesTo backing turn.files (turn.outcome backing) :=
    orderly.comesTo member turn_free
  cases comes with
  | refused _ failed _ =>
    obtain ⟨fault, failed⟩ := failed
    cases failed.symm.trans succeeded
  | emptied _ failed _ _ =>
    obtain ⟨fault, failed⟩ := failed
    cases failed.symm.trans succeeded
  | @stored found content encoded opens _ read made chunk sidecar _ =>
    cases built.symm.trans opens.built
    have first_read := orderly.read_input_of_turn member members free taken read
    rw [ran] at present ⊢
    have free_after : (turn.outcome backing).files.IsFree := turn_free.run backing turn.compression
    obtain ⟨final_sidecar, kept, emptied⟩ := orderly.read_of_place member built opens.writable.2
      rest_members free_after place file unstored chunk sidecar present
    refine ⟨turn, _, codec, content,
      ⟨⟨earlier, split⟩, ⟨codec, shown, built, place, succeeded⟩, unstored⟩, built, first_read, read,
      final_sidecar, ?_, emptied⟩
    intro unopened
    exact FileSystem.restores_of_read (Command.isPrintable_of_choice built)
      (lossless _ member codec built) (givesBack _ member codec content built first_read) made
      (kept unopened) final_sidecar

open Command (singleFile standardBacking reportingTo build_standard standardBacking_givesBack)

/-- Beside a file alone, whose name is no name of a configuration, there is no configuration. -/
theorem isPresent_sidecarOf_singleFile {name : String} (file : namesDirectory name = false)
    (alone : (placeOf name).length = 1) (plain : ∀ chunk, name ≠ sidecarOf chunk) (content : Bytes)
    (path : String) : (singleFile name content).isPresent (sidecarOf path) = false := by
  have other := placeOf_ne_sidecarOf file plain path
  have positive := List.length_pos_iff.mpr (placeOf_ne_nil (namesDirectory_sidecarOf path))
  have empty : (singleFile name content).contentAt (placeOf (sidecarOf path)) = none := by
    have elsewhere : (placeOf (sidecarOf path) == placeOf name) = false :=
      beq_eq_false_iff_ne.mpr other.symm
    simp only [FileSystem.contentAt, singleFile, List.lookup, elsewhere]
  have bare : (singleFile name content).hasDirectory (placeOf (sidecarOf path)) = false := by
    rw [Bool.eq_false_iff, ne_eq, FileSystem.hasDirectory_iff]
    rintro (root | ⟨_, ⟨⟩, _⟩ | ⟨held, member, lead, differs⟩)
    · rw [root] at positive
      cases positive
    · rw [List.mem_singleton.mp member] at lead differs
      exact differs (lead.eq_of_length_le (alone ▸ positive))
  rw [FileSystem.isPresent]
  unfold FileSystem.standing FileSystem.standingAt
  rw [empty, bare]
  grind

/-- The identity codec uncompresses a chunk to itself. -/
theorem Codec.decode_identity (backing : Backing) (encoded : Bytes) :
    (Codec.identity.decode backing encoded).result = .ok encoded := by
  obtain ⟨_, copied, _⟩ := copyThrough_complete (.ofBytes encoded)
  rw [decode, uncompress, copied]
  rfl

/-- The identity codec compresses a file to itself. -/
theorem Codec.compress_identity (backing : Backing) (source : Source) :
    Codec.identity.compress backing source =
      .complete source.rest (copyThrough source).source [] := by
  obtain ⟨_, copied, _⟩ := copyThrough_complete source
  rw [compress, copied]
  rfl

/-- The choice of the identity codec. -/
def identityChoice : CodecChoice := ⟨.text "identity", .dict []⟩

/-- The identity codec is chosen. -/
theorem build_identityChoice : identityChoice.build =
    ⟨[⟨.debug, .factory, "Created codec " ++ Codec.identity.describe⟩], .ok .identity⟩ := rfl

/-- The choice of a raster codec whose images have no known size. -/
def imageChoice : CodecChoice := ⟨.text "j2k", .dict []⟩

/-- A raster codec for images of unknown size is chosen. -/
theorem build_imageChoice : imageChoice.build =
    ⟨[⟨.debug, .factory, "Created codec " ++ (Codec.raster {}).describe⟩], .ok (.raster {})⟩ := by
  have configured : Codec.configure .j2k [(.text "id", .text "j2k")] = .ok (.raster {}) := rfl
  have unknown : Value.intIsPrintable (-1) = true := Value.intIsPrintable_of_lt (by decide)
  have single : Value.intIsPrintable 1 = true := Value.intIsPrintable_of_lt (by decide)
  have printable : (Codec.raster {}).isPrintable = true :=
    (Codec.isPrintable_raster_iff _).mpr ⟨unknown, unknown, single⟩
  have silent : Parameter.warnUnknown [(.text "id", .text "j2k")] Raster.Settings.knownKeys
      CodecId.j2k.name = [] := by
    have known :
        Parameter.unknownKeys [(.text "id", .text "j2k")] Raster.Settings.knownKeys = [] := by
      simp [Parameter.unknownKeys, Properties.keys, Value.sameKey_text]
    rw [Parameter.warnUnknown, known]
  show Codec.build .j2k [(.text "id", .text "j2k")] = _
  rw [Codec.build, configured]
  simp only [printable, if_true, Codec.knownKeys?, silent, List.nil_append]

/-- A command that compresses a file with the standard codec. -/
def storing (input output : String) (reporting : Reporting) : Compression :=
  ⟨input, some output, .standard, reporting⟩

/-- A command that copies a file. -/
def copying (input output : String) (reporting : Reporting) : Compression :=
  ⟨input, some output, identityChoice, reporting⟩

/-- A command that compresses a file as an image of unknown size, which fails. -/
def failing (input output : String) : Compression := ⟨input, some output, imageChoice, .standard⟩

/-- A compression of a file to another one stores it, copies it, or fails. -/
def Compression.IsSimple (input output : String) (compression : Compression) : Prop :=
  compression.input = input ∧ compression.output = some output ∧
    (compression.choice = .standard ∨ compression.choice = identityChoice ∨
      compression.choice = imageChoice)

/-- The codecs of simple compressions lose nothing, and the standard library gives three bytes
back. -/
theorem Compression.IsSimple.isLossless {input output : String} {compression : Compression}
    (simple : compression.IsSimple input output) {codec : Codec}
    (built : compression.choice.build.result = .ok codec) :
    codec.IsLossless ∧ standardBacking.GivesBack [1, 2, 3] codec := by
  obtain ⟨_, _, chosen | chosen | chosen⟩ := simple
  · rw [chosen, build_standard] at built
    obtain rfl := Except.ok.inj built
    exact ⟨trivial, standardBacking_givesBack⟩
  · rw [chosen, build_identityChoice] at built
    obtain rfl := Except.ok.inj built
    exact ⟨trivial, trivial⟩
  · rw [chosen, build_imageChoice] at built
    obtain rfl := Except.ok.inj built
    refine ⟨rfl, ?_⟩
    rintro _ _ ⟨⟩

/-- Simple compressions of a file to another one keep to their files. -/
theorem AreOrderly.of_simple {input output log : String} {compressions : List Compression}
    (simple : ∀ one ∈ compressions, one.IsSimple input output)
    (logs : ∀ one ∈ compressions, one.reporting.logPath = none ∨ one.reporting.logPath = some log)
    (short : input.length < 5 ∧ output.length < 5 ∧ log.length < 5) (named : output ≠ "")
    (apart : placeOf input ≠ placeOf output ∧ placeOf log ≠ placeOf input ∧
      placeOf log ≠ placeOf output) : AreOrderly compressions := by
  have target {one : Compression} (member : one ∈ compressions) (codec : Codec) :
      one.target codec = output := by
    rw [Compression.target, (simple one member).2.1, Action.targetOf, if_neg named]
  have logged {one : Compression} (member : one ∈ compressions) {place : Place}
      (elsewhere : placeOf log ≠ place) : ¬ one.LogsTo place := by
    rintro ⟨path, found, _, same⟩
    rcases logs one member with silent | recorded
    · cases silent.symm.trans found
    · obtain rfl := Option.some.inj (recorded.symm.trans found)
      exact elsewhere same
  constructor
  · intro one member
    rw [(simple one member).1]
    exact ne_sidecarOf_of_length short.1
  · intro one member codec _
    rw [target member]
    exact ne_sidecarOf_of_length short.2.1
  · intro one member path found
    rcases logs one member with silent | recorded
    · cases silent.symm.trans found
    · obtain rfl := Option.some.inj (recorded.symm.trans found)
      exact ne_sidecarOf_of_length short.2.2
  · intro one member other taken codec _
    rw [target taken, (simple one member).1]
    exact apart.1
  · intro one member other taken
    rw [(simple one member).1]
    exact logged taken apart.2.1
  · intro one member codec _ other taken
    rw [target member]
    exact logged taken apart.2.2

/-- A file that is compressed after a command has failed for the same path is described. -/
theorem stored_file_described :
    ∃ compressions, compressions = [failing "raw" "c", storing "raw" "c" (reportingTo "log")] ∧
      (∀ path, (singleFile "raw" [1, 2, 3]).isPresent (sidecarOf path) = false) ∧
      AreOrderly compressions ∧
      (∀ one ∈ compressions, ∀ codec, one.choice.build.result = .ok codec → codec.IsLossless) ∧
      (∀ one ∈ compressions, ∀ codec content, one.choice.build.result = .ok codec →
        (singleFile "raw" [1, 2, 3]).read one.input = .ok content →
          standardBacking.GivesBack content codec) ∧
      (runEach standardBacking (singleFile "raw" [1, 2, 3]) compressions).isPresent
        (sidecarOf "c") = true ∧
      (runEach standardBacking (singleFile "raw" [1, 2, 3]) compressions).Restores standardBacking
        "c" [1, 2, 3] := by
  obtain ⟨compressions, same⟩ : ∃ compressions,
      compressions = [failing "raw" "c", storing "raw" "c" (reportingTo "log")] := ⟨_, rfl⟩
  have simple : ∀ one ∈ compressions, one.IsSimple "raw" "c" := by
    rw [same]
    exact List.forall_mem_cons.mpr ⟨⟨rfl, rfl, .inr (.inr rfl)⟩,
      List.forall_mem_singleton.mpr ⟨rfl, rfl, .inl rfl⟩⟩
  have logs : ∀ one ∈ compressions,
      one.reporting.logPath = none ∨ one.reporting.logPath = some "log" := by
    rw [same]
    exact List.forall_mem_cons.mpr ⟨.inl rfl, List.forall_mem_singleton.mpr (.inr rfl)⟩
  have fresh : ∀ path, (singleFile "raw" [1, 2, 3]).isPresent (sidecarOf path) = false :=
    isPresent_sidecarOf_singleFile rfl rfl (ne_sidecarOf_of_length (by decide)) _
  have orderly := AreOrderly.of_simple simple logs (by decide) (by decide) (by decide)
  have lossless : ∀ one ∈ compressions, ∀ codec, one.choice.build.result = .ok codec →
      codec.IsLossless := fun one member codec built => ((simple one member).isLossless built).1
  have givesBack : ∀ one ∈ compressions, ∀ codec content, one.choice.build.result = .ok codec →
      (singleFile "raw" [1, 2, 3]).read one.input = .ok content →
        standardBacking.GivesBack content codec := by
    intro one member codec content built read
    rw [(simple one member).1] at read
    obtain rfl := Except.ok.inj read
    exact ((simple one member).isLossless built).2
  have present : (runEach standardBacking (singleFile "raw" [1, 2, 3]) compressions).isPresent
      (sidecarOf "c") = true := by
    rw [same]
    simp only [runEach, Command.run, storing, failing, Compression.command, Action.ofCommand,
      Action.compress_eq, build_standard, build_imageChoice, Action.perform_bind_ok]
    rfl
  refine ⟨compressions, same, fresh, orderly, lossless, givesBack, present, ?_⟩
  obtain ⟨turn, later, codec, content, ⟨⟨earlier, split⟩, stores, _⟩, _, read, _, _, restores,
    _⟩ := sidecar_describes fresh orderly lossless givesBack present
  have failed : ∀ shown, (Command.run standardBacking (singleFile "raw" [1, 2, 3])
      (failing "raw" "c").command).result ≠ .ok shown := by
    simp only [Command.run, failing, Compression.command, Action.ofCommand, Action.compress_eq,
      build_imageChoice, Action.perform_bind_ok]
    rintro _ ⟨⟩
  rw [same] at split
  -- The first command has failed, so the turn is the one of the second, and none is later.
  rcases earlier with _ | ⟨first, _ | ⟨second, others⟩⟩
  · obtain ⟨rfl, _⟩ := List.cons.inj split
    obtain ⟨_, shown, _, _, succeeded⟩ := stores
    exact absurd succeeded (failed shown)
  · obtain ⟨_, second⟩ := List.cons.inj split
    obtain ⟨rfl, none_later⟩ := List.cons.inj second
    obtain rfl := Except.ok.inj read
    refine restores ?_
    rw [← none_later]
    rintro _ ⟨⟩
  · obtain ⟨_, longer⟩ := List.cons.inj split
    obtain ⟨_, longer⟩ := List.cons.inj longer
    cases others <;> cases longer

/-- A run without loss misdescribes three bytes: there is no configuration at the beginning, every
command of the run compresses the three bytes, no name is a name of a configuration, no compressed
file has the name of a file that is compressed, and the libraries give the bytes back. But in the
end there is a configuration under a path, and what is beside it does not restore the bytes. -/
structure Misdescribes (files : FileSystem) (compressions : List Compression) (path : String) :
    Prop where
  /-- There is no configuration at the beginning. -/
  fresh : ∀ chunk, files.isPresent (sidecarOf chunk) = false
  /-- Three bytes are compressed. -/
  read : ∀ one ∈ compressions, files.read one.input = .ok [1, 2, 3]
  /-- No name is a name of a configuration. -/
  plain : ∀ one ∈ compressions, ∀ chunk,
    one.input ≠ sidecarOf chunk ∧ one.output ≠ some (sidecarOf chunk)
  /-- No compressed file has the name of a file that is compressed. -/
  apart : ∀ one ∈ compressions, ∀ other ∈ compressions, other.output ≠ some one.input
  /-- No codec loses anything, and the libraries give the bytes back. -/
  lossless : ∀ one ∈ compressions, ∀ codec, one.choice.build.result = .ok codec →
    codec.IsLossless ∧ standardBacking.GivesBack [1, 2, 3] codec
  /-- There is a configuration in the end. -/
  present : (runEach standardBacking files compressions).isPresent (sidecarOf path) = true
  /-- What is beside it does not restore the bytes. -/
  unrestored :
    ¬ (runEach standardBacking files compressions).Restores standardBacking path [1, 2, 3]

/-- Simple compressions of a file misdescribe it if it is not restored beside a configuration. -/
theorem Misdescribes.of_simple {input output path : String} {compressions : List Compression}
    (simple : ∀ one ∈ compressions, one.IsSimple input output)
    (held : (singleFile input [1, 2, 3]).read input = .ok [1, 2, 3])
    (alone : (placeOf input).length = 1) (short : input.length < 5 ∧ output.length < 5)
    (other : output ≠ input)
    (present : (runEach standardBacking (singleFile input [1, 2, 3]) compressions).isPresent
      (sidecarOf path) = true)
    (unrestored : ¬ (runEach standardBacking (singleFile input [1, 2, 3]) compressions).Restores
      standardBacking path [1, 2, 3]) :
    Misdescribes (singleFile input [1, 2, 3]) compressions path where
  fresh := by
    have file := FileSystem.namesDirectory_of_file (FileSystem.read_eq_ok_iff.mp held)
    exact isPresent_sidecarOf_singleFile file alone (ne_sidecarOf_of_length short.1) _
  read one member := by
    rw [(simple one member).1]
    exact held
  plain one member chunk := by
    rw [(simple one member).1, (simple one member).2.1, ne_eq (some output), Option.some.injEq]
    exact ⟨ne_sidecarOf_of_length short.1 chunk, ne_sidecarOf_of_length short.2 chunk⟩
  apart one member another taken := by
    rw [(simple one member).1, (simple another taken).2.1, ne_eq, Option.some.injEq]
    exact other
  lossless one member codec built := (simple one member).isLossless built
  present := present
  unrestored := unrestored

/-- Simple compressions of a file misdescribe it if the configuration of the identity codec is
beside anything else. -/
theorem Misdescribes.of_identity {input output path : String} {compressions : List Compression}
    (simple : ∀ one ∈ compressions, one.IsSimple input output)
    (held : (singleFile input [1, 2, 3]).read input = .ok [1, 2, 3])
    (alone : (placeOf input).length = 1) (short : input.length < 5 ∧ output.length < 5)
    (other : output ≠ input)
    (found : ∃ encoded,
      (runEach standardBacking (singleFile input [1, 2, 3]) compressions).read path =
        .ok encoded ∧
      (runEach standardBacking (singleFile input [1, 2, 3]) compressions).read (sidecarOf path) =
        .ok (Text.Utf8.encode
          (Document.chars (.indented 0) (.dict Codec.identity.configuration))) ∧
      encoded ≠ [1, 2, 3]) :
    Misdescribes (singleFile input [1, 2, 3]) compressions path := by
  obtain ⟨encoded, chunk, sidecar, differs⟩ := found
  refine .of_simple simple held alone short other ?_ ?_
  · rw [FileSystem.isPresent, FileSystem.read_eq_ok_iff.mp sidecar]
  · obtain ⟨found, restores_iff⟩ :=
      @FileSystem.exists_restores_iff standardBacking _ _ _ _ rfl chunk sidecar
    rw [restores_iff, Codec.reread, Codec.decode_identity]
    rintro ⟨⟩
    exact differs rfl

/-- A configuration can be beside a chunk that does not restore the file, although no codec loses
anything: if a later command opens the chunk and fails, if the chunk or the file is the log file,
if the log file is in the place of a configuration, and if the file is the chunk under another
name. -/
theorem sidecar_misdescribes :
    Misdescribes (singleFile "raw" [1, 2, 3]) [copying "raw" "c" .standard, failing "raw" "c"]
        "c" ∧
      AreOrderly [copying "raw" "c" .standard, failing "raw" "c"] ∧
      Misdescribes (singleFile "raw" [1, 2, 3]) [copying "raw" "c" (reportingTo "c")] "c" ∧
      Misdescribes (singleFile "raw" [1, 2, 3]) [copying "raw" "c" (reportingTo "raw")] "c" ∧
      Misdescribes (singleFile "raw" [1, 2, 3]) [copying "raw" "c" (reportingTo "d.json")] "d" ∧
      Misdescribes (singleFile "c" [1, 2, 3]) [copying "c" "./c" .standard] "./c" := by
  have copies (input output : String) (reporting : Reporting) :
      ∀ one ∈ [copying input output reporting], one.IsSimple input output :=
    List.forall_mem_singleton.mpr ⟨rfl, rfl, .inr (.inl rfl)⟩
  have fails : ∀ one ∈ [copying "raw" "c" .standard, failing "raw" "c"],
      one.IsSimple "raw" "c" :=
    List.forall_mem_cons.mpr ⟨⟨rfl, rfl, .inr (.inl rfl)⟩,
      List.forall_mem_singleton.mpr ⟨rfl, rfl, .inr (.inr rfl)⟩⟩
  have silent : ∀ one ∈ [copying "raw" "c" .standard, failing "raw" "c"],
      one.reporting.logPath = none ∨ one.reporting.logPath = some "log" :=
    List.forall_mem_cons.mpr ⟨.inl rfl, List.forall_mem_singleton.mpr (.inl rfl)⟩
  refine ⟨.of_identity fails rfl rfl (by decide) (by decide) ?emptied,
    .of_simple fails silent (by decide) (by decide) (by decide),
    .of_identity (copies _ _ _) rfl rfl (by decide) (by decide) ?lengthened,
    .of_identity (copies _ _ _) rfl rfl (by decide) (by decide) ?grown,
    .of_simple (copies _ _ _) rfl rfl (by decide) (by decide) ?logged ?missing,
    .of_identity (copies _ _ _) rfl rfl (by decide) (by decide) ?truncated⟩
  case missing =>
    rintro ⟨_, _, _, _, _, chunk, _⟩
    revert chunk
    simp only [runEach, Command.run, copying, Compression.command, Action.ofCommand,
      Action.compress_eq, build_identityChoice, Action.perform_bind_ok, Action.compressTo,
      Action.moveChunk, Codec.compress_identity]
    rintro ⟨⟩
  all_goals
    simp only [runEach, Command.run, copying, failing, Compression.command, Action.ofCommand,
      Action.compress_eq, build_identityChoice, build_imageChoice, Action.perform_bind_ok,
      Action.compressTo, Action.moveChunk, Codec.compress_identity]
  case logged => rfl
  case emptied => exact ⟨_, rfl, rfl, by rintro ⟨⟩⟩
  case lengthened => exact ⟨_, rfl, rfl, by rintro ⟨⟩⟩
  case grown => exact ⟨_, rfl, rfl, by rintro ⟨⟩⟩
  case truncated => exact ⟨_, rfl, rfl, by rintro ⟨⟩⟩

end ChunkCodecs
