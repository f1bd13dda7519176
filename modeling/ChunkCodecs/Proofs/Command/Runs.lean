import ChunkCodecs.Proofs.Command.Compressions

/-!
# Runs of compressions

Files are compressed one after another, and some of the commands may fail. A run comes with its
turns, each of which finds the files that the turns before it have left. As long as the commands
keep to their files, a file that is compressed is left alone, a configuration belongs to a turn
that stored the chunk beside it, and a turn that stores nothing under a path keeps the
configuration there, and keeps the chunk as well unless it opens it and leaves it empty.
-/

namespace ChunkCodecs

variable {backing : Backing} {files : FileSystem}

/-- The files after several compressions, one after another. -/
def runEach (backing : Backing) (files : FileSystem) : List Compression → FileSystem
  | [] => files
  | compression :: later =>
    runEach backing (Command.run backing files compression.command).files later

/-- A compression and the files that it finds. -/
structure Turn where
  /-- The files that are found. -/
  files : FileSystem
  /-- The compression. -/
  compression : Compression

/-- Several compressions with the files that each of them finds. -/
def turns (backing : Backing) (files : FileSystem) : List Compression → List Turn
  | [] => []
  | compression :: later =>
    ⟨files, compression⟩ ::
      turns backing (Command.run backing files compression.command).files later

namespace Turn

/-- What comes of a turn. -/
def outcome (turn : Turn) (backing : Backing) : Outcome :=
  Command.run backing turn.files turn.compression.command

/-- A turn opens the file under a path to write a chunk. -/
def Opens (turn : Turn) (path : String) : Prop :=
  ∃ codec, turn.compression.Opens turn.files codec ∧
    placeOf (turn.compression.target codec) = placeOf path

/-- A turn that succeeds stores a chunk in the file under a path. -/
def Stores (turn : Turn) (backing : Backing) (path : String) : Prop :=
  ∃ codec shown, turn.compression.choice.build.result = .ok codec ∧
    placeOf (turn.compression.target codec) = placeOf path ∧
    (turn.outcome backing).result = .ok shown

end Turn

/-- A turn that opens the file of its codec opens no other one. -/
theorem Compression.Opens.opens_iff {compression : Compression} {codec : Codec}
    (opens : compression.Opens files codec) {path : String} :
    Turn.Opens ⟨files, compression⟩ path ↔
      placeOf (compression.target codec) = placeOf path := by
  constructor
  · rintro ⟨other, other_opens, same⟩
    cases opens.built.symm.trans other_opens.built
    exact same
  · exact fun same => ⟨codec, opens, same⟩

/-- Several compressions keep to their files: no name ends with the extension of configurations,
no file is compressed that any of them writes as the compressed file, and no log file, where there
are any, is one of these files. -/
structure AreOrderly (compressions : List Compression) : Prop where
  /-- No file is a configuration. -/
  plain_input : ∀ one ∈ compressions, ∀ chunk, one.input ≠ sidecarOf chunk
  /-- No compressed file is a configuration. -/
  plain_target : ∀ one ∈ compressions, ∀ codec, one.choice.build.result = .ok codec →
    ∀ chunk, one.target codec ≠ sidecarOf chunk
  /-- No log file is a configuration. -/
  plain_log : ∀ one ∈ compressions, ∀ log, one.reporting.logPath = some log →
    ∀ chunk, log ≠ sidecarOf chunk
  /-- No file is a compressed file. -/
  input_apart : ∀ one ∈ compressions, ∀ other ∈ compressions, ∀ codec,
    other.choice.build.result = .ok codec → placeOf one.input ≠ placeOf (other.target codec)
  /-- No file is a log file. -/
  input_unlogged : ∀ one ∈ compressions, ∀ other ∈ compressions,
    ¬ other.LogsTo (placeOf one.input)
  /-- No compressed file is a log file. -/
  target_unlogged : ∀ one ∈ compressions, ∀ codec, one.choice.build.result = .ok codec →
    ∀ other ∈ compressions, ¬ other.LogsTo (placeOf (one.target codec))

/-- No directory is in the place of a configuration. -/
def FileSystem.IsFree (files : FileSystem) : Prop :=
  ∀ path, files.standing (sidecarOf path) ≠ .directory

/-- A compression makes no directory and removes no file. -/
theorem Compression.extends_run (backing : Backing) (files : FileSystem)
    (compression : Compression) :
    files.Extends (Command.run backing files compression.command).files := by
  have extending : (Action.ofCommand backing compression.command).Extending :=
    (Action.extending_prepare compression.reporting).bind fun _ =>
      Action.extending_compress backing _ _ _
  rcases Action.yields_or_fails (Action.ofCommand backing compression.command)
    (Command.desk files) with ⟨shown, after, yields⟩ | ⟨after, fails⟩
  · rw [Command.run_of_yields yields]
    exact extending _ _ (.inl ⟨shown, yields⟩)
  · obtain ⟨fault, ran⟩ := Command.exists_run_of_fails fails
    rw [ran]
    exact extending _ _ (.inr fails)

/-- No compression puts a directory in the place of a configuration. -/
theorem FileSystem.IsFree.run (free : files.IsFree) (backing : Backing)
    (compression : Compression) :
    (Command.run backing files compression.command).files.IsFree := by
  intro path found
  exact free path ((compression.extends_run backing files).standing_of_directory found)

/-- No compressions put a directory in the place of a configuration. -/
theorem FileSystem.IsFree.runEach (free : files.IsFree) (backing : Backing)
    (compressions : List Compression) : (runEach backing files compressions).IsFree := by
  induction compressions generalizing files with
  | nil => exact free
  | cons compression later inductionHypothesis =>
    exact inductionHypothesis (free.run backing compression)

/-- Of the turns that store a chunk under a path one is the last. What comes after it begins with
the files that it leaves. -/
theorem exists_last_stores {all compressions : List Compression}
    (members : ∀ compression ∈ compressions, compression ∈ all) (free : files.IsFree)
    {path : String} (stored : ∃ turn ∈ turns backing files compressions, turn.Stores backing path) :
    ∃ earlier turn rest, turns backing files compressions =
        earlier ++ turn :: turns backing (turn.outcome backing).files rest ∧
      turn.compression ∈ all ∧ turn.files.IsFree ∧ turn.Stores backing path ∧
      (∀ compression ∈ rest, compression ∈ all) ∧
      (∀ other ∈ turns backing (turn.outcome backing).files rest, ¬ other.Stores backing path) ∧
      runEach backing files compressions = runEach backing (turn.outcome backing).files rest := by
  induction compressions generalizing files with
  | nil =>
    obtain ⟨_, taken, _⟩ := stored
    cases taken
  | cons compression later inductionHypothesis =>
    obtain ⟨member, others⟩ := List.forall_mem_cons.mp members
    by_cases again : ∃ turn ∈ turns backing
        (Command.run backing files compression.command).files later, turn.Stores backing path
    · obtain ⟨earlier, turn, rest, split, facts⟩ :=
        inductionHypothesis others (free.run backing compression) again
      refine ⟨⟨files, compression⟩ :: earlier, turn, rest, ?_, facts⟩
      rw [turns, split, List.cons_append]
    · obtain ⟨turn, taken, stores⟩ := stored
      have first : turn = ⟨files, compression⟩ := by
        rcases List.mem_cons.mp taken with first | taken_later
        · exact first
        · exact absurd ⟨turn, taken_later, stores⟩ again
      subst first
      refine ⟨[], ⟨files, compression⟩, later, rfl, member, free, stores, others, ?_, rfl⟩
      intro other taken_later stores_again
      exact again ⟨other, taken_later, stores_again⟩

/-- A configuration that is there can be read, where no directory is in its place. -/
theorem FileSystem.IsFree.exists_read (free : files.IsFree) {path : String}
    (present : files.isPresent (sidecarOf path) = true) :
    ∃ document, files.read (sidecarOf path) = .ok document := by
  rw [FileSystem.isPresent] at present
  split at present
  · next document found => exact ⟨document, FileSystem.read_eq_ok_iff.mpr found⟩
  · next found => exact absurd found (free path)
  · cases present

/-- A chunk can be reached if its configuration can be. -/
theorem FileSystem.IsPassable.of_sidecarOf {path : String} (file : namesDirectory path = false)
    (passable : files.IsPassable (sidecarOf path)) : files.IsPassable path := by
  constructor
  · rintro rfl
    cases file
  · rw [← detoursOf_sidecarOf file]
    exact passable.2

section Orderly

variable {all : List Compression} (orderly : AreOrderly all)

include orderly

/-- Each of several orderly compressions is orderly. -/
theorem AreOrderly.isOrderly {compression : Compression} (member : compression ∈ all) :
    compression.IsOrderly where
  plain_input := orderly.plain_input compression member
  different := fun codec built =>
    orderly.input_apart compression member compression member codec built
  plain_log := orderly.plain_log compression member
  input_unlogged := orderly.input_unlogged compression member compression member
  target_unlogged := fun codec built =>
    orderly.target_unlogged compression member codec built compression member

/-- What comes of one of several orderly compressions. -/
theorem AreOrderly.comesTo {compression : Compression} (member : compression ∈ all)
    (free : files.IsFree) :
    compression.ComesTo backing files (Command.run backing files compression.command) :=
  Compression.comesTo (orderly.isOrderly member) free

/-- A compressed file that is opened is in no place of a configuration. -/
theorem AreOrderly.target_ne_sidecar {compression : Compression} (member : compression ∈ all)
    {codec : Codec} (opens : compression.Opens files codec) (path : String) :
    placeOf (sidecarOf path) ≠ placeOf (compression.target codec) :=
  (placeOf_ne_sidecarOf opens.writable.2
    (orderly.plain_target compression member codec opens.built) path).symm

/-- A file that is compressed is left by all of the compressions. -/
theorem AreOrderly.read_input_of_run {one compression : Compression} (one_member : one ∈ all)
    (member : compression ∈ all) (free : files.IsFree) {content : Bytes}
    (read : (Command.run backing files compression.command).files.read one.input = .ok content) :
    files.read one.input = .ok content := by
  have file := FileSystem.namesDirectory_of_file (FileSystem.read_eq_ok_iff.mp read)
  have beside := placeOf_ne_sidecarOf file (orderly.plain_input one one_member)
  have unlogged := orderly.input_unlogged one one_member compression member
  have apart := orderly.input_apart one one_member compression member
  cases orderly.comesTo member free with
  | refused _ _ spares => exact (spares.read_iff unlogged).mp read
  | emptied opens _ _ spares =>
    exact (spares.read_iff (not_or.mpr ⟨apart _ opens.built, unlogged⟩)).mp read
  | stored opens _ _ _ _ _ spares =>
    exact (spares.read_iff (not_or.mpr
      ⟨apart _ opens.built, not_or.mpr ⟨beside _, unlogged⟩⟩)).mp read

/-- A file that a turn finds was there at the beginning. -/
theorem AreOrderly.read_input_of_turn {one : Compression} (one_member : one ∈ all)
    {compressions : List Compression} (members : ∀ compression ∈ compressions, compression ∈ all)
    (free : files.IsFree) {turn : Turn} (taken : turn ∈ turns backing files compressions)
    {content : Bytes} (read : turn.files.read one.input = .ok content) :
    files.read one.input = .ok content := by
  induction compressions generalizing files with
  | nil => cases taken
  | cons compression later inductionHypothesis =>
    obtain ⟨member, others⟩ := List.forall_mem_cons.mp members
    rcases List.mem_cons.mp taken with rfl | taken_later
    · exact read
    · exact orderly.read_input_of_run one_member member free
        (inductionHypothesis others (free.run backing compression) taken_later)

/-- A configuration that is there after a compression was there before, unless the compression
stored the chunk beside it. -/
theorem AreOrderly.stores_of_present {compression : Compression} (member : compression ∈ all)
    (free : files.IsFree) {path : String}
    (present : (Command.run backing files compression.command).files.isPresent (sidecarOf path) =
      true) : files.isPresent (sidecarOf path) = true ∨
        Turn.Stores ⟨files, compression⟩ backing path ∧ namesDirectory path = false := by
  have unlogged := (orderly.isOrderly member).not_logsTo_sidecarOf path
  obtain ⟨document, held⟩ := (free.run backing compression).exists_read present
  have kept {changed : Place → Prop} (spares : FileSystem.Spares changed files
      (Command.run backing files compression.command).files)
      (untouched : ¬ changed (placeOf (sidecarOf path))) :
      files.isPresent (sidecarOf path) = true := by
    have read := (spares.read_iff untouched).mp held
    rw [FileSystem.isPresent, FileSystem.read_eq_ok_iff.mp read]
  cases orderly.comesTo member free with
  | refused _ _ spares => exact .inl (kept spares unlogged)
  | emptied opens _ _ spares =>
    exact .inl (kept spares (not_or.mpr ⟨orderly.target_ne_sidecar member opens path, unlogged⟩))
  | @stored codec _ _ opens succeeded _ _ _ _ spares =>
    by_cases same : placeOf (sidecarOf path) = placeOf (sidecarOf (compression.target codec))
    · obtain ⟨file, place⟩ := placeOf_eq_of_sidecarOf opens.writable.2 same.symm
      exact .inr ⟨⟨codec, _, opens.built, place.symm, succeeded⟩, file⟩
    · exact .inl (kept spares (not_or.mpr
        ⟨orderly.target_ne_sidecar member opens path, not_or.mpr ⟨same, unlogged⟩⟩))

/-- A configuration that is there in the end was there at the beginning, unless a turn stored the
chunk beside it. -/
theorem AreOrderly.exists_stores_of_present {compressions : List Compression}
    (members : ∀ compression ∈ compressions, compression ∈ all) (free : files.IsFree)
    {path : String}
    (present : (runEach backing files compressions).isPresent (sidecarOf path) = true) :
    files.isPresent (sidecarOf path) = true ∨
      (∃ turn ∈ turns backing files compressions, turn.Stores backing path) ∧
        namesDirectory path = false := by
  induction compressions generalizing files with
  | nil => exact .inl present
  | cons compression later inductionHypothesis =>
    obtain ⟨member, others⟩ := List.forall_mem_cons.mp members
    rcases inductionHypothesis others (free.run backing compression) present with
      before | ⟨⟨turn, taken, stores⟩, file⟩
    · rcases orderly.stores_of_present member free before with earlier | ⟨stores, file⟩
      · exact .inl earlier
      · exact .inr ⟨⟨_, List.mem_cons_self, stores⟩, file⟩
    · exact .inr ⟨⟨turn, List.mem_cons_of_mem _ taken, stores⟩, file⟩

/-- A compression that stores no chunk under a path keeps the configuration there. It keeps the
chunk as well, unless it opens it, and then it leaves it empty. -/
theorem AreOrderly.read_of_run {compression : Compression} (member : compression ∈ all)
    (free : files.IsFree) {path : String} (plain : ∀ chunk, path ≠ sidecarOf chunk)
    (unlogged : ¬ compression.LogsTo (placeOf path))
    (unstored : ¬ Turn.Stores ⟨files, compression⟩ backing path) {encoded document : Bytes}
    (chunk : files.read path = .ok encoded) (sidecar : files.read (sidecarOf path) = .ok document) :
    (Command.run backing files compression.command).files.read (sidecarOf path) = .ok document ∧
      (¬ Turn.Opens ⟨files, compression⟩ path →
        (Command.run backing files compression.command).files.read path = .ok encoded) ∧
      (Turn.Opens ⟨files, compression⟩ path →
        (Command.run backing files compression.command).files.read path = .ok []) := by
  have found := FileSystem.read_eq_ok_iff.mp chunk
  have file := FileSystem.namesDirectory_of_file found
  have opened : (files.standing path).IsOpen := by
    rw [found]
    trivial
  have passable := ((compression.extends_run backing files).isPassable_iff).mpr
    (FileSystem.isOpen_of_standing opened).1
  have sidecar_unlogged := (orderly.isOrderly member).not_logsTo_sidecarOf path
  cases orderly.comesTo member free with
  | refused unopened _ spares =>
    refine ⟨spares.read sidecar_unlogged sidecar, fun _ => spares.read unlogged chunk, ?_⟩
    rintro ⟨codec, opens, _⟩
    exact absurd opens (unopened codec)
  | emptied opens _ emptied spares =>
    rw [opens.opens_iff]
    have target_beside := orderly.target_ne_sidecar member opens path
    refine ⟨spares.read (not_or.mpr ⟨target_beside, sidecar_unlogged⟩) sidecar, ?_, ?_⟩
    · intro other
      exact spares.read (not_or.mpr ⟨fun same => other same.symm, unlogged⟩) chunk
    · intro same
      exact FileSystem.read_of_place emptied same.symm passable file
  | @stored codec _ _ opens succeeded _ _ _ _ spares =>
    have other : placeOf path ≠ placeOf (compression.target codec) := by
      intro same
      exact unstored ⟨codec, _, opens.built, same.symm, succeeded⟩
    have sidecar_other :
        placeOf (sidecarOf path) ≠ placeOf (sidecarOf (compression.target codec)) := by
      intro same
      exact other (placeOf_eq_of_sidecarOf file same).2.symm
    have target_beside := orderly.target_ne_sidecar member opens path
    have beside := placeOf_ne_sidecarOf file plain (compression.target codec)
    rw [opens.opens_iff]
    refine ⟨?_, fun _ => ?_, fun same => absurd same.symm other⟩
    · exact spares.read
        (not_or.mpr ⟨target_beside, not_or.mpr ⟨sidecar_other, sidecar_unlogged⟩⟩) sidecar
    · exact spares.read (not_or.mpr ⟨other, not_or.mpr ⟨beside, unlogged⟩⟩) chunk

/-- Compressions that store no chunk under a path keep the configuration there. They keep the chunk
as well, unless one of them opens it, and then it is empty in the end. -/
theorem AreOrderly.read_of_runEach {compressions : List Compression}
    (members : ∀ compression ∈ compressions, compression ∈ all) (free : files.IsFree)
    {path : String} (plain : ∀ chunk, path ≠ sidecarOf chunk)
    (unlogged : ∀ compression ∈ all, ¬ compression.LogsTo (placeOf path))
    (unstored : ∀ turn ∈ turns backing files compressions, ¬ turn.Stores backing path)
    {encoded document : Bytes} (chunk : files.read path = .ok encoded)
    (sidecar : files.read (sidecarOf path) = .ok document) :
    (runEach backing files compressions).read (sidecarOf path) = .ok document ∧
      ((∀ turn ∈ turns backing files compressions, ¬ turn.Opens path) →
        (runEach backing files compressions).read path = .ok encoded) ∧
      ((∃ turn ∈ turns backing files compressions, turn.Opens path) →
        (runEach backing files compressions).read path = .ok []) := by
  induction compressions generalizing files encoded with
  | nil =>
    refine ⟨sidecar, fun _ => chunk, ?_⟩
    rintro ⟨_, taken, _⟩
    cases taken
  | cons compression later inductionHypothesis =>
    obtain ⟨member, others⟩ := List.forall_mem_cons.mp members
    obtain ⟨first_unstored, others_unstored⟩ := List.forall_mem_cons.mp unstored
    obtain ⟨kept_sidecar, kept, emptied⟩ := orderly.read_of_run member free plain
      (unlogged compression member) first_unstored chunk sidecar
    have continues {found : Bytes} (held :
        (Command.run backing files compression.command).files.read path = .ok found) :=
      inductionHypothesis others (free.run backing compression) others_unstored held kept_sidecar
    by_cases opens : Turn.Opens ⟨files, compression⟩ path
    · obtain ⟨last_sidecar, unopened, opened⟩ := continues (emptied opens)
      refine ⟨last_sidecar, fun none_opens => absurd opens (none_opens _ List.mem_cons_self), ?_⟩
      intro _
      -- A chunk that is emptied stays empty, whether it is opened again or not.
      by_cases again : ∃ turn ∈ turns backing
          (Command.run backing files compression.command).files later, turn.Opens path
      · exact opened again
      · exact unopened fun turn taken opens_again => again ⟨turn, taken, opens_again⟩
    · obtain ⟨last_sidecar, unopened, opened⟩ := continues (kept opens)
      refine ⟨last_sidecar, fun none_opens => unopened fun turn taken => ?_, ?_⟩
      · exact none_opens turn (List.mem_cons_of_mem _ taken)
      · rintro ⟨turn, taken, opens_later⟩
        rcases List.mem_cons.mp taken with rfl | taken_later
        · exact absurd opens_later opens
        · exact opened ⟨turn, taken_later, opens_later⟩

/-- Compressions that store no chunk at the place of a compressed file keep its configuration under
every path to the place. They keep the chunk as well, unless one of them opens it, and then it is
empty in the end. -/
theorem AreOrderly.read_of_place {stored : Compression} (member : stored ∈ all) {codec : Codec}
    (built : stored.choice.build.result = .ok codec)
    (target_file : namesDirectory (stored.target codec) = false) {rest : List Compression}
    (members : ∀ compression ∈ rest, compression ∈ all) (free : files.IsFree) {path : String}
    (place : placeOf (stored.target codec) = placeOf path) (file : namesDirectory path = false)
    (unstored : ∀ turn ∈ turns backing files rest, ¬ turn.Stores backing path)
    {encoded document : Bytes} (chunk : files.read (stored.target codec) = .ok encoded)
    (sidecar : files.read (sidecarOf (stored.target codec)) = .ok document)
    (present : (runEach backing files rest).isPresent (sidecarOf path) = true) :
    (runEach backing files rest).read (sidecarOf path) = .ok document ∧
      ((∀ turn ∈ turns backing files rest, ¬ turn.Opens path) →
        (runEach backing files rest).read path = .ok encoded) ∧
      ((∃ turn ∈ turns backing files rest, turn.Opens path) →
        (runEach backing files rest).read path = .ok []) := by
  have same_opens (turn : Turn) : turn.Opens (stored.target codec) ↔ turn.Opens path := by
    simp only [Turn.Opens, place]
  have target_unstored : ∀ turn ∈ turns backing files rest,
      ¬ turn.Stores backing (stored.target codec) := by
    rintro turn taken ⟨other, shown, other_built, other_place, succeeded⟩
    exact unstored turn taken ⟨other, shown, other_built, other_place.trans place, succeeded⟩
  obtain ⟨kept_sidecar, kept, emptied⟩ := orderly.read_of_runEach members free
    (orderly.plain_target stored member codec built)
    (orderly.target_unlogged stored member codec built) target_unstored chunk sidecar
  simp only [same_opens] at kept emptied
  -- The configuration is there, so its path leads to its place, and so does the path of the chunk.
  obtain ⟨found, read⟩ := (free.runEach backing rest).exists_read present
  have sidecar_passable : (runEach backing files rest).IsPassable (sidecarOf path) := by
    apply (FileSystem.isOpen_of_standing _).1
    rw [FileSystem.read_eq_ok_iff.mp read]
    trivial
  have passable := sidecar_passable.of_sidecarOf file
  refine ⟨?_, fun unopened => ?_, fun opened => ?_⟩
  · exact FileSystem.read_of_place kept_sidecar (placeOf_sidecarOf_eq file target_file place.symm)
      sidecar_passable (namesDirectory_sidecarOf path)
  · exact FileSystem.read_of_place (kept unopened) place.symm passable file
  · exact FileSystem.read_of_place (emptied opened) place.symm passable file

end Orderly

end ChunkCodecs
