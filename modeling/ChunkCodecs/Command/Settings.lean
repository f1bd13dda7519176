import ChunkCodecs.Options

/-!
# Settings of a command

A command is told which codec to use: the name of a compressor, and its options as a
dictionary or as a text. It is also told what to record: how weighty a record has to
be, and the file to which records are written; verbosity overrides the level.

Settings are given by name and have standard values. They are kept as they are given;
a codec is built only when one is asked for.
-/

namespace ChunkCodecs

/-- Which codec to use. -/
structure CodecChoice where
  /-- The name of the compressor. -/
  compressor : Value
  /-- The options of the compressor. -/
  options : Value

namespace CodecChoice

/-- The standard choice. -/
def standard : CodecChoice := ⟨.text CodecId.standard.name, .dict []⟩

/-- A choice in which options that are given as a text are read. -/
def make (compressor options : Value) : Except Fault CodecChoice :=
  match options.text? with
  | some text => (Options.read text).map fun entries => ⟨compressor, .dict entries⟩
  | none => .ok ⟨compressor, options⟩

/-- The properties that are chosen: the name of the compressor, unless the options
hold another one, and the options. -/
def properties (choice : CodecChoice) : Except Fault Properties :=
  match choice.options with
  | .dict entries => .ok (Properties.update [(.text "id", choice.compressor)] entries)
  | other => .error (.foreign (.notMapping other.typeName))

/-- Build the chosen codec. -/
def build (choice : CodecChoice) : Logged Codec :=
  match choice.properties with
  | .ok properties => Codec.ofProperties properties
  | .error fault => ⟨[], .error fault⟩

end CodecChoice

/-- What a command records, and where. -/
structure Reporting where
  /-- The name of the least level that is recorded. -/
  level : Value
  /-- The file to which records are written. -/
  file : Value
  /-- Whether everything is recorded. -/
  verbose : Value

namespace Reporting

/-- The standard reporting: nothing below the second level, and no file. -/
def standard : Reporting := ⟨.text Level.info.name, .none, .bool false⟩

/-- The names of the settings. -/
def names : List String := ["log_level", "log_file", "verbose"]

/-- Reporting in which verbosity has set the level. -/
def settle (reporting : Reporting) : Reporting :=
  if reporting.verbose.isTruthy then { reporting with level := .text Level.debug.name }
  else reporting

/-- The reporting that options by name ask for. -/
def ofOptions (options : Properties) : Except Fault Reporting :=
  let known := names.map Value.text
  match options.keys.find? fun key => !known.any fun name => name.sameKey key with
  | some unknown =>
    .error (.foreign (.badCall (match unknown.text? with
      | some name =>
        "GeneralConfig.__init__() got an unexpected keyword argument '" ++ name ++ "'"
      | none => "keywords must be strings")))
  | none =>
    .ok (settle ⟨(options.lookup "log_level").getD standard.level,
      (options.lookup "log_file").getD standard.file,
      (options.lookup "verbose").getD standard.verbose⟩)

end Reporting

end ChunkCodecs
