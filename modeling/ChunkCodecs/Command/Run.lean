import ChunkCodecs.Codec.Flow
import ChunkCodecs.Command.Desk
import ChunkCodecs.Command.FileName
import ChunkCodecs.Command.Line
import ChunkCodecs.Document.Printer
import ChunkCodecs.Text.LineEnd

/-!
# Running commands

Compressing writes the compressed chunk and then, beside it, the configuration of the
codec; uncompressing takes the codec from that configuration if it is there, and else
from the settings of the command. The file that is written is emptied before the one
that is read is read, and keeps what was written when moving the chunk fails; the
configuration is written only after all went well.

A command shows the path that it has written, or what it was asked for. The outcome
of a command that fails says why, and has the files and the records as the failure
left them.
-/

namespace ChunkCodecs

namespace Action

/-- Prepare the journal and the log file. -/
def prepare (reporting : Reporting) : Action Unit := do
  let level := Level.all.find? fun level => reporting.level.text? == some level.name
  modify fun desk => { desk with log := { desk.log with least := level.getD .info } }
  match reporting.file.text? with
  | some path => if path = "" then pure () else openLog path
  | none => pure ()

/-- Move a chunk from one file to another. Both have to be accessible, and the second
one is emptied before anything is read from the first one, which may be the same. -/
def moveChunk (input output : String) (move : Source → Transfer) : Action Unit := do
  let _ ← readFile input
  writeFile output []
  let content ← readFile input
  let transfer := move (.ofBytes content)
  recordAll transfer.journal
  writeFile output transfer.written
  match transfer.failure with
  | none => pure ()
  | some fault => throw fault

/-- The value of the document in a file. -/
def readDocument (path : String) : Action Value := do
  let content ← readFile path
  match Text.Utf8.decode content with
  | .error failure => throw (.foreign (.notUtf8 failure.message))
  | .ok characters =>
    let text := String.ofList (Text.unifyLineEnds characters)
    ofExcept ((Document.read text).mapError fun failure => failure.toFault text)

/-- Compress a file. -/
def compress (backing : Backing) (input : String) (output : Option String)
    (choice : CodecChoice) : Action String := do
  let codec ← perform choice.build
  let target := match output with
    | some path => if path = "" then compressedName input codec.identifier else path
    | none => compressedName input codec.identifier
  inform ("Compressing " ++ input ++ " -> " ++ target ++ " (" ++ codec.describe ++ ")")
  moveChunk input target (codec.compress backing)
  let document := Document.chars (.indented 0) (.dict codec.configuration)
  writeFile (sidecarOf target) (Text.Utf8.encode document)
  let before ← sizeOf input
  let after ← sizeOf target
  inform s!"{before} -> {after} bytes"
  return target ++ "\n"

/-- The codec of a compressed file: that of its configuration, if it has one, or else
the chosen one. -/
def codecOf (input : String) (choice : CodecChoice) : Action Codec := do
  let sidecar := sidecarOf input
  let desk ← get
  if desk.files.isPresent sidecar then
    inform ("Reading codec configuration from " ++ sidecar)
    let document ← readDocument sidecar
    perform (Codec.create document [] [])
  else perform choice.build

/-- Uncompress a file. -/
def decompress (backing : Backing) (input : String) (output : Option String)
    (choice : CodecChoice) : Action String := do
  let codec ← codecOf input choice
  let target := output.getD (uncompressedName input)
  inform ("Uncompressing " ++ input ++ " -> " ++ target ++ " (" ++ codec.describe ++ ")")
  moveChunk input target (codec.uncompress backing)
  return target ++ "\n"

/-- A text with blanks before it, up to the given width. -/
def padLeft (width : Nat) (text : String) : String :=
  String.ofList (text.toList.leftpad width ' ')

/-- Show the header of a frame, one entry a line. -/
def info (input : String) : Action String := do
  let content ← readFile input
  let (part, _) := readPart (.ofBytes content) Blosc.headerSize "blosc header"
  let header ← ofExcept (part.bind Blosc.Header.ofBytes)
  return String.join (header.describe.map fun (key, value) =>
    padLeft 12 key.display ++ ": " ++ value.display ++ "\n")

/-- The codecs and the standard properties as one value. -/
def listing : Value :=
  .dict [(.text "codecs", .dict (CodecId.all.map fun scheme =>
      (.text scheme.name, .list (scheme.aliases.map Value.text)))),
    (.text "default", .dict Codec.standardProperties)]

/-- Show the codecs, one a line, and the standard properties. -/
def table : String :=
  String.join (CodecId.all.map fun scheme =>
    padLeft 10 scheme.name ++ "  aliases: " ++ ", ".intercalate scheme.aliases ++ "\n") ++
  "default: " ++ (Value.dict Codec.standardProperties).display ++ "\n"

/-- What a command does. It gives what the command shows. -/
def ofCommand (backing : Backing) : Command → Action String
  | .compress input output choice reporting => do
    prepare reporting
    compress backing input output choice
  | .decompress input output choice reporting => do
    prepare reporting
    decompress backing input output choice
  | .info input reporting => do
    prepare reporting
    info input
  | .codecs asDocument =>
    return if asDocument then Document.writeIndented listing ++ "\n" else table

end Action

/-- The paths of the files that a command may read or write. -/
def Command.paths : Command → List String
  | .compress input output _ reporting =>
    let target := CodecId.all.map fun scheme => compressedName input scheme.name
    let written := output.toList ++ target
    input :: written ++ written.map sidecarOf ++ reporting.file.text?.toList
  | .decompress input output _ reporting =>
    [input, sidecarOf input, output.getD (uncompressedName input)] ++ reporting.file.text?.toList
  | .info input reporting => input :: reporting.file.text?.toList
  | .codecs _ => []

/-- What came of a command. -/
structure Outcome where
  /-- The files afterwards. -/
  files : FileSystem
  /-- The records that were kept. -/
  journal : Journal
  /-- What is shown, or why the command failed. -/
  result : Except Fault String

/-- Run a command on files. -/
def Command.run (backing : Backing) (files : FileSystem) (command : Command) : Outcome :=
  match (Action.ofCommand backing command).run ⟨files, [], ⟨.info, none⟩⟩ with
  | .ok shown desk => ⟨desk.files, desk.journal, .ok shown⟩
  | .error fault desk => ⟨desk.files, desk.journal, .error fault⟩

end ChunkCodecs
