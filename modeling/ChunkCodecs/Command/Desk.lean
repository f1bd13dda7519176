import ChunkCodecs.Codec.Create
import ChunkCodecs.FileSystem
import ChunkCodecs.Journal
import ChunkCodecs.Text.Utf8
import ChunkCodecs.Transfer

/-!
# The desk of a command

While a command runs it has the files before it, and a journal that keeps the records
of at least one level; each record that is kept is also added as a line to the log
file, if there is one. Whatever a command does is a sequence of actions on its desk,
and the first one that fails ends it: what was done before stays done.
-/

namespace ChunkCodecs

/-- Which records are kept, and where they are written. -/
structure Log where
  /-- The least level of a record that is kept. -/
  least : Level
  /-- The path of the file to which records are added. -/
  path : Option String

/-- What a command works on. -/
structure Desk where
  /-- The files. -/
  files : FileSystem
  /-- The records that were kept, the first one made first. -/
  journal : Journal
  /-- Which records are kept, and where they are written. -/
  log : Log

/-- A record as a line. -/
def Record.line (entry : Record) : String :=
  entry.reporter.name ++ " - " ++ entry.level.label ++ " - " ++ entry.text ++ "\n"

/-- Files after the bytes were added to the end of one of them. -/
def FileSystem.append (files : FileSystem) (path : String) (addition : Bytes) :
    Except ForeignFault FileSystem :=
  match files.standing path with
  | .file content => files.write path (content ++ addition)
  | _ => files.write path addition

/-- The desk after a record was made. -/
def Desk.add (desk : Desk) (entry : Record) : Desk :=
  if entry.level.rank < desk.log.least.rank then desk
  else
    let files := match desk.log.path with
      | none => desk.files
      | some path =>
        match desk.files.append path (Text.Utf8.encode entry.line.toList) with
        | .ok files => files
        | .error _ => desk.files
    { desk with files := files, journal := desk.journal ++ [entry] }

/-- A sequence of actions on a desk. -/
abbrev Action := EStateM Fault Desk

namespace Action

/-- Make a record. -/
def record (entry : Record) : Action Unit := modify fun desk => desk.add entry

/-- Make several records. -/
def recordAll (journal : Journal) : Action Unit := modify fun desk => journal.foldl Desk.add desk

/-- Record the course of the command. -/
def inform (text : String) : Action Unit := record ⟨.info, .commandLine, text⟩

/-- Give a result, or fail. -/
def ofExcept {α : Type} : Except Fault α → Action α
  | .ok result => pure result
  | .error fault => throw fault

/-- Record what an operation recorded, and give its result. -/
def perform {α : Type} (logged : Logged α) : Action α := do
  recordAll logged.journal
  ofExcept logged.result

/-- The content of a file. -/
def readFile (path : String) : Action Bytes := do
  let desk ← get
  ofExcept ((desk.files.read path).mapError Fault.foreign)

/-- Give a file a content. -/
def writeFile (path : String) (content : Bytes) : Action Unit := do
  let desk ← get
  let files ← ofExcept ((desk.files.write path content).mapError Fault.foreign)
  set { desk with files := files }

/-- Begin to add records to a file, which is made if it is not there. -/
def openLog (path : String) : Action Unit := do
  let desk ← get
  let files ← ofExcept ((desk.files.append path []).mapError Fault.foreign)
  set { desk with files := files, log := { desk.log with path := some path } }

/-- The size of a file. -/
def sizeOf (path : String) : Action Nat := List.length <$> readFile path

end Action

end ChunkCodecs
