import ChunkCodecs.Blosc.Standard
import ChunkCodecs.Command.Run

/-!
# The program

The program reads a command line, runs the command on the files of the machine, and
shows what came of it. It brings the files that the command may touch to the desk of
the command and takes back those that have changed; the command itself is run by
`Command.run`. No service for raster images comes with the program.
-/

namespace ChunkCodecs.Program

/-- What is under a path of the machine: the content of a file, or a directory. -/
inductive Found where
  /-- A file. -/
  | file (content : Bytes)
  /-- A directory. -/
  | directory
  /-- Nothing that can be read. -/
  | nothing

/-- Look what is under a path of the machine. -/
def look (path : String) : IO Found := do
  try
    return .file (← IO.FS.readBinFile path).toList
  catch
    | .inappropriateType .. => return .directory
    | _ => return .nothing

/-- The path of a place. -/
def pathOf : Place → String
  | ['/'] :: names => "/" ++ "/".intercalate (names.map String.ofList)
  | [] => "."
  | names => "/".intercalate (names.map String.ofList)

/-- The files with what is under a path, above it, and where it goes back. -/
def bring (system : FileSystem) (path : String) : IO FileSystem := do
  let place := placeOf path
  let mut system := system
  for above in place.dropLast :: detoursOf path do
    match ← look (pathOf above) with
    | .directory => system := { system with directories := above :: system.directories }
    | _ => pure ()
  match ← look path with
  | .file content => return { system with files := FileSystem.put system.files place content }
  | .directory => return { system with directories := place :: system.directories }
  | .nothing => return system

/-- Write the files that are not as they were. -/
def takeBack (before after : FileSystem) : IO Unit :=
  for (place, content) in after.files do
    if before.contentAt place != some content then
      IO.FS.writeBinFile (pathOf place) (ByteArray.mk content.toArray)

/-- The libraries that come with the program. -/
def backing : Backing := ⟨some Blosc.Library.standard, none⟩

/-- Run the command of a command line; the result is the code with which the program
ends. -/
def run (tokens : List String) : IO UInt32 := do
  match Command.ofTokens? tokens with
  | none =>
    IO.eprintln "usage: chunk-codecs (compress | decompress | info | codecs) [SETTINGS]"
    return 2
  | some command =>
    let before ← command.paths.foldlM bring ⟨[], []⟩
    let outcome := command.run backing before
    takeBack before outcome.files
    for entry in outcome.journal do
      IO.eprint entry.line
    match outcome.result with
    | .ok shown =>
      IO.print shown
      return 0
    | .error fault =>
      IO.eprintln fault.message
      return 1

end ChunkCodecs.Program

/-- Run the program. -/
def main (tokens : List String) : IO UInt32 := ChunkCodecs.Program.run tokens
