/-!
# Names of files

A compressed chunk is written beside the raw one, under its name with the identifier
of the codec as a further extension; its configuration is written beside it, under
its name with an extension of its own. Uncompressing takes the last extension away
again, or adds one where there is none.

An extension begins at the last point of the last name of a path, unless there are
only points before it: the points that a name begins with are part of the name.
-/

namespace ChunkCodecs

/-- The extension of the file that holds the configuration of a chunk. -/
def sidecarExtension : String := ".json"

/-- The path of the file that holds the configuration of the chunk under a path. -/
def sidecarOf (path : String) : String := path ++ sidecarExtension

/-- Split the extension from a path. -/
def splitExtension (path : List Char) : List Char × List Char :=
  let backwards := path.reverse
  let inExtension (c : Char) : Bool := c != '.' && c != '/'
  let tail := backwards.takeWhile inExtension
  match backwards.dropWhile inExtension with
  | '.' :: before =>
    if (before.takeWhile (· != '/')).any (· != '.') then (before.reverse, '.' :: tail.reverse)
    else (path, [])
  | _ => (path, [])

/-- The path under which the chunk of a file is compressed, unless another is given. -/
def compressedName (input identifier : String) : String := input ++ "." ++ identifier

/-- The path under which a compressed chunk is uncompressed, unless another is given. -/
def uncompressedName (input : String) : String :=
  match splitExtension input.toList with
  | (_, []) => input ++ ".raw"
  | (base, _) => String.ofList base

/-- Splitting an extension loses nothing. -/
theorem splitExtension_append (path : List Char) :
    (splitExtension path).1 ++ (splitExtension path).2 = path := by
  simp only [splitExtension]
  split
  · rename_i before found
    split
    · have whole : path.reverse =
          path.reverse.takeWhile (fun c => c != '.' && c != '/') ++ '.' :: before := by
        rw [← found]
        exact List.takeWhile_append_dropWhile.symm
      have forwards := congrArg List.reverse whole
      simpa using forwards.symm
    · simp
  · simp

end ChunkCodecs
