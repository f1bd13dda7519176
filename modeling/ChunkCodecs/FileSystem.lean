import ChunkCodecs.Fault

/-!
# Files

Files are bytes under places. A path is followed name by name, from the root if it
begins there: empty names and single points stay where they are, two points go back to
the directory above, and every other name goes on. Paths that differ in such steps only
name the same file, but a directory that is left by going back has to be there.

A file can be read if it is there, and written if the directory that it is in is
there. What is put at a place is found there, and nothing else changes.
-/

namespace ChunkCodecs

/-- The names on the way to a file or a directory. -/
abbrev Place := List (List Char)

/-- The texts between slashes. -/
def splitAtSlashes : List Char → List (List Char)
  | [] => [[]]
  | c :: rest =>
    if c = '/' then [] :: splitAtSlashes rest
    else match splitAtSlashes rest with
      | name :: names => (c :: name) :: names
      | [] => [[c]]

/-- Whether a text between slashes stays where it is. -/
def staysInPlace (name : List Char) : Bool := name = [] || name = ['.']

/-- Whether a text between slashes goes back to the directory above. -/
def goesBack (name : List Char) : Bool := name = ['.', '.']

/-- The place above a place. The root is above itself; what is above the place where
paths begin is named by going back. -/
def placeAbove (place : Place) : Place :=
  if place = [['/']] then place
  else match place.getLast? with
    | none => [['.', '.']]
    | some name => if goesBack name then place ++ [name] else place.dropLast

/-- Follow names from a place: the place that they lead to, and the places that are
left by going back. -/
def follow : Place → List (List Char) → Place × List Place
  | place, [] => (place, [])
  | place, name :: names =>
    if goesBack name then
      let (reached, left) := follow (placeAbove place) names
      (reached, place :: left)
    else follow (place ++ [name]) names

/-- The place that a path leads to, and the places that it leaves by going back. -/
def route (path : String) : Place × List Place :=
  let characters := path.toList
  let names := (splitAtSlashes characters).filter fun name => !staysInPlace name
  follow (if characters.head? = some '/' then [['/']] else []) names

/-- The place that a path names. -/
def placeOf (path : String) : Place := (route path).1

/-- The places that have to be directories for a path to lead anywhere. -/
def detoursOf (path : String) : List Place := (route path).2

/-- Whether a path can name nothing but a directory. -/
def namesDirectory (path : String) : Bool :=
  match (splitAtSlashes path.toList).getLast? with
  | some name => staysInPlace name || goesBack name
  | none => false

/-- The files and the directories that are known to be there. -/
structure FileSystem where
  /-- The contents of the files. -/
  files : List (Place × Bytes)
  /-- Directories, whether they hold files or not. -/
  directories : List Place

namespace FileSystem

/-- Whether one place is on the way to another. -/
def isAbove (upper lower : Place) : Bool := upper.isPrefixOf lower && upper != lower

/-- The content of the file at a place. -/
def contentAt (system : FileSystem) (place : Place) : Option Bytes := system.files.lookup place

/-- Whether there is a directory at a place: where paths begin, on the way to a known
directory, or on the way to a file. -/
def hasDirectory (system : FileSystem) (place : Place) : Bool :=
  place.isEmpty || (system.directories.any fun known => place.isPrefixOf known) ||
    system.files.any fun file => isAbove place file.1

/-- Whether a file is on the way to a place. -/
def isBlocked (system : FileSystem) (place : Place) : Bool :=
  system.files.any fun file => isAbove file.1 place

/-- What is found under a path. -/
inductive Standing where
  /-- A file. -/
  | file (content : Bytes)
  /-- A directory. -/
  | directory
  /-- A file stands where a directory would have to be. -/
  | blocked
  /-- Nothing, in a directory that is there. -/
  | vacant
  /-- Nothing, and no directory that it could be in. -/
  | unreachable

/-- Whether a file stands at a place or on the way to it. -/
def isFileOrBlocked (system : FileSystem) (place : Place) : Bool :=
  system.isBlocked place || (system.contentAt place).isSome

/-- What is found at a place, under a path that may name a directory only. -/
def standingAt (system : FileSystem) (place : Place) (directoryOnly : Bool) : Standing :=
  if system.isBlocked place then .blocked
  else match system.contentAt place with
    | some content => if directoryOnly then .blocked else .file content
    | none =>
      if system.hasDirectory place then .directory
      else if system.hasDirectory place.dropLast then .vacant
      else .unreachable

/-- What is found under a path. The empty path leads nowhere, and so does a path that
leaves a directory that is not there. -/
def standing (system : FileSystem) (path : String) : Standing :=
  if path = "" then .unreachable
  else match (detoursOf path).find? fun place => !system.hasDirectory place with
    | some place => if system.isFileOrBlocked place then .blocked else .unreachable
    | none => system.standingAt (placeOf path) (namesDirectory path)

/-- Whether anything is found under a path. -/
def isPresent (system : FileSystem) (path : String) : Bool :=
  match system.standing path with
  | .file _ | .directory => true
  | _ => false

/-- The content of the file under a path. -/
def read (system : FileSystem) (path : String) : Except ForeignFault Bytes :=
  match system.standing path with
  | .file content => .ok content
  | .directory => .error (.directory path)
  | .blocked => .error (.notDirectory path)
  | .vacant | .unreachable => .error (.noSuchFile path)

/-- Files with the given content at a place: in its position if there is a file at the
place, else at the end. -/
def put (files : List (Place × Bytes)) (place : Place) (content : Bytes) : List (Place × Bytes) :=
  match files with
  | [] => [(place, content)]
  | file :: rest =>
    if file.1 = place then (place, content) :: rest else file :: put rest place content

/-- The files after the file under a path has been given a content. -/
def write (system : FileSystem) (path : String) (content : Bytes) :
    Except ForeignFault FileSystem :=
  let written : FileSystem := { system with files := put system.files (placeOf path) content }
  match system.standing path with
  | .file _ => .ok written
  | .vacant => if namesDirectory path then .error (.directory path) else .ok written
  | .directory => .error (.directory path)
  | .blocked => .error (.notDirectory path)
  | .unreachable => .error (.noSuchFile path)

/-- What is put at a place is found there. -/
theorem lookup_put_self (files : List (Place × Bytes)) (place : Place) (content : Bytes) :
    (put files place content).lookup place = some content := by
  induction files with
  | nil => simp [put]
  | cons file rest inductionHypothesis =>
    obtain ⟨key, value⟩ := file
    by_cases same : key = place
    · simp [put, same]
    · have different : (place == key) = false := by simpa using fun equal => same equal.symm
      simp [put, same, List.lookup_cons, different, inductionHypothesis]

/-- What is put at a place changes no other place. -/
theorem lookup_put_of_ne (files : List (Place × Bytes)) {place other : Place} (content : Bytes)
    (different : other ≠ place) : (put files place content).lookup other = files.lookup other := by
  have unequal : (other == place) = false := by simpa using different
  induction files with
  | nil => simp [put, List.lookup_cons, unequal]
  | cons file rest inductionHypothesis =>
    obtain ⟨key, value⟩ := file
    by_cases same : key = place
    · subst same
      simp [put, List.lookup_cons, unequal]
    · simp [put, same, List.lookup_cons, inductionHypothesis]

end FileSystem

end ChunkCodecs
