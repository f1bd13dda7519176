import ChunkCodecs.FileSystem

/-!
# What writing a file leaves alone

A file is written in a directory that is there, so writing makes no directory, and the place
that is written is on the way to no other file. Hence a file that can be read or written under
one path can be read or written as before after files at other places were written, whichever
paths they were written under.
-/

namespace ChunkCodecs

namespace FileSystem

variable {system before after : FileSystem} {path : String} {content : Bytes} {place : Place}

/-- What is on the way to a place and not the place is on the way to what the place is in. -/
theorem prefix_dropLast_of_ne {upper lower : Place} (above : upper <+: lower)
    (other : upper ≠ lower) : upper <+: lower.dropLast := by
  apply List.prefix_of_prefix_length_le above lower.dropLast_prefix
  have unequal : upper.length ≠ lower.length := fun same => other (above.eq_of_length same)
  have shorter := above.length_le
  rw [List.length_dropLast]
  omega

/-- There is a directory where paths begin, on the way to a known directory, and on the way
to a file. -/
theorem hasDirectory_iff : system.hasDirectory place = true ↔
    place = [] ∨ (∃ known ∈ system.directories, place <+: known) ∨
      ∃ file ∈ system.files, place <+: file.1 ∧ place ≠ file.1 := by
  simp only [hasDirectory, isAbove, Bool.or_eq_true, List.isEmpty_iff, List.any_eq_true,
    Bool.and_eq_true, List.isPrefixOf_iff_prefix, bne_iff_ne, or_assoc]

/-- What is on the way to a directory is a directory. -/
theorem hasDirectory_above {upper lower : Place} (above : upper <+: lower)
    (there : system.hasDirectory lower = true) : system.hasDirectory upper = true := by
  rw [hasDirectory_iff] at there ⊢
  rcases there with rfl | ⟨known, member, lead⟩ | ⟨file, member, lead, other⟩
  · exact .inl (List.prefix_nil.mp above)
  · exact .inr (.inl ⟨known, member, above.trans lead⟩)
  · refine .inr (.inr ⟨file, member, above.trans lead, ?_⟩)
    rintro rfl
    exact other (lead.eq_of_length (Nat.le_antisymm lead.length_le above.length_le))

/-- A place is blocked by a file on the way to it. -/
theorem isBlocked_iff : system.isBlocked place = true ↔
    ∃ file ∈ system.files, file.1 <+: place ∧ file.1 ≠ place := by
  simp only [isBlocked, isAbove, List.any_eq_true, Bool.and_eq_true, List.isPrefixOf_iff_prefix,
    bne_iff_ne]

/-- A place where a file can be: the directory that it is in is there, no file is on the way,
and it is a file already or no directory. -/
structure IsOpen (system : FileSystem) (place : Place) : Prop where
  /-- The directory is there. -/
  directory : system.hasDirectory place.dropLast = true
  /-- No file is on the way. -/
  unblocked : system.isBlocked place = false
  /-- There is no directory unless there is a file. -/
  free : (∃ file ∈ system.files, file.1 = place) ∨ system.hasDirectory place = false

/-- What is put at a place is among the files, with all files at other places. -/
theorem exists_mem_put {files : List (Place × Bytes)} {other : Place} :
    (∃ file ∈ put files place content, file.1 = other) ↔
      other = place ∨ ∃ file ∈ files, file.1 = other := by
  induction files with
  | nil => simp [put, eq_comm]
  | cons file rest inductionHypothesis =>
    by_cases same : file.1 = place
    · rw [put, if_pos same]
      simp only [List.mem_cons, exists_eq_or_imp, same, @eq_comm _ place other, or_self_left]
    · rw [put, if_neg same]
      simp only [List.mem_cons, exists_eq_or_imp, inductionHypothesis, or_left_comm]

/-- The files after a content has been put at a place. -/
def putAt (system : FileSystem) (place : Place) (content : Bytes) : FileSystem :=
  { system with files := put system.files place content }

/-- Putting a file at an open place makes no directory.

Proof: what is on the way to the place is on the way to the directory that the place is in,
which is there. -/
theorem hasDirectory_putAt (opened : system.IsOpen place) (content : Bytes) (other : Place) :
    (system.putAt place content).hasDirectory other = system.hasDirectory other := by
  rw [Bool.eq_iff_iff]
  constructor
  · intro there
    rcases hasDirectory_iff.mp there with rfl | ⟨known, member, lead⟩ | ⟨file, member, lead, differs⟩
    · exact hasDirectory_iff.mpr (.inl rfl)
    · exact hasDirectory_iff.mpr (.inr (.inl ⟨known, member, lead⟩))
    · rcases exists_mem_put.mp ⟨file, member, rfl⟩ with new | ⟨old, present, same⟩
      · have upper : other <+: place.dropLast := by
          rw [new] at lead differs
          exact prefix_dropLast_of_ne lead differs
        exact hasDirectory_above upper opened.directory
      · exact hasDirectory_iff.mpr (.inr (.inr ⟨old, present, same ▸ lead, same ▸ differs⟩))
  · intro there
    rcases hasDirectory_iff.mp there with rfl | ⟨known, member, lead⟩ | ⟨file, member, lead, differs⟩
    · exact hasDirectory_iff.mpr (.inl rfl)
    · exact hasDirectory_iff.mpr (.inr (.inl ⟨known, member, lead⟩))
    · obtain ⟨kept, present, same⟩ := exists_mem_put.mpr (.inr ⟨file, member, rfl⟩)
      exact hasDirectory_iff.mpr (.inr (.inr ⟨kept, present, same ▸ lead, same ▸ differs⟩))

/-- Putting a file at an open place blocks nothing that is in a directory.

Proof: were the place on the way to such a place, it would be a file that blocks it already,
or a directory. -/
theorem isBlocked_putAt (opened : system.IsOpen place) (content : Bytes) {other : Place}
    (directory : system.hasDirectory other.dropLast = true)
    (unblocked : system.isBlocked other = false) :
    (system.putAt place content).isBlocked other = false := by
  rw [Bool.eq_false_iff] at unblocked ⊢
  intro blocked
  obtain ⟨file, member, lead, differs⟩ := isBlocked_iff.mp blocked
  rcases exists_mem_put.mp ⟨file, member, rfl⟩ with new | ⟨old, present, same⟩
  · rw [new] at lead differs
    rcases opened.free with ⟨old, present, same⟩ | vacant
    · exact unblocked (isBlocked_iff.mpr ⟨old, present, same ▸ lead, same ▸ differs⟩)
    · have upper := prefix_dropLast_of_ne lead differs
      rw [hasDirectory_above upper directory] at vacant
      cases vacant
  · exact unblocked (isBlocked_iff.mpr ⟨old, present, same ▸ lead, same ▸ differs⟩)

/-- A place that is open after a file was put at another one was open before. -/
theorem IsOpen.of_putAt (opened : system.IsOpen place) {other : Place} (different : other ≠ place)
    (later : (system.putAt place content).IsOpen other) : system.IsOpen other := by
  refine ⟨?_, ?_, ?_⟩
  · rw [← hasDirectory_putAt opened content]
    exact later.directory
  · rw [Bool.eq_false_iff]
    intro blocked
    obtain ⟨file, member, lead, differs⟩ := isBlocked_iff.mp blocked
    obtain ⟨kept, present, same⟩ := exists_mem_put.mpr (.inr ⟨file, member, rfl⟩)
    have still : (system.putAt place content).isBlocked other = true :=
      isBlocked_iff.mpr ⟨kept, present, same ▸ lead, same ▸ differs⟩
    exact Bool.eq_false_iff.mp later.unblocked still
  · rw [← hasDirectory_putAt opened content]
    rcases later.free with member | vacant
    · left
      exact (exists_mem_put.mp member).resolve_left different
    · exact .inr vacant

/-- A file is at a place if it has a content there. -/
theorem exists_mem_iff_contentAt : (∃ file ∈ system.files, file.1 = place) ↔
    ∃ found, system.contentAt place = some found := by
  rw [← Option.isSome_iff_exists, contentAt, List.lookup_isSome_iff]
  simp only [beq_iff_eq, @eq_comm _ place]

/-- What a file can be at an open place: a file, or nothing yet. -/
def Standing.IsOpen : Standing → Prop
  | .file _ | .vacant => True
  | _ => False

/-- Where a file is found, or could be, a file can be. -/
theorem isOpen_of_standingAt {directoryOnly : Bool}
    (opened : (system.standingAt place directoryOnly).IsOpen) : system.IsOpen place := by
  unfold standingAt at opened
  split at opened
  · exact opened.elim
  · rename_i unblocked
    rw [Bool.not_eq_true] at unblocked
    split at opened
    · rename_i found held
      obtain ⟨file, member, same⟩ := exists_mem_iff_contentAt.mpr ⟨found, held⟩
      refine ⟨?_, unblocked, .inl ⟨file, member, same⟩⟩
      by_cases start : place = []
      · rw [start]
        exact hasDirectory_iff.mpr (.inl rfl)
      · have shorter : place.dropLast ≠ place := by
          intro unchanged
          have lengths := congrArg List.length unchanged
          have positive := List.length_pos_iff.mpr start
          rw [List.length_dropLast] at lengths
          omega
        exact hasDirectory_iff.mpr
          (.inr (.inr ⟨file, member, same ▸ place.dropLast_prefix, same ▸ shorter⟩))
    · split at opened
      · exact opened.elim
      · rename_i vacant
        split at opened
        · rename_i directory
          exact ⟨directory, unblocked, .inr (Bool.not_eq_true _ ▸ vacant)⟩
        · exact opened.elim

/-- Putting a file at an open place leaves what is found at other open places. -/
theorem standingAt_putAt_of_ne (opened : system.IsOpen place) (content : Bytes) {other : Place}
    (otherOpened : system.IsOpen other) (different : other ≠ place) (directoryOnly : Bool) :
    (system.putAt place content).standingAt other directoryOnly =
      system.standingAt other directoryOnly := by
  have unblocked := isBlocked_putAt opened content otherOpened.directory otherOpened.unblocked
  have same : (system.putAt place content).contentAt other = system.contentAt other :=
    lookup_put_of_ne _ _ different
  simp only [standingAt, unblocked, otherOpened.unblocked, same, hasDirectory_putAt opened]

/-- What is put at an open place is found there. -/
theorem standingAt_putAt_self (opened : system.IsOpen place) (content : Bytes) :
    (system.putAt place content).standingAt place false = .file content := by
  have unblocked := isBlocked_putAt opened content opened.directory opened.unblocked
  have held : (system.putAt place content).contentAt place = some content :=
    lookup_put_self _ _ _
  simp only [standingAt, unblocked, held, Bool.false_eq_true, if_false]

/-- Whether the directories that a path leaves are there. -/
def IsPassable (system : FileSystem) (path : String) : Prop :=
  path ≠ "" ∧ ∀ detour ∈ detoursOf path, system.hasDirectory detour = true

/-- A path is as passable as before after a file was put at an open place. -/
theorem isPassable_putAt_iff (opened : system.IsOpen place) :
    (system.putAt place content).IsPassable path ↔ system.IsPassable path := by
  simp only [IsPassable, hasDirectory_putAt opened]

/-- What is found under a path that is passable is found at its place. -/
theorem standing_of_isPassable (passable : system.IsPassable path) :
    system.standing path = system.standingAt (placeOf path) (namesDirectory path) := by
  obtain ⟨named, directories⟩ := passable
  have none_missing : (detoursOf path).find? (fun detour => !system.hasDirectory detour) = none := by
    rw [List.find?_eq_none]
    intro detour member
    rw [directories detour member]
    decide
  rw [standing, if_neg named, none_missing]

/-- A path under which a file is found, or could be, is passable and leads to an open place. -/
theorem isOpen_of_standing (opened : (system.standing path).IsOpen) :
    system.IsPassable path ∧ system.IsOpen (placeOf path) := by
  have passable : system.IsPassable path := by
    unfold standing at opened
    split at opened
    · exact opened.elim
    · rename_i named
      split at opened
      · split at opened <;> exact opened.elim
      · rename_i none_missing
        refine ⟨named, ?_⟩
        intro detour member
        simpa using List.find?_eq_none.mp none_missing detour member
  rw [standing_of_isPassable passable] at opened
  exact ⟨passable, isOpen_of_standingAt opened⟩

/-- Whether a file can be written under a path. -/
def Accepts (system : FileSystem) (path : String) : Prop :=
  (system.standing path).IsOpen ∧ namesDirectory path = false

/-- A file that is found is not under a path that can only name a directory. -/
theorem namesDirectory_of_file {found : Bytes} (held : system.standing path = .file found) :
    namesDirectory path = false := by
  have opened : (system.standing path).IsOpen := by
    rw [held]
    trivial
  rw [standing_of_isPassable (isOpen_of_standing opened).1] at held
  unfold standingAt at held
  cases directoryOnly : namesDirectory path with
  | false => rfl
  | true =>
    rw [directoryOnly] at held
    split at held
    · cases held
    · split at held
      · cases held
      · split at held
        · cases held
        · split at held <;> cases held

/-- A file is written exactly if it can be, and what is written is put at its place. -/
theorem write_eq_ok_iff : system.write path content = .ok after ↔
    system.Accepts path ∧ after = system.putAt (placeOf path) content := by
  unfold write Accepts
  cases found : system.standing path with
  | file old =>
    have named := namesDirectory_of_file found
    simp [Standing.IsOpen, named, putAt, eq_comm]
  | vacant => cases named : namesDirectory path <;> simp [Standing.IsOpen, putAt, eq_comm]
  | _ => simp [Standing.IsOpen]

/-- A file that can be written is written with every content. -/
theorem exists_write (accepted : system.Accepts path) (content : Bytes) :
    ∃ after, system.write path content = .ok after :=
  ⟨_, write_eq_ok_iff.mpr ⟨accepted, rfl⟩⟩

/-- A file that can be read is found. -/
theorem read_eq_ok_iff : system.read path = .ok content ↔ system.standing path = .file content := by
  unfold read
  cases system.standing path <;> simp

/-- Changing files has left what is found, wherever it was or is a file or could be one, except
at some places. -/
def Spares (changed : Place → Prop) (before after : FileSystem) : Prop :=
  ∀ path, ¬ changed (placeOf path) →
    (before.standing path).IsOpen ∨ (after.standing path).IsOpen →
      after.standing path = before.standing path

namespace Spares

variable {changed : Place → Prop}

/-- Doing nothing leaves everything. -/
theorem refl (system : FileSystem) : Spares changed system system := fun _ _ _ => rfl

/-- What is left twice is left. -/
theorem trans {between : FileSystem} (first : Spares changed before between)
    (second : Spares changed between after) : Spares changed before after := by
  rintro path untouched (opened | opened)
  · have same := first path untouched (.inl opened)
    rw [← same] at opened
    exact (second path untouched (.inl opened)).trans same
  · have same := second path untouched (.inr opened)
    rw [same] at opened
    exact same.trans (first path untouched (.inr opened))

/-- What is left is left where more is excepted. -/
theorem mono {wider : Place → Prop} (spares : Spares changed before after)
    (more : ∀ place, changed place → wider place) : Spares wider before after := by
  intro path untouched opened
  apply spares path _ opened
  intro member
  exact untouched (more _ member)

/-- A file that is left is read as before. -/
theorem read (spares : Spares changed before after) (untouched : ¬ changed (placeOf path))
    (held : before.read path = .ok content) : after.read path = .ok content := by
  have found := read_eq_ok_iff.mp held
  have opened : (before.standing path).IsOpen := by
    rw [found]
    trivial
  exact read_eq_ok_iff.mpr ((spares path untouched (.inl opened)).trans found)

/-- A file that is left can be written if it could be written before. -/
theorem accepts_iff (spares : Spares changed before after) (untouched : ¬ changed (placeOf path)) :
    after.Accepts path ↔ before.Accepts path := by
  constructor
  · rintro ⟨opened, named⟩
    rw [spares path untouched (.inr opened)] at opened
    exact ⟨opened, named⟩
  · rintro ⟨opened, named⟩
    rw [← spares path untouched (.inl opened)] at opened
    exact ⟨opened, named⟩

end Spares

/-- Writing a file leaves what is found at other places. -/
theorem spares_write (written : system.write path content = .ok after) :
    Spares (· = placeOf path) system after := by
  obtain ⟨⟨accepted, _⟩, rfl⟩ := write_eq_ok_iff.mp written
  have opened := (isOpen_of_standing accepted).2
  intro other different either
  have before : system.IsPassable other ∧ system.IsOpen (placeOf other) := by
    rcases either with now | later
    · exact isOpen_of_standing now
    · obtain ⟨passable, otherPlace⟩ := isOpen_of_standing later
      exact ⟨(isPassable_putAt_iff opened).mp passable, opened.of_putAt different otherPlace⟩
  obtain ⟨passable, otherPlace⟩ := before
  rw [standing_of_isPassable ((isPassable_putAt_iff opened).mpr passable),
    standing_of_isPassable passable]
  exact standingAt_putAt_of_ne opened content otherPlace different _

/-- What is written is read back. -/
theorem read_write (written : system.write path content = .ok after) :
    after.read path = .ok content := by
  obtain ⟨⟨accepted, file⟩, rfl⟩ := write_eq_ok_iff.mp written
  obtain ⟨passable, opened⟩ := isOpen_of_standing accepted
  rw [read_eq_ok_iff, standing_of_isPassable ((isPassable_putAt_iff opened).mpr passable), file]
  exact standingAt_putAt_self opened content

/-- A file that can be read can be written. -/
theorem accepts_of_read (held : system.read path = .ok content) : system.Accepts path := by
  have found := read_eq_ok_iff.mp held
  refine ⟨?_, namesDirectory_of_file found⟩
  rw [found]
  trivial

/-- A file that was written can be written again. -/
theorem accepts_write (written : system.write path content = .ok after) : after.Accepts path :=
  accepts_of_read (read_write written)

/-- A file is read alike under all paths to its place that can be followed. -/
theorem read_of_place {other : String} (held : system.read path = .ok content)
    (same : placeOf other = placeOf path) (passable : system.IsPassable other)
    (file : namesDirectory other = false) : system.read other = .ok content := by
  have found := read_eq_ok_iff.mp held
  have opened : (system.standing path).IsOpen := by
    rw [found]
    trivial
  have named := namesDirectory_of_file found
  rw [standing_of_isPassable (isOpen_of_standing opened).1, named] at found
  rw [read_eq_ok_iff, standing_of_isPassable passable, file, same, found]

/-- There is a directory at a place unless a file is there or on the way. -/
theorem standingAt_eq_directory_iff {directoryOnly : Bool} :
    system.standingAt place directoryOnly = .directory ↔
      system.isBlocked place = false ∧ system.contentAt place = none ∧
        system.hasDirectory place = true := by
  unfold standingAt
  split
  · next blocked => simp [blocked]
  · next unblocked =>
    split
    · next found held =>
      rw [held]
      split <;> simp
    · next empty =>
      rw [empty]
      split
      · next there => simp [there, Bool.not_eq_true _ ▸ unblocked]
      · next missing =>
        simp only [missing, Bool.false_eq_true, and_false, iff_false]
        split <;> exact nofun

/-- A path under which a directory is found is passable. -/
theorem isPassable_of_directory (found : system.standing path = .directory) :
    system.IsPassable path := by
  unfold standing at found
  split at found
  · cases found
  · next named =>
    split at found
    · split at found <;> cases found
    · next none_missing =>
      refine ⟨named, ?_⟩
      intro detour member
      simpa using List.find?_eq_none.mp none_missing detour member

/-- No directory came or went, and no file went. -/
structure Extends (before after : FileSystem) : Prop where
  /-- The directories are the same. -/
  directories : ∀ place, after.hasDirectory place = before.hasDirectory place
  /-- Where a file was there is one. -/
  kept : ∀ file ∈ before.files, ∃ still ∈ after.files, still.1 = file.1

namespace Extends

/-- Doing nothing leaves all directories and files. -/
theorem refl (system : FileSystem) : Extends system system :=
  ⟨fun _ => rfl, fun file member => ⟨file, member, rfl⟩⟩

/-- What is left twice is left. -/
theorem trans {between : FileSystem} (first : Extends before between)
    (second : Extends between after) : Extends before after := by
  constructor
  · intro place
    rw [second.directories, first.directories]
  · intro file member
    obtain ⟨still, kept, same⟩ := first.kept file member
    obtain ⟨last, kept, last_same⟩ := second.kept still kept
    exact ⟨last, kept, last_same.trans same⟩

/-- A path is as passable as before. -/
theorem isPassable_iff (grown : Extends before after) :
    after.IsPassable path ↔ before.IsPassable path := by
  simp only [IsPassable, grown.directories]

/-- A place that is not blocked was not blocked. -/
theorem isBlocked_of (grown : Extends before after) (unblocked : after.isBlocked place = false) :
    before.isBlocked place = false := by
  rw [Bool.eq_false_iff] at unblocked ⊢
  intro blocked
  obtain ⟨file, member, lead, differs⟩ := isBlocked_iff.mp blocked
  obtain ⟨still, kept, same⟩ := grown.kept file member
  exact unblocked (isBlocked_iff.mpr ⟨still, kept, same ▸ lead, same ▸ differs⟩)

/-- A directory that is found was found. -/
theorem standing_of_directory (grown : Extends before after)
    (found : after.standing path = .directory) : before.standing path = .directory := by
  have passable := isPassable_of_directory found
  rw [standing_of_isPassable passable, standingAt_eq_directory_iff] at found
  obtain ⟨unblocked, empty, there⟩ := found
  rw [standing_of_isPassable (grown.isPassable_iff.mp passable), standingAt_eq_directory_iff]
  refine ⟨grown.isBlocked_of unblocked, ?_, grown.directories _ ▸ there⟩
  cases held : before.contentAt (placeOf path) with
  | none => rfl
  | some content =>
    obtain ⟨file, member, same⟩ := exists_mem_iff_contentAt.mpr ⟨content, held⟩
    obtain ⟨still, kept, still_same⟩ := grown.kept file member
    obtain ⟨later, found⟩ := exists_mem_iff_contentAt.mp ⟨still, kept, still_same.trans same⟩
    rw [empty] at found
    cases found

end Extends

/-- Writing a file leaves all directories and files. -/
theorem extends_write (written : system.write path content = .ok after) :
    Extends system after := by
  obtain ⟨⟨accepted, _⟩, rfl⟩ := write_eq_ok_iff.mp written
  have opened := (isOpen_of_standing accepted).2
  constructor
  · exact hasDirectory_putAt opened content
  · intro file member
    exact exists_mem_put.mpr (.inr ⟨file, member, rfl⟩)

end FileSystem

end ChunkCodecs
