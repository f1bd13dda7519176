import ChunkCodecs.Proofs.Command.Compressions
import ChunkCodecs.Proofs.Command.FileNames
import ChunkCodecs.Proofs.Command.RoundTrip

/-!
# Names that commands choose

A command that is not told where to write chooses a name beside its input. Compressing adds the
identifier of the codec as an extension, and uncompressing takes an extension away: the name of a
chunk comes back, unless its last name has no stem, when the identifier counts as part of the name
and a further extension is added. Either way another file is written than the ones that are read:
not only is the name another one, it also leads to another place.
-/

namespace ChunkCodecs

/-- A name is the only text between slashes that it has. -/
theorem splitAtSlashes_of_not_mem {name : List Char} (whole : '/' ∉ name) :
    splitAtSlashes name = [name] := by
  induction name with
  | nil => rfl
  | cons c rest inductionHypothesis =>
    rw [List.mem_cons, not_or] at whole
    rw [splitAtSlashes, if_neg (Ne.symm whole.1), inductionHypothesis whole.2]

/-- There is always a last name, if only an empty one. -/
theorem splitAtSlashes_ne_nil (path : List Char) : splitAtSlashes path ≠ [] := by
  cases path with
  | nil => exact List.cons_ne_nil _ _
  | cons c rest =>
    rw [splitAtSlashes]
    split
    · exact List.cons_ne_nil _ _
    · split <;> exact List.cons_ne_nil _ _

/-- A slash stands between the texts in front of it and those behind it. -/
theorem splitAtSlashes_slash (directory name : List Char) :
    splitAtSlashes (directory ++ '/' :: name) = splitAtSlashes directory ++ splitAtSlashes name := by
  induction directory with
  | nil => rfl
  | cons c rest inductionHypothesis =>
    rw [List.cons_append, splitAtSlashes, splitAtSlashes, inductionHypothesis]
    split
    · rfl
    · cases found : splitAtSlashes rest with
      | nil => exact absurd found (splitAtSlashes_ne_nil rest)
      | cons first others => rfl

/-- The last name of a path is what is found going backwards up to a slash. -/
theorem reverse_lastName (path : List Char) :
    path.reverse.takeWhile (· != '/') = (lastName path).reverse := by
  have name_whole {name : List Char} (whole : '/' ∉ name) (before : List Char) :
      (name.reverse ++ before).takeWhile (· != '/') =
        name.reverse ++ before.takeWhile (· != '/') := by
    apply List.takeWhile_append_of_pos
    intro c member
    rw [bne_iff_ne]
    rintro rfl
    exact whole (List.mem_reverse.mp member)
  by_cases slash : '/' ∈ path.reverse
  · obtain ⟨backwards, before, split, whole⟩ := List.eq_append_cons_of_mem slash
    have path_eq : path = before.reverse ++ '/' :: backwards.reverse := by
      rw [← path.reverse_reverse, split]
      simp
    have name : '/' ∉ backwards.reverse := mt List.mem_reverse.mp whole
    have last : lastName path = backwards.reverse := by
      rw [lastName, path_eq, splitAtSlashes_slash, splitAtSlashes_of_not_mem name]
      simp
    have taken := name_whole name ('/' :: before)
    rw [List.reverse_reverse] at taken
    rw [split, taken, last]
    simp
  · have whole : '/' ∉ path := mt List.mem_reverse.mpr slash
    have taken := name_whole whole []
    rw [lastName, splitAtSlashes_of_not_mem whole]
    simpa using taken

/-- A name has a stem: it is not empty, and does not consist of points alone. -/
def HasStem (name : List Char) : Prop := ∃ c ∈ name, c ≠ '.'

instance (name : List Char) : Decidable (HasStem name) :=
  decidable_of_iff (name.any (· != '.') = true) (by simp [HasStem])

/-- What follows the last point of a last name is an extension if there is a stem in front of it. -/
theorem splitExtension_point (base : List Char) {tail : List Char}
    (plain : ∀ c ∈ tail, c ≠ '.' ∧ c ≠ '/') :
    splitExtension (base ++ '.' :: tail) =
      if HasStem (lastName base) then (base, '.' :: tail) else (base ++ '.' :: tail, []) := by
  have inside : ∀ c ∈ tail.reverse, (c != '.' && c != '/') = true := by
    intro c member
    simpa using plain c (List.mem_reverse.mp member)
  have backwards : (base ++ '.' :: tail).reverse = tail.reverse ++ '.' :: base.reverse := by simp
  have taken : (base ++ '.' :: tail).reverse.takeWhile (fun c => c != '.' && c != '/') =
      tail.reverse := by
    rw [backwards, List.takeWhile_append_of_pos inside]
    simp
  have dropped : (base ++ '.' :: tail).reverse.dropWhile (fun c => c != '.' && c != '/') =
      '.' :: base.reverse := by
    rw [backwards, List.dropWhile_append_of_pos inside]
    simp
  have stem : ((base.reverse.takeWhile (· != '/')).any (· != '.') = true) =
      HasStem (lastName base) := by
    rw [reverse_lastName, List.any_reverse]
    simp [HasStem]
  simp only [splitExtension, taken, dropped, stem, List.reverse_reverse]

/-- A path is left as it is, or it has an extension behind a stem, which is split from it. -/
theorem splitExtension_cases (path : List Char) :
    splitExtension path = (path, []) ∨ ∃ base tail, path = base ++ '.' :: tail ∧ '/' ∉ tail ∧
      HasStem (lastName base) ∧ splitExtension path = (base, '.' :: tail) := by
  have whole := splitExtension_append path
  rw [splitExtension] at whole ⊢
  split
  · rename_i before found
    split
    · rename_i stem
      simp only [found, stem, if_true] at whole
      refine .inr ⟨_, _, whole.symm, ?_, ?_, rfl⟩
      · intro member
        have inside := List.mem_takeWhile_imp (List.mem_reverse.mp member)
        simp at inside
      · obtain ⟨c, member, other⟩ := List.any_eq_true.mp stem
        refine ⟨c, ?_, by simpa using other⟩
        rw [← before.reverse_reverse, reverse_lastName] at member
        exact List.mem_reverse.mp member
    · exact .inl rfl
  · exact .inl rfl

/-- Identifiers have neither points nor slashes. -/
theorem plain_identifier (scheme : CodecId) : ∀ c ∈ scheme.name.toList, c ≠ '.' ∧ c ≠ '/' := by
  cases scheme <;> simp [CodecId.name]

/-- The name of a compressed chunk, as characters. -/
theorem toList_compressedName (path identifier : String) :
    (compressedName path identifier).toList = path.toList ++ '.' :: identifier.toList := by
  simp [compressedName]

/-- Uncompressing takes the extension away behind a stem, and else adds one. -/
theorem uncompressedName_compressedName (path : String) (scheme : CodecId) :
    uncompressedName (compressedName path scheme.name) =
      if HasStem (lastName path.toList) then path
      else compressedName path scheme.name ++ ".raw" := by
  rw [uncompressedName, toList_compressedName, splitExtension_point _ (plain_identifier scheme)]
  by_cases stem : HasStem (lastName path.toList)
  · rw [if_pos stem, if_pos stem]
    exact String.ofList_toList
  · rw [if_neg stem, if_neg stem]

/-- An uncompressed chunk is written under its name with a further extension, or under its name
without the extension behind a stem. -/
theorem uncompressedName_cases (path : String) :
    uncompressedName path = path ++ ".raw" ∨ ∃ base extension, path = base ++ extension ∧
      extension ≠ "" ∧ '/' ∉ extension.toList ∧ HasStem (lastName base.toList) ∧
        uncompressedName path = base := by
  obtain same | ⟨base, tail, split, whole, stem, found⟩ := splitExtension_cases path.toList
  · left
    rw [uncompressedName, same]
  · right
    refine ⟨String.ofList base, String.ofList ('.' :: tail), ?_, ?_, ?_, ?_, ?_⟩
    · rw [← String.ofList_append, ← split, String.ofList_toList]
    · intro empty
      have characters := congrArg String.toList empty
      rw [String.toList_ofList] at characters
      cases characters
    · rw [String.toList_ofList, List.mem_cons, not_or]
      exact ⟨by decide, whole⟩
    · rwa [String.toList_ofList]
    · rw [uncompressedName, found]

/-- A name with a stem and an extension can be that of a file. -/
theorem namesDirectory_of_hasStem {path extension : String} (stem : HasStem (lastName path.toList))
    (whole : '/' ∉ extension.toList) : namesDirectory (path ++ extension) = false := by
  obtain ⟨c, member, other⟩ := stem
  have points {short : List Char} (all : ∀ c ∈ short, c = '.') :
      lastName path.toList ++ extension.toList ≠ short := by
    rintro rfl
    exact other (all c (List.mem_append_left _ member))
  obtain ⟨above, detours, leads⟩ := exists_route_append path
  have empty := @points [] (by simp)
  have single := @points ['.'] (by simp)
  have double := @points ['.', '.'] (by simp)
  simp only [(leads extension whole).1, staysInPlace, goesBack, empty, single, double,
    decide_false, Bool.or_self]

/-- A name with an extension of several characters can be that of a file. -/
theorem namesDirectory_of_length {path extension : String} (whole : '/' ∉ extension.toList)
    (long : 3 ≤ extension.toList.length) : namesDirectory (path ++ extension) = false := by
  obtain ⟨above, detours, leads⟩ := exists_route_append path
  obtain ⟨moves, onward⟩ := isName_append (lastName path.toList) long
  rw [(leads extension whole).1, moves, onward, Bool.or_self]

/-- Files in one place under one name with extensions have the same extension. -/
theorem eq_of_placeOf_append {path extension other : String} (whole : '/' ∉ extension.toList)
    (other_whole : '/' ∉ other.toList) (file : namesDirectory (path ++ extension) = false)
    (other_file : namesDirectory (path ++ other) = false)
    (same : placeOf (path ++ extension) = placeOf (path ++ other)) : extension = other := by
  obtain ⟨above, detours, leads⟩ := exists_route_append path
  rw [placeOf, placeOf, (leads extension whole).2 file, (leads other other_whole).2 other_file]
    at same
  have names := List.head_eq_of_cons_eq (List.append_cancel_left same)
  exact String.toList_inj.mp (List.append_cancel_left names)

/-- A file is in another place than the one under its name with an extension. -/
theorem placeOf_append_ne {path extension : String} (whole : '/' ∉ extension.toList)
    (file : namesDirectory path = false) (extended : namesDirectory (path ++ extension) = false)
    (some_characters : extension ≠ "") : placeOf (path ++ extension) ≠ placeOf path := by
  intro same
  have bare : path ++ "" = path := String.append_empty
  rw [← bare] at file
  have same_bare : placeOf (path ++ extension) = placeOf (path ++ "") := by rw [same, bare]
  exact some_characters (eq_of_placeOf_append whole List.not_mem_nil extended file same_bare)

/-- A file is compressed to another place than its own, and so is the configuration. -/
theorem placeOf_compressedName_ne {path : String} (scheme : CodecId)
    (file : namesDirectory path = false) :
    placeOf (compressedName path scheme.name) ≠ placeOf path ∧
      placeOf (sidecarOf (compressedName path scheme.name)) ≠ placeOf path := by
  have apart {extension : String} (whole : '/' ∉ extension.toList)
      (long : 3 ≤ extension.toList.length) : placeOf (path ++ extension) ≠ placeOf path := by
    apply placeOf_append_ne whole file (namesDirectory_of_length whole long)
    rintro rfl
    exact absurd long (by decide)
  have extended : compressedName path scheme.name = path ++ ("." ++ scheme.name) :=
    String.append_assoc
  rw [sidecarOf, extended, String.append_assoc]
  constructor
  · apply apart <;> cases scheme <;> decide
  · apply apart <;> cases scheme <;> decide

/-- A file is uncompressed to another place than its own, and than that of its configuration. -/
theorem placeOf_uncompressedName_ne {path : String} (file : namesDirectory path = false) :
    placeOf (uncompressedName path) ≠ placeOf path ∧
      placeOf (uncompressedName path) ≠ placeOf (sidecarOf path) := by
  have raw_whole : '/' ∉ ".raw".toList := by decide
  have json_whole : '/' ∉ sidecarExtension.toList := by decide
  obtain added | ⟨base, extension, rfl, some_characters, whole, stem, taken⟩ :=
    uncompressedName_cases path
  · have raw : namesDirectory (path ++ ".raw") = false :=
      namesDirectory_of_length raw_whole (by decide)
    rw [added]
    refine ⟨placeOf_append_ne raw_whole file raw (by decide), ?_⟩
    intro same
    exact absurd (eq_of_placeOf_append raw_whole json_whole raw (namesDirectory_sidecarOf path) same)
      (by decide)
  · have bare : namesDirectory base = false := by
      rw [← @String.append_empty base]
      exact namesDirectory_of_hasStem stem List.not_mem_nil
    have longer : '/' ∉ (extension ++ sidecarExtension).toList := by
      rw [String.toList_append, List.mem_append, not_or]
      exact ⟨whole, json_whole⟩
    have beside : sidecarOf (base ++ extension) = base ++ (extension ++ sidecarExtension) :=
      String.append_assoc
    rw [taken, beside]
    constructor
    · exact (placeOf_append_ne whole bare (namesDirectory_of_hasStem stem whole)
        some_characters).symm
    · refine (placeOf_append_ne longer bare (namesDirectory_of_hasStem stem longer) ?_).symm
      intro empty
      exact some_characters (String.append_eq_empty_iff.mp empty).1

/-- A path is no path with something behind it. -/
theorem append_ne_self (path : String) {behind : String} (some_characters : behind ≠ "") :
    path ++ behind ≠ path := by
  intro same
  have characters := congrArg String.toList same
  rw [String.toList_append] at characters
  exact some_characters (String.toList_inj.mp (List.append_right_eq_self.mp characters))

/-- A compressed file and its configuration have other names than the file. -/
theorem compressedName_ne (path : String) (scheme : CodecId) :
    compressedName path scheme.name ≠ path ∧ sidecarOf (compressedName path scheme.name) ≠ path := by
  have extended : compressedName path scheme.name = path ++ ("." ++ scheme.name) :=
    String.append_assoc
  rw [sidecarOf, extended, String.append_assoc]
  constructor
  · apply append_ne_self
    cases scheme <;> decide
  · apply append_ne_self
    cases scheme <;> decide

/-- The name of a compressed file leads back exactly if the last name of the file has a stem. -/
theorem uncompressedName_compressedName_eq_iff (path : String) (scheme : CodecId) :
    uncompressedName (compressedName path scheme.name) = path ↔ HasStem (lastName path.toList) := by
  rw [uncompressedName_compressedName]
  constructor
  · intro same
    by_contra points
    rw [if_neg points, compressedName, String.append_assoc, String.append_assoc] at same
    refine append_ne_self path ?_ same
    cases scheme <;> decide
  · intro stem
    rw [if_pos stem]

/-- An uncompressed file has another name than the compressed one, and than its configuration. -/
theorem uncompressedName_ne (path : String) :
    uncompressedName path ≠ path ∧ uncompressedName path ≠ sidecarOf path := by
  obtain added | ⟨base, extension, rfl, some_characters, _, _, taken⟩ := uncompressedName_cases path
  · rw [added, sidecarOf]
    refine ⟨append_ne_self path (by decide), fun same => ?_⟩
    have characters := congrArg String.toList same
    rw [String.toList_append, String.toList_append] at characters
    exact absurd (List.append_cancel_left characters) (by decide)
  · rw [taken, sidecarOf, String.append_assoc]
    refine ⟨(append_ne_self base some_characters).symm, (append_ne_self base ?_).symm⟩
    intro empty
    exact some_characters (String.append_eq_empty_iff.mp empty).1

/-- A command that is not told where to compress a file to chooses the name that the identifier of
its codec gives. -/
theorem run_compress_none (path : String) {choice : CodecChoice} {codec : Codec}
    (built : choice.build.result = .ok codec) (backing : Backing) (files : FileSystem)
    (reporting : Reporting) :
    (Command.compress path none choice reporting).run backing files =
      (Command.compress path (some (compressedName path codec.scheme.name)) choice reporting).run
        backing files := by
  have chosen : choice.build = ⟨choice.build.journal, .ok codec⟩ := by rw [← built]
  have named : Action.targetOf path (some (compressedName path codec.scheme.name)) codec =
      Action.targetOf path none codec := ite_self _
  simp only [Command.run, Action.ofCommand, Action.compress_eq]
  rw [chosen]
  simp only [Action.perform_bind_ok, named]

/-- The names that commands choose are inverse to each other, and never those of the files that the
commands read.

A command that is not told where to compress a file to does what it would do if it was told the
name of the file with the identifier of its codec. Neither this name nor that of its configuration
is the name of the file, and neither leads to the place of the file. A command that is not told
where to uncompress the compressed file to writes to the name of the first file exactly if its last
name has a stem, and else to that of the compressed file with a further extension. Whatever it
uncompresses, it chooses neither the name of its input nor that of the configuration beside it, and
neither of the places. -/
theorem chosen_names_inverse (path : String) (scheme : CodecId) :
    (∀ backing files choice reporting codec, choice.build.result = .ok codec →
      codec.scheme = scheme →
      (Command.compress path none choice reporting).run backing files =
        (Command.compress path (some (compressedName path scheme.name)) choice reporting).run
          backing files) ∧
    (∀ backing files choice reporting,
      (Command.decompress path none choice reporting).run backing files =
        (Command.decompress path (some (uncompressedName path)) choice reporting).run
          backing files) ∧
    compressedName path scheme.name ≠ path ∧
    sidecarOf (compressedName path scheme.name) ≠ path ∧
    (uncompressedName (compressedName path scheme.name) = path ↔ HasStem (lastName path.toList)) ∧
    (¬ HasStem (lastName path.toList) →
      uncompressedName (compressedName path scheme.name) =
        compressedName path scheme.name ++ ".raw") ∧
    uncompressedName path ≠ path ∧ uncompressedName path ≠ sidecarOf path ∧
    (namesDirectory path = false →
      placeOf (compressedName path scheme.name) ≠ placeOf path ∧
      placeOf (sidecarOf (compressedName path scheme.name)) ≠ placeOf path ∧
      placeOf (uncompressedName path) ≠ placeOf path ∧
      placeOf (uncompressedName path) ≠ placeOf (sidecarOf path)) := by
  refine ⟨?_, fun _ _ _ _ => rfl, (compressedName_ne path scheme).1, (compressedName_ne path scheme).2,
    uncompressedName_compressedName_eq_iff path scheme, ?_, (uncompressedName_ne path).1,
    (uncompressedName_ne path).2, ?_⟩
  · rintro backing files choice reporting codec built rfl
    exact run_compress_none path built backing files reporting
  · intro points
    rw [uncompressedName_compressedName, if_neg points]
  · intro file
    obtain ⟨chunk, configuration⟩ := placeOf_compressedName_ne scheme file
    obtain ⟨raw, beside⟩ := placeOf_uncompressedName_ne file
    exact ⟨chunk, configuration, raw, beside⟩

/-- A hidden file comes back under its name, and a file whose name is all points does not. -/
theorem hidden_file_comes_back :
    (CodecChoice.build ⟨.text "identity", .dict []⟩).result = .ok .identity ∧
    (Command.compress "a.d/.chunk" none ⟨.text "identity", .dict []⟩ .standard).run
        Command.standardBacking (Command.singleFile "a.d/.chunk" [1, 2, 3]) =
      (Command.compress "a.d/.chunk" (some "a.d/.chunk.identity") ⟨.text "identity", .dict []⟩
        .standard).run Command.standardBacking (Command.singleFile "a.d/.chunk" [1, 2, 3]) ∧
    HasStem (lastName "a.d/.chunk".toList) ∧
    uncompressedName "a.d/.chunk.identity" = "a.d/.chunk" ∧
    namesDirectory "a.d/.chunk" = false ∧
    placeOf "a.d/.chunk.identity" ≠ placeOf "a.d/.chunk" ∧
    ¬ HasStem (lastName "a.d/...".toList) ∧
    uncompressedName "a.d/....identity" = "a.d/....identity.raw" := by
  have built : (CodecChoice.build ⟨.text "identity", .dict []⟩).result = .ok .identity := rfl
  have file : namesDirectory "a.d/.chunk" = false := by decide
  have stem : HasStem (lastName "a.d/.chunk".toList) := by decide
  have points : ¬ HasStem (lastName "a.d/...".toList) := by decide
  obtain ⟨commands, _, _, _, inverse, _, _, _, apart⟩ :=
    chosen_names_inverse "a.d/.chunk" .identity
  obtain ⟨_, _, _, _, _, added, _⟩ := chosen_names_inverse "a.d/..." .identity
  refine ⟨built, commands _ _ _ _ _ built rfl, stem, inverse.mpr stem, file,
    (apart file).1, points, added points⟩

end ChunkCodecs
