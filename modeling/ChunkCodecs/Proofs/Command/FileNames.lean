import ChunkCodecs.Command.FileName
import ChunkCodecs.FileSystem

/-!
# Places of names

The configuration of a chunk is in another place than the chunk: the extension is added to
the last name of the path, which is neither left out of the place nor goes back, since the
path would else name a directory only. So the place of the configuration tells the place of the
chunk, and no path of a file leads to such a place unless it ends with the extension.
-/

namespace ChunkCodecs

/-- The last name of a path: what follows its last slash, or all of it. -/
def lastName (path : List Char) : List Char := ((splitAtSlashes path).getLast?).getD []

/-- An extension without a slash is added to the last text between slashes. A path ends with this
text, and is this text if there is no other one. -/
theorem splitAtSlashes_append (path : List Char) {extension : List Char}
    (whole : '/' ∉ extension) :
    ∃ names last, splitAtSlashes path = names ++ [last] ∧
      splitAtSlashes (path ++ extension) = names ++ [last ++ extension] ∧
      last <:+ path ∧ (names = [] → last = path) := by
  have alone : splitAtSlashes extension = [extension] := by
    clear path
    induction extension with
    | nil => rfl
    | cons c rest inductionHypothesis =>
      have other : c ≠ '/' := fun same => whole (same ▸ List.mem_cons_self)
      have remaining := inductionHypothesis fun member => whole (List.mem_cons_of_mem c member)
      rw [splitAtSlashes, if_neg other, remaining]
  induction path with
  | nil => exact ⟨[], [], rfl, alone, List.suffix_refl [], fun _ => rfl⟩
  | cons c rest inductionHypothesis =>
    obtain ⟨names, last, before, behind, ends, single⟩ := inductionHypothesis
    by_cases slash : c = '/'
    · refine ⟨[] :: names, last, ?_, ?_, ends.trans (List.suffix_cons c rest), nofun⟩
      · rw [splitAtSlashes, if_pos slash, before, List.cons_append]
      · rw [List.cons_append, splitAtSlashes, if_pos slash, behind, List.cons_append]
    · rw [List.cons_append, splitAtSlashes, splitAtSlashes, if_neg slash, if_neg slash, before,
        behind]
      cases names with
      | nil =>
        obtain rfl := single rfl
        exact ⟨[], c :: last, rfl, rfl, List.suffix_refl _, fun _ => rfl⟩
      | cons first others =>
        exact ⟨(c :: first) :: others, last, rfl, rfl, ends.trans (List.suffix_cons c rest), nofun⟩

/-- A path ends with its last name. -/
theorem lastName_suffix (path : List Char) : lastName path <:+ path := by
  obtain ⟨names, last, split, -, ends, -⟩ := splitAtSlashes_append path List.not_mem_nil
  rw [lastName, split, List.getLast?_concat]
  exact ends

/-- A last name that does not go back is followed last. -/
theorem follow_append {name : List Char} (onward : goesBack name = false) (names : List (List Char))
    (place : Place) : follow place (names ++ [name]) =
      ((follow place names).1 ++ [name], (follow place names).2) := by
  induction names generalizing place with
  | nil => simp [follow, onward]
  | cons first others inductionHypothesis =>
    rw [List.cons_append, follow, follow]
    split
    · simp only [inductionHypothesis (placeAbove place)]
    · exact inductionHypothesis (place ++ [first])

/-- A name with an extension of several characters is a name. -/
theorem isName_append (name : List Char) {extension : List Char} (long : 3 ≤ extension.length) :
    staysInPlace (name ++ extension) = false ∧ goesBack (name ++ extension) = false := by
  have lengths : (name ++ extension).length = name.length + extension.length :=
    List.length_append
  have other (short : List Char) (few : short.length < 3) : name ++ extension ≠ short := by
    intro same
    rw [same] at lengths
    omega
  constructor
  · simp only [staysInPlace, other [] (by decide), other ['.'] (by decide), decide_false,
      Bool.or_self]
  · simp only [goesBack, other ['.', '.'] (by decide), decide_false]

/-- A path leads to a last name by way of a place above it, and with an extension it leads the same
way to the last name with the extension. This name alone tells whether the path can name nothing but
a directory. -/
theorem exists_route_append (path : String) : ∃ above detours, ∀ extension : String,
    '/' ∉ extension.toList →
      namesDirectory (path ++ extension) =
          (staysInPlace (lastName path.toList ++ extension.toList) ||
            goesBack (lastName path.toList ++ extension.toList)) ∧
        (namesDirectory (path ++ extension) = false →
          route (path ++ extension) =
            (above ++ [lastName path.toList ++ extension.toList], detours)) := by
  obtain ⟨names, last, split, -, -, -⟩ := splitAtSlashes_append path.toList List.not_mem_nil
  have last_eq : lastName path.toList = last := by
    rw [lastName, split, List.getLast?_concat, Option.getD_some]
  obtain ⟨first, beginning⟩ : ∃ first : Place,
      first = if path.toList.head? = some '/' then [['/']] else [] := ⟨_, rfl⟩
  rw [last_eq]
  refine ⟨(follow first (names.filter fun name => !staysInPlace name)).1,
    (follow first (names.filter fun name => !staysInPlace name)).2, ?_⟩
  intro extension whole
  obtain ⟨others, name, before, behind, -, -⟩ := splitAtSlashes_append path.toList whole
  obtain ⟨rfl, same⟩ := List.append_inj' (split.symm.trans before) rfl
  obtain rfl := List.head_eq_of_cons_eq same
  have named : namesDirectory (path ++ extension) =
      (staysInPlace (last ++ extension.toList) || goesBack (last ++ extension.toList)) := by
    simp only [namesDirectory, String.toList_append, behind, List.getLast?_concat]
  refine ⟨named, ?_⟩
  intro file
  rw [named, Bool.or_eq_false_iff] at file
  -- The extension does not begin with a slash, so both paths begin at the same place.
  have start : ((path.toList ++ extension.toList).head? = some '/') =
      (path.toList.head? = some '/') := by
    cases path.toList with
    | nil =>
      have absent : extension.toList.head? ≠ some '/' :=
        fun leads => whole (List.mem_of_mem_head? leads)
      simpa using absent
    | cons c rest => simp
  simp only [route, String.toList_append, start, behind, ← beginning, List.filter_append,
    List.filter_cons, List.filter_nil, file.1, Bool.not_false, if_true]
  exact follow_append file.2 _ first

/-- A path leads to a last name by way of a place above it. The path of its configuration leads the
same way, to the last name with the extension. The last name alone tells whether the path can name
nothing but a directory. -/
theorem exists_route (path : String) : ∃ above last detours,
    last <:+ path.toList ∧ namesDirectory path = (staysInPlace last || goesBack last) ∧
      (namesDirectory path = false → route path = (above ++ [last], detours)) ∧
      route (sidecarOf path) = (above ++ [last ++ sidecarExtension.toList], detours) ∧
      namesDirectory (sidecarOf path) = false := by
  have long : 3 ≤ sidecarExtension.toList.length := by decide
  obtain ⟨moves, onward⟩ := isName_append (lastName path.toList) long
  obtain ⟨above, detours, leads⟩ := exists_route_append path
  obtain ⟨named, bare⟩ := leads "" List.not_mem_nil
  obtain ⟨sidecar_named, sidecar⟩ := leads sidecarExtension (by decide)
  rw [String.append_empty, String.toList_empty, List.append_nil] at named bare
  rw [moves, onward] at sidecar_named
  exact ⟨above, _, detours, lastName_suffix path.toList, named, bare, sidecar sidecar_named,
    sidecar_named⟩

/-- The configuration of a chunk is not in the place of the chunk. -/
theorem placeOf_sidecarOf_ne {path : String} (file : namesDirectory path = false) :
    placeOf (sidecarOf path) ≠ placeOf path := by
  obtain ⟨above, last, detours, _, _, chunk, sidecar, _⟩ := exists_route path
  rw [placeOf, placeOf, chunk file, sidecar]
  intro same
  have ends := congrArg List.length (List.head_eq_of_cons_eq (List.append_cancel_left same))
  rw [List.length_append] at ends
  exact absurd ends (by simp [sidecarExtension])

/-- The path of a file that does not end with the extension of configurations leads to no place of
a configuration. -/
theorem placeOf_ne_sidecarOf {path : String} (file : namesDirectory path = false)
    (plain : ∀ chunk, path ≠ sidecarOf chunk) (other : String) :
    placeOf path ≠ placeOf (sidecarOf other) := by
  obtain ⟨above, last, detours, ends, _, leads, _, _⟩ := exists_route path
  obtain ⟨_, name, _, _, _, _, sidecar, _⟩ := exists_route other
  rw [placeOf, placeOf, leads file, sidecar]
  intro same
  have extended : last = name ++ sidecarExtension.toList :=
    List.head_eq_of_cons_eq (List.append_inj' same rfl).2
  obtain ⟨front, split⟩ := extended ▸ ends
  refine plain (String.ofList (front ++ name)) (String.toList_inj.mp ?_)
  rw [sidecarOf, String.toList_append, String.toList_ofList, ← split, List.append_assoc]

/-- Chunks whose configurations are in one place are in one place, if one of them is a file. -/
theorem placeOf_eq_of_sidecarOf {path other : String} (file : namesDirectory path = false)
    (same : placeOf (sidecarOf path) = placeOf (sidecarOf other)) :
    namesDirectory other = false ∧ placeOf other = placeOf path := by
  obtain ⟨above, last, detours, _, named, leads, sidecar, _⟩ := exists_route path
  obtain ⟨before, name, leaves, _, other_named, other_leads, other_sidecar, _⟩ :=
    exists_route other
  rw [placeOf, placeOf, sidecar, other_sidecar] at same
  obtain ⟨rfl, lasts⟩ := List.append_inj' same rfl
  have same_last : last = name := List.append_cancel_right (List.head_eq_of_cons_eq lasts)
  have other_file : namesDirectory other = false := by
    rw [other_named, ← same_last, ← named, file]
  refine ⟨other_file, ?_⟩
  rw [placeOf, placeOf, leads file, other_leads other_file, same_last]

/-- Chunks in one place have their configurations in one place. -/
theorem placeOf_sidecarOf_eq {path other : String} (file : namesDirectory path = false)
    (other_file : namesDirectory other = false) (same : placeOf path = placeOf other) :
    placeOf (sidecarOf path) = placeOf (sidecarOf other) := by
  obtain ⟨above, last, detours, _, _, leads, sidecar, _⟩ := exists_route path
  obtain ⟨before, name, leaves, _, _, other_leads, other_sidecar, _⟩ := exists_route other
  rw [placeOf, placeOf, leads file, other_leads other_file] at same
  obtain ⟨rfl, lasts⟩ := List.append_inj' same rfl
  rw [placeOf, placeOf, sidecar, other_sidecar, List.head_eq_of_cons_eq lasts]

/-- The path of a chunk leaves the same places by going back as that of its configuration. -/
theorem detoursOf_sidecarOf {path : String} (file : namesDirectory path = false) :
    detoursOf (sidecarOf path) = detoursOf path := by
  obtain ⟨above, last, detours, _, _, leads, sidecar, _⟩ := exists_route path
  rw [detoursOf, detoursOf, sidecar, leads file]

/-- The configuration of a chunk is in the directory of the chunk. -/
theorem dropLast_placeOf_sidecarOf {path : String} (file : namesDirectory path = false) :
    (placeOf (sidecarOf path)).dropLast = (placeOf path).dropLast := by
  obtain ⟨above, last, detours, _, _, leads, sidecar, _⟩ := exists_route path
  rw [placeOf, placeOf, sidecar, leads file, List.dropLast_concat, List.dropLast_concat]

/-- A name that is too short for the extension is no name of a configuration. -/
theorem ne_sidecarOf_of_length {name : String} (short : name.length < 5) (chunk : String) :
    name ≠ sidecarOf chunk := by
  rintro rfl
  rw [sidecarOf, String.length_append] at short
  have extended : sidecarExtension.length = 5 := rfl
  omega

/-- The path of a configuration can name a file. -/
theorem namesDirectory_sidecarOf (path : String) : namesDirectory (sidecarOf path) = false := by
  obtain ⟨_, _, _, _, _, _, _, file⟩ := exists_route path
  exact file

/-- The place of a file is not where paths begin. -/
theorem placeOf_ne_nil {path : String} (file : namesDirectory path = false) :
    placeOf path ≠ [] := by
  obtain ⟨above, last, detours, _, _, leads, _, _⟩ := exists_route path
  rw [placeOf, leads file]
  exact List.concat_ne_nil last above

end ChunkCodecs
