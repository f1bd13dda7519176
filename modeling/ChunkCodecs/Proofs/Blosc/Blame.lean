import ChunkCodecs.Blosc.Standard
import ChunkCodecs.Proofs.Blosc.Framing

/-!
# Who answers for a frame that is not made

A content is not compressed for one of three reasons. The library cannot be used; or it fails in
the call, by a report of its own or because it was called with a number that it cannot take; or
it returns a buffer whose sizes do not go together with the content.

The last of these is a failure of the library, since nothing is stored yet that could be
malformed. It is told as one, with an exception: sizes that no frame can have are refused while
they are read, before they are compared with anything, and in the words for stored frames.

Nothing is assumed of the buffer that a library returns.
-/

namespace ChunkCodecs

namespace Blosc

/-- A library that cannot be loaded is a dependency that is missing. -/
theorem exists_dependency_of_load {library : Option Library} {fault : Fault} {journal : Journal}
    (refused : Library.load library = (.error fault, journal)) :
    ∃ cause, fault = .dependency cause := by
  unfold Library.load at refused
  split at refused
  · cases refused
    exact ⟨_, rfl⟩
  · split at refused
    · split at refused
      · cases refused
      · cases refused
        exact ⟨_, rfl⟩
    · cases refused
      exact ⟨_, rfl⟩

/-- A content is compressed by a usable library, or there is a dependency missing. -/
theorem compress_cases (library : Library) (settings : Settings) (source : Source) :
    (∃ journal after, library.IsUsable journal ∧ compress (some library) settings source =
        .conclude after journal (library.encode settings source.rest)) ∨
      (∀ journal, ¬ library.IsUsable journal) ∧ ∃ cause after journal,
        compress (some library) settings source = .failed (.dependency cause) after journal := by
  cases loading : Library.load (some library) with
  | mk loaded journal =>
    cases loaded with
    | ok loaded =>
      obtain rfl := eq_of_load loading
      refine .inl ⟨journal, source.readAll.2, loading, ?_⟩
      simp only [compress, compressTold, loading]
      rfl
    | error fault =>
      obtain ⟨cause, rfl⟩ := exists_dependency_of_load loading
      refine .inr ⟨?_, cause, source.readAll.2, journal, ?_⟩
      · intro other usable
        cases loading.symm.trans usable
      · simp only [compress, compressTold, loading]

section Sizes

/-- The sizes that are told of a buffer, if it is long enough to have a header: by the library, or
else from the fixed layout. -/
def Library.sizesTold (library : Library) (buffer : Bytes) : Option FrameSizes :=
  if buffer.length < headerSize then none
  else match library.frameSizes? with
    | some tell => some (tell (buffer.take headerSize))
    | none => (Header.parse? buffer).map Header.sizes

/-- Sizes go together with the buffer that they are told of and with the size of the content: the
frame has a header, is no longer than the buffer and than the content with a header, and declares
the content. -/
def FrameSizes.AreConsistent (sizes : FrameSizes) (buffer : Bytes) (size : Nat) : Prop :=
  headerSize ≤ sizes.frame ∧ sizes.frame ≤ min buffer.length (size + headerSize) ∧
    sizes.content = size

/-- Sizes are let pass when they are read: they are within the limits of the format, and on the
fixed layout the frame has a header. -/
def Library.LetsPass (library : Library) (sizes : FrameSizes) : Prop :=
  sizes.content ≤ maxContentSize ∧ sizes.frame ≤ maxContentSize + headerSize ∧
    (library.frameSizes? = none → headerSize ≤ sizes.frame)

/-- The sizes that are told of a buffer are read exactly if they are let pass; others make the
buffer malformed. -/
theorem introspect_cases {library : Library} {buffer : Bytes} {sizes : FrameSizes}
    (told : library.sizesTold buffer = some sizes) :
    library.LetsPass sizes ∧ library.introspect (buffer.take headerSize) = .ok sizes ∨
      ¬ library.LetsPass sizes ∧
        ∃ cause, library.introspect (buffer.take headerSize) = .error (.malformed cause) := by
  simp only [Library.sizesTold, Option.ite_none_left_eq_some, Nat.not_lt] at told
  obtain ⟨long, told⟩ := told
  cases provided : library.frameSizes? with
  | some tell =>
    simp only [provided, Option.some.injEq] at told
    have read : library.introspect (buffer.take headerSize) = checkLimits sizes := by
      simp only [Library.introspect, provided, List.take_take, Nat.min_self, told]
    rw [read]
    rcases checkLimits_cases sizes with ⟨⟨content, frame⟩, passed⟩ | ⟨beyond, refused⟩
    · exact .inl ⟨⟨content, frame, by simp [provided]⟩, passed⟩
    · exact .inr ⟨fun pass => beyond ⟨pass.1, pass.2.1⟩, _, refused⟩
  | none =>
    simp only [provided, Option.map_eq_some_iff] at told
    obtain ⟨header, parsed, rfl⟩ := told
    rw [← Header.parse?_take buffer long] at parsed
    rw [introspect_fixed provided parsed]
    by_cases small : header.frameSize.toNat < headerSize
    · rw [if_pos small]
      exact .inr ⟨fun pass => Nat.not_le.mpr small (pass.2.2 provided), _, rfl⟩
    · rw [if_neg small]
      rcases checkLimits_cases header.sizes with ⟨⟨content, frame⟩, passed⟩ | ⟨beyond, refused⟩
      · exact .inl ⟨⟨content, frame, fun _ => Nat.not_lt.mp small⟩, passed⟩
      · exact .inr ⟨fun pass => beyond ⟨pass.1, pass.2.1⟩, _, refused⟩

/-- A frame is cut from a buffer exactly if its sizes are consistent; otherwise the library has
failed. -/
theorem trimFrame_cases (buffer : Bytes) (sizes : FrameSizes) (size : Nat) :
    sizes.AreConsistent buffer size ∧ trimFrame buffer sizes size = .ok (buffer.take sizes.frame) ∨
      ¬ sizes.AreConsistent buffer size ∧
        ∃ cause, trimFrame buffer sizes size = .error (.native cause) := by
  by_cases consistent : sizes.AreConsistent buffer size
  · obtain ⟨large, inside, declared⟩ := consistent
    exact .inl ⟨⟨large, inside, declared⟩, trimFrame_eq_ok_iff.mpr ⟨large, inside, declared, rfl⟩⟩
  · refine .inr ⟨consistent, ?_⟩
    unfold trimFrame
    split
    · exact ⟨_, rfl⟩
    · next inside =>
      simp only [Bool.or_eq_true, decide_eq_true_eq, not_or, Nat.not_lt] at inside
      have other : sizes.content ≠ size := fun declared => consistent ⟨inside.1, inside.2, declared⟩
      rw [if_pos other]
      exact ⟨_, rfl⟩

/-- What comes of a buffer that a library returned: it is too short to be told sizes of, or its
sizes are malformed, or they are let pass and compared with the buffer and the content. -/
theorem encode_cases {library : Library} {settings : Settings} {content buffer : Bytes}
    (returned : library.compress settings content = .ok buffer) :
    (library.sizesTold buffer = none ∧
        ∃ cause, library.encode settings content = .error (.native cause)) ∨
      ∃ sizes, library.sizesTold buffer = some sizes ∧
        (¬ library.LetsPass sizes ∧
            (∃ cause, library.encode settings content = .error (.malformed cause)) ∨
          library.LetsPass sizes ∧
            library.encode settings content = trimFrame buffer sizes content.length) := by
  by_cases short : buffer.length < headerSize
  · have front : (buffer.take headerSize).length < headerSize := by
      rw [List.length_take]
      omega
    have untold : library.sizesTold buffer = none := by rw [Library.sizesTold, if_pos short]
    refine .inl ⟨untold, .headerTooShort (buffer.take headerSize).length, ?_⟩
    simp only [Library.encode, Library.encodeTold, returned, front, if_true]
  · have front : ¬ (buffer.take headerSize).length < headerSize := by
      rw [List.length_take]
      omega
    obtain ⟨header, parsed⟩ := Header.exists_parse?_of_le (Nat.not_lt.mp short)
    obtain ⟨sizes, told⟩ : ∃ sizes, library.sizesTold buffer = some sizes := by
      cases provided : library.frameSizes? with
      | some tell =>
        exact ⟨tell (buffer.take headerSize), by simp [Library.sizesTold, short, provided]⟩
      | none => exact ⟨header.sizes, by simp [Library.sizesTold, short, provided, parsed]⟩
    refine .inr ⟨sizes, told, ?_⟩
    rcases introspect_cases told with ⟨pass, read⟩ | ⟨barred, cause, refused⟩
    · refine .inr ⟨pass, ?_⟩
      simp only [Library.encode, Library.encodeTold, returned, front, if_false, read, Except.bind]
    · refine .inl ⟨barred, cause, ?_⟩
      simp only [Library.encode, Library.encodeTold, returned, front, if_false, refused, Except.bind]

/-- What should come of a buffer that a library returned for a content of a size: the frame that
its sizes tell if they are consistent, and otherwise a failure of the library. -/
inductive IsJudged (buffer : Bytes) (told : Option FrameSizes) (size : Nat) :
    Except Fault Bytes → Prop
  /-- The frame is cut from the buffer. -/
  | made {sizes : FrameSizes} (are_told : told = some sizes)
      (consistent : sizes.AreConsistent buffer size) :
      IsJudged buffer told size (.ok (buffer.take sizes.frame))
  /-- The library has failed. -/
  | failed (inconsistent : ∀ sizes, told = some sizes → ¬ sizes.AreConsistent buffer size)
      (cause : NativeFault) : IsJudged buffer told size (.error (.native cause))

/-- What a usable library returned is judged by its sizes exactly if these are let pass where they
are read; sizes that are not make it malformed instead.

Proof: the encoder compares the sizes as the judgement does, once they have passed. -/
theorem compress_isJudged_iff {library : Library} {journal : Journal}
    (usable : library.IsUsable journal) {settings : Settings} {source : Source} {buffer : Bytes}
    (returned : library.compress settings source.rest = .ok buffer) :
    (IsJudged buffer (library.sizesTold buffer) source.rest.length
        (compress (some library) settings source).result ↔
      ∀ sizes, library.sizesTold buffer = some sizes → library.LetsPass sizes) ∧
    ∀ sizes, library.sizesTold buffer = some sizes → ¬ library.LetsPass sizes →
      ∃ cause, (compress (some library) settings source).result = .error (.malformed cause) := by
  have encoded : (compress (some library) settings source).result =
      library.encode settings source.rest := by
    rcases compress_cases library settings source with ⟨_, _, _, concluded⟩ | ⟨unusable, _⟩
    · rw [concluded, Transfer.result_conclude]
    · exact absurd usable (unusable journal)
  rw [encoded]
  rcases encode_cases returned with ⟨nothing, cause, refused⟩ | ⟨sizes, told, outcome⟩
  · rw [nothing, refused]
    have untold : ∀ sizes, (none : Option FrameSizes) ≠ some sizes := nofun
    exact ⟨iff_of_true (.failed (fun sizes told => absurd told (untold sizes)) cause)
      fun sizes told => absurd told (untold sizes), fun sizes told => absurd told (untold sizes)⟩
  · simp only [told, Option.some.injEq, forall_eq']
    rcases outcome with ⟨barred, cause, refused⟩ | ⟨pass, compared⟩
    · rw [refused]
      exact ⟨iff_of_false nofun barred, fun _ => ⟨cause, rfl⟩⟩
    · rw [compared]
      refine ⟨iff_of_true ?_ pass, fun barred => absurd pass barred⟩
      rcases trimFrame_cases buffer sizes source.rest.length with
        ⟨consistent, cut⟩ | ⟨inconsistent, cause, refused⟩
      · rw [cut]
        exact .made rfl consistent
      · rw [refused]
        refine .failed ?_ cause
        intro other same
        obtain rfl := Option.some.inj same
        exact inconsistent

/-- The standard library, if it returns a header in front of every content and may tell sizes. -/
def Library.returning (header : Header) (tell : Option (Bytes → FrameSizes)) : Library :=
  { Library.standard with
    frameSizes? := tell, compress := fun _ content => .ok (header.toBytes ++ content) }

/-- A library that declares a frame of three bytes has its buffer called malformed on the fixed
layout, although nothing is stored; if it tells the same sizes itself, it is what has failed. -/
theorem smallFrame_blamed :
    (compress (some (.returning ⟨2, 1, 2, 1, 3, 3, 3⟩ none)) .standard (.ofBytes [1, 2, 3])).result =
        .error (.malformed (.frameSize 3)) ∧
      ¬ IsJudged ((⟨2, 1, 2, 1, 3, 3, 3⟩ : Header).toBytes ++ [1, 2, 3]) (some ⟨3, 3, 3⟩) 3
        (compress (some (.returning ⟨2, 1, 2, 1, 3, 3, 3⟩ none)) .standard
          (.ofBytes [1, 2, 3])).result ∧
      (compress (some (.returning ⟨2, 1, 2, 1, 3, 3, 3⟩ (some nativeSizes))) .standard
          (.ofBytes [1, 2, 3])).result = .error (.native (.frameRange 3 19)) := by
  have blamed : (compress (some (.returning ⟨2, 1, 2, 1, 3, 3, 3⟩ none)) .standard
      (.ofBytes [1, 2, 3])).result = .error (.malformed (.frameSize 3)) := rfl
  refine ⟨blamed, ?_, rfl⟩
  rw [blamed]
  nofun

/-- A header that declares four bytes is judged in front of three, and so are three bytes that it
declares in a frame of a thousand. -/
theorem inconsistentHeaders_judged :
    (compress (some (.returning ⟨2, 1, 2, 1, 4, 0, 19⟩ none)) .standard (.ofBytes [1, 2, 3])).result =
        .error (.native (.contentSize 4 3)) ∧
      IsJudged ((⟨2, 1, 2, 1, 4, 0, 19⟩ : Header).toBytes ++ [1, 2, 3]) (some ⟨4, 19, 0⟩) 3
        (.error (.native (.contentSize 4 3))) ∧
      IsJudged ((⟨2, 1, 2, 1, 3, 0, 1000⟩ : Header).toBytes ++ [1, 2, 3]) (some ⟨3, 1000, 0⟩) 3
        (compress (some (.returning ⟨2, 1, 2, 1, 3, 0, 1000⟩ none)) .standard
          (.ofBytes [1, 2, 3])).result := by
  have usable (header : Header) : (Library.returning header none).IsUsable
      [⟨.debug, .bloscLibrary, "Loaded blosc 1.21.7.dev"⟩] := rfl
  have four := (compress_isJudged_iff (usable ⟨2, 1, 2, 1, 4, 0, 19⟩)
    (show (Library.returning _ none).compress .standard (Source.ofBytes [1, 2, 3]).rest = _ from
      rfl)).1.mpr
  have thousand := (compress_isJudged_iff (usable ⟨2, 1, 2, 1, 3, 0, 1000⟩)
    (show (Library.returning _ none).compress .standard (Source.ofBytes [1, 2, 3]).rest = _ from
      rfl)).1.mpr
  refine ⟨rfl, four ?_, thousand ?_⟩
  · rintro sizes ⟨⟩
    exact ⟨by decide, by decide, fun _ => by decide⟩
  · rintro sizes ⟨⟩
    exact ⟨by decide, by decide, fun _ => by decide⟩

end Sizes

end Blosc

end ChunkCodecs
