import ChunkCodecs.Proofs.Requests

/-!
# Warnings about unused parameters

A codec uses the parameters that its settings depend on. All other names of a request, apart from
`id`, are reported: in one warning, which shows them in the order of their code points, whichever
way the request is put and whether or not the settings are valid then; and without such names
there is no warning. Only the identity codec reports nothing, although it uses no parameter at
all, so a request for it is reported properly exactly if it has no name besides `id`.
-/

namespace ChunkCodecs

namespace Properties

variable {properties : Properties}

/-- Some of the entries of a dictionary are a dictionary. -/
theorem IsTextual.filter (textual : properties.IsTextual) (kept : Value × Value → Bool) :
    IsTextual (properties.filter kept) := by
  have fewer : (keys (properties.filter kept)).Sublist properties.keys :=
    List.filter_sublist.map Prod.fst
  constructor
  · intro key member
    exact textual.hasTexts key (fewer.subset member)
  · exact textual.different.sublist (fewer.map Value.display)

end Properties

open Properties

namespace Parameter

variable {properties : Properties} {known : List String}

/-- The unknown names are those that are neither known nor `id`. -/
theorem mem_unknownKeys_iff (textual : properties.IsTextual) {name : String} :
    name ∈ unknownKeys properties known ↔
      (properties.lookup name).isSome = true ∧ name ≠ "id" ∧ name ∉ known := by
  rw [unknownKeys_eq textual.hasTexts, List.mem_mergeSort, List.mem_filter,
    mem_names_iff textual.hasTexts, decide_eq_true_eq, List.mem_cons, not_or]

/-- The unknown names are in the order of their code points, and none is shown twice. -/
theorem pairwise_unknownKeys (textual : properties.IsTextual) :
    (unknownKeys properties known).Pairwise (· < ·) := by
  rw [unknownKeys_eq textual.hasTexts]
  have different := (List.mergeSort_perm _ fun left right => decide (left ≤ right)).nodup_iff.mpr
    (textual.different.filter fun name => name ∉ "id" :: known)
  have ordered := List.pairwise_mergeSort' (fun left right : String => left ≤ right)
    (properties.names.filter fun name => name ∉ "id" :: known)
  apply (ordered.and different).imp
  rintro left right ⟨below, other⟩
  exact lt_of_le_of_ne below other

end Parameter

namespace CodecId

/-- A codec uses a parameter if some value of it, for some values of the others, makes a
difference to the settings or to whether they are valid. -/
def Uses (scheme : CodecId) (name : String) : Prop :=
  ∃ (properties : Properties) (value : Value),
    Codec.configure scheme (properties.insert (.text name) value) ≠
      Codec.configure scheme properties

/-- The parameters that a codec uses are the ones that it knows.

Proof: settings are read from the known parameters alone. A list is not valid for any of them,
while the settings of no parameters are. -/
theorem uses_iff {scheme : CodecId} {name : String} :
    scheme.Uses name ↔ name ∈ (Codec.knownKeys? scheme).getD [] := by
  constructor
  · rintro ⟨properties, value, different⟩
    by_contra unknown
    apply different
    apply Codec.configure_congr
    intro other known
    apply given?_congr
    rw [lookup_insert rfl, if_neg]
    rintro rfl
    exact unknown known
  · intro known
    refine ⟨[], .list [], ?_⟩
    intro same
    have valid : (Codec.configure scheme []).toOption.isSome = true := by
      cases scheme <;> decide
    have refused : ∀ known ∈ (Codec.knownKeys? scheme).getD [],
        (Codec.configure scheme [(.text known, .list [])]).toOption.isSome = false := by
      cases scheme <;> decide
    have both := (congrArg (fun made => made.toOption.isSome) same).symm.trans (refused name known)
    exact Bool.noConfusion (valid.symm.trans both)

/-- Warnings report the unused parameters of a request: in one warning that names them in the
order of their code points, or not at all if there are none. -/
def Reports (scheme : CodecId) (properties : Properties) (warnings : Journal) : Prop :=
  ∃ names : List String, names.Pairwise (· < ·) ∧
    (∀ name, name ∈ names ↔
      (properties.lookup name).isSome = true ∧ name ≠ "id" ∧ ¬ scheme.Uses name) ∧
    warnings = if names = [] then [] else
      [⟨.warning, .parameters,
        scheme.name ++ ": ignoring unknown parameter(s): " ++ ", ".intercalate names⟩]

end CodecId

/-- Records in front of others are looked through first. -/
theorem Journal.warnings_append (earlier later : Journal) :
    warnings (earlier ++ later) = earlier.warnings ++ later.warnings :=
  List.filter_append earlier later

namespace Codec

/-- The warnings of building a codec are those about unknown parameters, whether or not the
settings are valid. -/
theorem warnings_journal_build (scheme : CodecId) (properties : Properties) :
    (build scheme properties).journal.warnings =
      match knownKeys? scheme with
      | none => []
      | some known => Parameter.warnUnknown properties known scheme.name := by
  have loud (known : List String) (codec : String) :
      (Parameter.warnUnknown properties known codec).warnings =
        Parameter.warnUnknown properties known codec := by
    rw [Parameter.warnUnknown]
    split <;> rfl
  rw [build]
  cases configure scheme properties with
  | error fault =>
    cases knownKeys? scheme with
    | none => rfl
    | some known => exact loud known scheme.name
  | ok codec =>
    by_cases shown : codec.isPrintable = true
    · simp only [shown, if_true, Journal.warnings_append]
      cases knownKeys? scheme with
      | none => rfl
      | some known =>
        simp only [loud]
        exact List.append_nil _
    · simp only [shown, Bool.false_eq_true, if_false]
      cases knownKeys? scheme with
      | none => rfl
      | some known => exact loud known scheme.name

/-- The warnings of building a codec report the unused parameters, unless there are some and the
codec is the identity. -/
theorem reports_build_iff {scheme : CodecId} {properties : Properties}
    (textual : properties.IsTextual) :
    scheme.Reports properties (build scheme properties).journal.warnings ↔
      (scheme = .identity → ∀ name, (properties.lookup name).isSome = true → name = "id") := by
  rw [warnings_journal_build]
  cases listed : knownKeys? scheme with
  | none =>
    have same : scheme = .identity := by cases scheme <;> first | rfl | cases listed
    have unused (name : String) : ¬ scheme.Uses name := by
      rw [CodecId.uses_iff, listed]
      exact List.not_mem_nil
    constructor
    · rintro ⟨names, _, exactly, reported⟩ _ name held
      by_contra other
      have listed_name := (exactly name).mpr ⟨held, other, unused name⟩
      rw [if_neg (List.ne_nil_of_mem listed_name)] at reported
      cases reported
    · intro quiet
      refine ⟨[], .nil, ?_, rfl⟩
      intro name
      refine iff_of_false List.not_mem_nil ?_
      rintro ⟨held, other, _⟩
      exact other (quiet same name held)
  | some known =>
    have other : scheme ≠ .identity := by
      rintro rfl
      cases listed
    refine iff_of_true ?_ fun same => absurd same other
    refine ⟨Parameter.unknownKeys properties known, Parameter.pairwise_unknownKeys textual, ?_, ?_⟩
    · intro name
      rw [Parameter.mem_unknownKeys_iff textual, CodecId.uses_iff, listed, Option.getD_some]
    · show Parameter.warnUnknown properties known scheme.name = _
      rw [Parameter.warnUnknown]
      cases Parameter.unknownKeys properties known <;> rfl

/-- The first argument and the further ones give an identifier and properties: as a dictionary
that holds the identifier, as the identifier and a dictionary, or as the identifier with keys and
values in turn. -/
inductive Names (id : Value) : Properties → Value → List Value → Prop
  /-- The dictionary holds the identifier. -/
  | embedded {held : Properties} (textual : held.IsTextual)
      (identifier : held.lookup "id" = some id) : Names id held (.dict held) []
  /-- The dictionary stands behind the identifier. -/
  | dictionary {held : Properties} (textual : held.IsTextual) : Names id held id [.dict held]
  /-- Keys and values stand in turn behind the identifier. -/
  | turns {pairs : List (Value × Value)} (texts : HasTexts pairs) :
      Names id (ofEntries pairs) id (pairs.flatMap fun pair => [pair.1, pair.2])

/-- A request asks for an identifier with properties, some of them given as options. The first
argument may be one of the options. -/
inductive Asks (id : Value) : Properties → List Value → Properties → Prop
  /-- The first argument comes first. -/
  | positional {held options : Properties} {first : Value} {further : List Value}
      (names : Names id held first further) (textual : options.IsTextual)
      (ordinary : options.lookup firstParameter = none) :
      Asks id (held.update options) (first :: further) options
  /-- The first argument is given by its name. -/
  | byName {held options : Properties} {first : Value} (names : Names id held first [])
      (textual : options.IsTextual) (named : options.lookup firstParameter = some first) :
      Asks id (held.update
        (options.filter fun entry => !entry.1.sameKey (.text firstParameter))) [] options

variable {id first : Value} {further arguments : List Value}
  {held properties options : Properties}

/-- Arguments come to the identifier and the dictionary that they give. -/
theorem Names.gather_eq (names : Names id held first further)
    (plain : ∀ entries, id ≠ .dict entries) : gather first further = .ok (id, held) := by
  cases names with
  | embedded textual identifier =>
    rw [gather, identifier]
    rfl
  | dictionary textual => exact gather_dict plain held
  | turns texts => exact gather_turns plain texts

/-- What arguments give is a dictionary. -/
theorem Names.isTextual (names : Names id held first further) : held.IsTextual := by
  cases names with
  | embedded textual identifier => exact textual
  | dictionary textual => exact textual
  | turns texts => exact isTextual_ofEntries texts

/-- What a request gives is a dictionary. -/
theorem Asks.isTextual (asks : Asks id properties arguments options) : properties.IsTextual := by
  cases asks with
  | positional names textual ordinary => exact names.isTextual.update textual.hasTexts
  | byName names textual named => exact names.isTextual.update (textual.filter _).hasTexts

/-- A request comes to building the codec of its identifier with its properties. -/
theorem Asks.call_eq {scheme : CodecId} (asks : Asks id properties arguments options)
    (resolved : resolve id = .ok scheme) : call arguments options = build scheme properties := by
  have plain (entries : Properties) : id ≠ .dict entries := by
    rintro rfl
    cases resolved
  cases asks with
  | positional names textual ordinary =>
    rw [call_cons_of_isTextual textual ordinary, create_of_gather (names.gather_eq plain), resolved]
  | byName names textual named =>
    have all_texts : options.keys.any (fun key => key.text?.isNone) = false := by
      rw [List.any_eq_false]
      intro key member
      obtain ⟨content, text⟩ := textual.hasTexts key member
      simp [text]
    simp only [call, all_texts, Bool.false_eq_true, if_false, named]
    rw [create_of_gather (names.gather_eq plain), resolved]

/-- A request for a codec reports the parameters that the codec does not use, whichever way it is
put and whatever comes of it, unless it asks for the identity codec with some name besides `id`. -/
theorem call_reports_iff {scheme : CodecId} (asks : Asks id properties arguments options)
    (resolved : resolve id = .ok scheme) :
    scheme.Reports properties (call arguments options).journal.warnings ↔
      (scheme = .identity → ∀ name, (properties.lookup name).isSome = true → name = "id") := by
  rw [asks.call_eq resolved]
  exact reports_build_iff asks.isTextual

/-- A request under a further name, with a level out of range and names that no codec knows. -/
theorem native_frame_reported :
    ∃ properties : Properties, properties.names = ["zeta", "clevel", "alpha"] ∧
      resolve (.text "native-frame") = .ok .blosc ∧
      Asks (.text "native-frame") properties
        [.text "native-frame", .text "zeta", .int 1, .text "clevel", .int 99]
        [(.text "alpha", .none)] ∧
      CodecId.Reports .blosc properties
        (call [.text "native-frame", .text "zeta", .int 1, .text "clevel", .int 99]
          [(.text "alpha", .none)]).journal.warnings ∧
      ∃ fault, (call [.text "native-frame", .text "zeta", .int 1, .text "clevel", .int 99]
        [(.text "alpha", .none)]).result = .error fault := by
  have texts : HasTexts [(.text "zeta", .int 1), (.text "clevel", .int 99)] := by
    intro key member
    simp only [keys, List.map_cons, List.map_nil, List.mem_cons, List.not_mem_nil,
      or_false] at member
    rcases member with rfl | rfl <;> exact ⟨_, rfl⟩
  have option : IsTextual [(.text "alpha", .none)] :=
    isTextual_cons_iff.mpr ⟨⟨_, rfl⟩, List.not_mem_nil, isTextual_nil⟩
  have asks : Asks (.text "native-frame") _
      [.text "native-frame", .text "zeta", .int 1, .text "clevel", .int 99]
      [(.text "alpha", .none)] := .positional (.turns texts) option rfl
  have resolved : resolve (.text "native-frame") = .ok .blosc := rfl
  have other : CodecId.blosc ≠ .identity := CodecId.noConfusion
  refine ⟨_, rfl, resolved, asks,
    (call_reports_iff asks resolved).mpr fun same => absurd same other, ?_⟩
  rw [asks.call_eq resolved]
  exact ⟨_, rfl⟩

/-- A level that the identity codec is given is ignored without a warning. -/
theorem identity_level_unreported :
    Asks (.text "identity") [(.text "level", .int 1)]
        [.text "identity", .dict [(.text "level", .int 1)]] [] ∧
      (call [.text "identity", .dict [(.text "level", .int 1)]] []).journal.warnings = [] ∧
      ¬ CodecId.Reports .identity [(.text "level", .int 1)]
        (call [.text "identity", .dict [(.text "level", .int 1)]] []).journal.warnings := by
  have held : IsTextual [(.text "level", .int 1)] :=
    isTextual_cons_iff.mpr ⟨⟨_, rfl⟩, List.not_mem_nil, isTextual_nil⟩
  have asks : Asks (.text "identity") [(.text "level", .int 1)]
      [.text "identity", .dict [(.text "level", .int 1)]] [] :=
    .positional (.dictionary held) isTextual_nil rfl
  have resolved : resolve (.text "identity") = .ok .identity := rfl
  have called := asks.call_eq resolved
  refine ⟨asks, ?_, ?_⟩
  · rw [called]
    rfl
  · rw [called, reports_build_iff held]
    intro quiet
    exact absurd (quiet rfl "level" rfl) (by decide)

end Codec

end ChunkCodecs
