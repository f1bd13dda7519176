import Mathlib
import ChunkCodecs.Proofs.Respelling
import ChunkCodecs.Proofs.Stored

/-!
# Requests for a codec

All ways of giving an identifier and properties lead to the same codec with the same records, or
to the same fault. A request depends on the properties only through what they hold under each
name: not on the order in which the names were bound, and not on where each of them came from.
What is built, or why nothing is, depends only on what the names of the codec's own parameters
are given; other names make no difference beyond the warning about them.
-/

namespace ChunkCodecs

/-- A value that is a text is shown as that text. -/
theorem Value.display_of_text? {key : Value} {content : String}
    (text : key.text? = some content) : key.display = content := by
  cases key <;> cases text <;> rfl

/-- A text is the same key as another value if the value is that text. -/
theorem Value.sameKey_iff_of_text? {key : Value} {content : String}
    (text : key.text? = some content) (other : Value) :
    other.sameKey key = true ↔ other.text? = some content := by
  cases key <;> cases text <;> cases other <;> simp [sameKey, keyNumber?, text?]

namespace Properties

variable {properties further : Properties}

/-- The texts of the keys, in their order. -/
def names (properties : Properties) : List String := properties.keys.map Value.display

/-- All keys are texts. -/
def HasTexts (properties : Properties) : Prop :=
  ∀ key ∈ properties.keys, ∃ content, key.text? = some content

/-- A dictionary whose keys are texts: no two of them are the same text. -/
structure IsTextual (properties : Properties) : Prop where
  /-- Every key is a text. -/
  hasTexts : properties.HasTexts
  /-- No text occurs twice. -/
  different : properties.names.Nodup

/-- The empty dictionary. -/
theorem isTextual_nil : IsTextual [] := by
  constructor
  · intro key member
    cases member
  · exact List.nodup_nil

/-- The first name of a dictionary does not occur in the rest of it. -/
theorem isTextual_cons_iff {key value : Value} {rest : Properties} :
    IsTextual ((key, value) :: rest) ↔
      (∃ content, key.text? = some content) ∧ key.display ∉ rest.names ∧ rest.IsTextual := by
  constructor
  · rintro ⟨texts, different⟩
    obtain ⟨fresh, others⟩ := List.nodup_cons.mp different
    exact ⟨texts key List.mem_cons_self, fresh,
      ⟨fun other member => texts other (List.mem_cons_of_mem _ member), others⟩⟩
  · rintro ⟨text, fresh, textual⟩
    constructor
    · intro other member
      rcases List.mem_cons.mp member with rfl | later
      · exact text
      · exact textual.hasTexts other later
    · exact List.nodup_cons.mpr ⟨fresh, textual.different⟩

/-- What is found under a name in entries that begin with another or the same text. -/
theorem lookup_cons_of_text? {key : Value} {content : String} (text : key.text? = some content)
    (value : Value) (rest : Properties) (name : String) :
    lookup ((key, value) :: rest) name =
      if content = name then some value else rest.lookup name := by
  have same : key.sameKey (.text name) = true ↔ content = name := by
    rw [Value.sameKey_iff_of_text? rfl, text, Option.some_inj]
  simp only [lookup, get?, same]

/-- The names of textual entries are the ones that something is found under. -/
theorem mem_names_iff (texts : properties.HasTexts) {name : String} :
    name ∈ properties.names ↔ (properties.lookup name).isSome = true := by
  induction properties with
  | nil => exact iff_of_false List.not_mem_nil (by simp [lookup, get?])
  | cons entry rest inductionHypothesis =>
    obtain ⟨content, text⟩ := texts entry.1 List.mem_cons_self
    have others := inductionHypothesis fun key member => texts key (List.mem_cons_of_mem _ member)
    have shown := Value.display_of_text? text
    rw [lookup_cons_of_text? text, names, keys, List.map_cons, List.map_cons, shown,
      List.mem_cons]
    by_cases here : content = name
    · simp [here]
    · rw [if_neg here, ← others]
      exact or_iff_right (Ne.symm here)

/-- A key that is bound is the last one unless it is there already. -/
theorem keys_insert {key : Value} {content : String} (text : key.text? = some content)
    (value : Value) (texts : properties.HasTexts) :
    (properties.insert key value).keys =
      if content ∈ properties.names then properties.keys else properties.keys ++ [key] := by
  induction properties with
  | nil => rfl
  | cons entry rest inductionHypothesis =>
    obtain ⟨present, entry_text⟩ := texts entry.1 List.mem_cons_self
    have others := inductionHypothesis fun key member => texts key (List.mem_cons_of_mem _ member)
    have shown := Value.display_of_text? entry_text
    have same : entry.1.sameKey key = true ↔ present = content := by
      rw [Value.sameKey_iff_of_text? text, entry_text, Option.some_inj]
    have listed : content ∈ names (entry :: rest) ↔ present = content ∨ content ∈ names rest := by
      rw [names, keys, List.map_cons, List.map_cons, shown, List.mem_cons, eq_comm]
      rfl
    by_cases here : present = content
    · rw [if_pos (listed.mpr (.inl here)), insert, if_pos (same.mpr here)]
      rfl
    · rw [insert, if_neg (mt same.mp here)]
      show entry.1 :: (Properties.insert rest key value).keys = _
      rw [others]
      by_cases later : content ∈ names rest
      · rw [if_pos later, if_pos (listed.mpr (.inr later))]
        rfl
      · rw [if_neg later, if_neg (mt listed.mp (not_or.mpr ⟨here, later⟩))]
        rfl

/-- Binding a text in a dictionary leaves a dictionary. -/
theorem IsTextual.insert (textual : properties.IsTextual) {key : Value} {content : String}
    (text : key.text? = some content) (value : Value) :
    (properties.insert key value).IsTextual := by
  have bound := keys_insert text value textual.hasTexts
  by_cases present : content ∈ properties.names
  · rw [if_pos present] at bound
    constructor
    · intro other member
      exact textual.hasTexts other (bound ▸ member)
    · rw [names, bound]
      exact textual.different
  · rw [if_neg present] at bound
    constructor
    · intro other member
      rw [bound, List.mem_append, List.mem_singleton] at member
      rcases member with earlier | rfl
      · exact textual.hasTexts other earlier
      · exact ⟨content, text⟩
    · rw [names, bound, List.map_append, List.map_singleton, Value.display_of_text? text]
      exact List.nodup_append.mpr ⟨textual.different, List.nodup_singleton _, by
        rintro name member other single rfl
        exact present (List.mem_singleton.mp single ▸ member)⟩

/-- Binding texts in a dictionary one after another leaves a dictionary. -/
theorem IsTextual.update (textual : properties.IsTextual) (texts : further.HasTexts) :
    (properties.update further).IsTextual := by
  induction further generalizing properties with
  | nil => exact textual
  | cons entry rest inductionHypothesis =>
    obtain ⟨content, text⟩ := texts entry.1 List.mem_cons_self
    exact inductionHypothesis (textual.insert text entry.2)
      fun key member => texts key (List.mem_cons_of_mem _ member)

/-- Textual entries make a dictionary. -/
theorem isTextual_ofEntries (texts : further.HasTexts) : (ofEntries further).IsTextual :=
  isTextual_nil.update texts

/-- A text that is bound is found under its name, and all other names hold what they held. -/
theorem lookup_insert {key : Value} {content : String} (text : key.text? = some content)
    (value : Value) (name : String) :
    (properties.insert key value).lookup name =
      if content = name then some value else properties.lookup name := by
  induction properties with
  | nil => exact lookup_cons_of_text? text value [] name
  | cons entry rest inductionHypothesis =>
    by_cases here : entry.1.sameKey key = true
    · have entry_text := (Value.sameKey_iff_of_text? text entry.1).mp here
      rw [Properties.insert, if_pos here, lookup_cons_of_text? entry_text,
        lookup_cons_of_text? entry_text]
      split <;> rfl
    · rw [Properties.insert, if_neg here]
      by_cases found : entry.1.sameKey (.text name) = true
      · have other : content ≠ name := by
          rintro rfl
          exact here <| (Value.sameKey_iff_of_text? text entry.1).mpr <|
            (Value.sameKey_iff_of_text? rfl entry.1).mp found
        simp only [lookup, get?, found, if_true, if_neg other]
      · simp only [lookup, get?, found] at inductionHypothesis ⊢
        exact inductionHypothesis

/-- A dictionary that is bound over another one hides what it has itself. -/
theorem lookup_update (textual : further.IsTextual) (name : String) :
    (properties.update further).lookup name =
      (further.lookup name).or (properties.lookup name) := by
  induction further generalizing properties with
  | nil => rfl
  | cons entry rest inductionHypothesis =>
    obtain ⟨⟨content, text⟩, fresh, others⟩ := isTextual_cons_iff.mp textual
    have step : (properties.update (entry :: rest)).lookup name =
        (lookup rest name).or ((properties.insert entry.1 entry.2).lookup name) :=
      inductionHypothesis others
    rw [step, lookup_insert text, lookup_cons_of_text? text]
    by_cases here : content = name
    · have absent : lookup rest name = none := by
        rw [mem_names_iff others.hasTexts, Value.display_of_text? text, here] at fresh
        simpa using fresh
      simp only [here, if_true, absent, Option.none_or, Option.some_or]
    · simp only [if_neg here]

/-- Among entries that make a dictionary the last one of a name wins. -/
theorem lookup_ofEntries (texts : properties.HasTexts) (name : String) :
    (ofEntries properties).lookup name = lookup properties.reverse name := by
  induction properties using List.reverseRecOn with
  | nil => rfl
  | append_singleton earlier last inductionHypothesis =>
    have last_listed : last.1 ∈ keys (earlier ++ [last]) := by simp [keys]
    obtain ⟨content, text⟩ := texts last.1 last_listed
    have earlier_texts : HasTexts earlier := by
      intro key member
      apply texts key
      rw [keys, List.map_append]
      exact List.mem_append_left _ member
    have bound : ofEntries (earlier ++ [last]) = (ofEntries earlier).insert last.1 last.2 := by
      rw [ofEntries, update, List.foldl_append]
      rfl
    rw [bound, lookup_insert text, inductionHypothesis earlier_texts, List.reverse_append]
    exact (lookup_cons_of_text? text last.2 earlier.reverse name).symm

/-- A name that does not occur among entries is not in the dictionary that they make. -/
theorem lookup_ofEntries_eq_none (texts : properties.HasTexts) {name : String}
    (fresh : name ∉ properties.names) : (ofEntries properties).lookup name = none := by
  have reversed_texts : HasTexts properties.reverse := by
    intro key member
    apply texts key
    rw [keys, List.map_reverse] at member
    exact List.mem_reverse.mp member
  have absent : name ∉ names properties.reverse := by
    rw [names, keys, List.map_reverse, List.map_reverse, List.mem_reverse]
    exact fresh
  rw [mem_names_iff reversed_texts] at absent
  rw [lookup_ofEntries texts]
  simpa using absent

/-- Among keys that are texts there is none that is no text. -/
theorem HasTexts.any_isNone (texts : properties.HasTexts) :
    properties.keys.any (fun key => key.text?.isNone) = false := by
  rw [List.any_eq_false]
  intro key member
  obtain ⟨content, text⟩ := texts key member
  simp [text]

/-- A key is another one than a name that nothing is found under. -/
theorem HasTexts.sameKey_eq_false (texts : properties.HasTexts) {name : String}
    (absent : properties.lookup name = none) {key : Value} (member : key ∈ properties.keys) :
    key.sameKey (.text name) = false := by
  obtain ⟨content, text⟩ := texts key member
  have listed : content ∈ properties.names :=
    Value.display_of_text? text ▸ List.mem_map_of_mem member
  rw [Bool.eq_false_iff, ne_eq, Value.sameKey_iff_of_text? rfl, text]
  intro same
  obtain rfl := Option.some.inj same
  rw [mem_names_iff texts, absent] at listed
  exact absurd listed (by decide)

/-- Leaving out a name that nothing is found under leaves out nothing. -/
theorem HasTexts.filter_not_sameKey (texts : properties.HasTexts) {name : String}
    (absent : properties.lookup name = none) :
    properties.filter (fun entry => !entry.1.sameKey (.text name)) = properties := by
  rw [List.filter_eq_self]
  intro entry member
  rw [texts.sameKey_eq_false absent (List.mem_map_of_mem member), Bool.not_false]

/-- Two dictionaries give a name the same if they hold the same under it. -/
theorem given?_congr {name : String} (same : properties.lookup name = further.lookup name) :
    properties.given? name = further.given? name := by
  rw [given?, given?, same]

end Properties

open Properties

/-- The unknown names are those that are neither known nor `id`, in the order of their code
points. -/
theorem Parameter.unknownKeys_eq {properties : Properties} (texts : properties.HasTexts)
    (known : List String) :
    unknownKeys properties known =
      (properties.names.filter fun name => name ∉ "id" :: known).mergeSort
        fun left right => decide (left ≤ right) := by
  have unused (keys : List Value) (texts : ∀ key ∈ keys, ∃ content, key.text? = some content) :
      (keys.filter fun key =>
          !(("id" :: known).any fun name => key.sameKey (.text name))).map Value.display =
        (keys.map Value.display).filter fun name => name ∉ "id" :: known := by
    rw [List.filter_map]
    congr 1
    apply List.filter_congr
    intro key member
    obtain ⟨content, text⟩ := texts key member
    have same (name : String) : key.sameKey (.text name) = true ↔ content = name := by
      rw [Value.sameKey_iff_of_text? rfl, text, Option.some_inj]
    rw [Bool.eq_iff_iff, Function.comp_apply, Value.display_of_text? text]
    simp only [Bool.not_eq_true', List.any_eq_false, same, decide_eq_true_eq]
    exact List.forall_mem_ne
  rw [unknownKeys, unused properties.keys texts]
  rfl

/-- Dictionaries that hold the same names have the same unknown names. -/
theorem Parameter.unknownKeys_congr {properties others : Properties}
    (textual : properties.IsTextual) (others_textual : others.IsTextual) (known : List String)
    (same : ∀ name, name ≠ "id" → properties.lookup name = others.lookup name) :
    unknownKeys properties known = unknownKeys others known := by
  rw [unknownKeys_eq textual.hasTexts, unknownKeys_eq others_textual.hasTexts]
  have same_names : (properties.names.filter fun name => name ∉ "id" :: known).Perm
      (others.names.filter fun name => name ∉ "id" :: known) := by
    rw [List.perm_ext_iff_of_nodup (textual.different.filter _) (others_textual.different.filter _)]
    intro name
    simp only [List.mem_filter, decide_eq_true_eq, List.mem_cons, not_or,
      mem_names_iff textual.hasTexts, mem_names_iff others_textual.hasTexts]
    exact and_congr_left fun unknown => by rw [same name unknown.1]
  -- Sorting leaves one list of all those with the same names, as the order is total.
  apply @List.Perm.eq_of_pairwise String fun left right => left ≤ right
  · intro left right _ _ below above
    exact String.le_antisymm below above
  · exact List.pairwise_mergeSort' _ _
  · exact List.pairwise_mergeSort' _ _
  · exact (List.mergeSort_perm _ _).trans (same_names.trans (List.mergeSort_perm _ _).symm)

/-- The records of a journal that are no warnings. -/
def Journal.withoutWarnings (journal : Journal) : Journal :=
  journal.filter fun entry => entry.level ≠ .warning

/-- Records in front of others are looked through first. -/
theorem Journal.withoutWarnings_append (earlier later : Journal) :
    withoutWarnings (earlier ++ later) = earlier.withoutWarnings ++ later.withoutWarnings :=
  List.filter_append earlier later

namespace Codec

/-- What is configured depends on the parameters of the scheme alone. -/
theorem configure_congr {scheme : CodecId} {properties others : Properties}
    (same : ∀ name ∈ (knownKeys? scheme).getD [],
      properties.given? name = others.given? name) :
    configure scheme properties = configure scheme others := by
  have read {α : Type} (reader : ParameterName → Value → Parameter.Reading α) (owner key : String)
      (known : key ∈ (knownKeys? scheme).getD []) :
      Parameter.readOptional reader properties ⟨owner, key⟩ =
        Parameter.readOptional reader others ⟨owner, key⟩ := by
    rw [Parameter.readOptional, Parameter.readOptional, same key known]
  cases scheme with
  | identity => rfl
  | zlib =>
    rw [configure, configure, Deflate.Settings.ofProperties, Deflate.Settings.ofProperties,
      read _ _ "level" (by decide)]
  | blosc =>
    rw [configure, configure, Blosc.Settings.ofProperties, Blosc.Settings.ofProperties,
      read _ _ "cname" (by decide), read _ _ "clevel" (by decide), read _ _ "shuffle" (by decide),
      read _ _ "blocksize" (by decide)]
  | j2k =>
    simp only [configure, Raster.Settings.ofProperties, read _ _ "quality" (by decide),
      read _ _ "littleEndian" (by decide), read _ _ "interleaved" (by decide),
      read _ _ "imageWidth" (by decide), read _ _ "imageHeight" (by decide),
      read _ _ "bitsPerSample" (by decide), read _ _ "channels" (by decide),
      read _ _ "lossless" (by decide)]

/-- What is built depends on the parameters of the scheme alone. -/
theorem result_build_congr {scheme : CodecId} {properties others : Properties}
    (same : ∀ name ∈ (knownKeys? scheme).getD [],
      properties.given? name = others.given? name) :
    (build scheme properties).result = (build scheme others).result := by
  rw [result_build, result_build, configure_congr same]

/-- Dictionaries that hold the same names are built, recorded and warned about alike; what they
hold under `id` does not matter. -/
theorem build_congr {scheme : CodecId} {properties others : Properties}
    (textual : properties.IsTextual) (others_textual : others.IsTextual)
    (same : ∀ name, name ≠ "id" → properties.lookup name = others.lookup name) :
    build scheme properties = build scheme others := by
  have warnings (known : List String) (codec : String) :
      Parameter.warnUnknown properties known codec = Parameter.warnUnknown others known codec := by
    rw [Parameter.warnUnknown, Parameter.unknownKeys_congr textual others_textual known same,
      Parameter.warnUnknown]
  have configured : configure scheme properties = configure scheme others := by
    apply configure_congr
    intro name known
    apply given?_congr
    apply same
    rintro rfl
    cases scheme <;> exact absurd known (by decide)
  rw [build, build, configured]
  cases knownKeys? scheme with
  | none => rfl
  | some known => simp only [warnings]

/-- A request without a dictionary in front is about its identifier. -/
theorem create_of_gather {first id : Value} {further : List Value} {properties : Properties}
    (gathered : gather first further = .ok (id, properties)) (options : Properties) :
    create first further options = match resolve id with
      | .error cause => ⟨[], .error (Fault.refuse cause)⟩
      | .ok scheme => build scheme (properties.update options) := by
  cases resolved : resolve id <;> simp only [create, gathered, resolved]

/-- Apart from warnings, building records the codec that is built, and nothing if there is none. -/
theorem withoutWarnings_journal_build (scheme : CodecId) (properties : Properties) :
    (build scheme properties).journal.withoutWarnings =
      ((build scheme properties).result.toOption.map fun codec =>
        ⟨.debug, .factory, "Created codec " ++ codec.describe⟩).toList := by
  have silent (known : List String) (codec : String) :
      (Parameter.warnUnknown properties known codec).withoutWarnings = [] := by
    rw [Parameter.warnUnknown]
    split <;> rfl
  rw [build]
  cases configure scheme properties with
  | error fault =>
    cases knownKeys? scheme with
    | none => rfl
    | some known => exact silent known scheme.name
  | ok codec =>
    by_cases shown : codec.isPrintable = true
    · simp only [shown, if_true, Journal.withoutWarnings_append]
      cases knownKeys? scheme with
      | none => rfl
      | some known =>
        simp only [silent]
        rfl
    · simp only [shown, Bool.false_eq_true, if_false]
      cases knownKeys? scheme with
      | none => rfl
      | some known => exact silent known scheme.name

/-- An identifier that identifies nothing is refused in one way, whatever the dictionary is. -/
theorem exists_create_dict_of_not_resolved {id : Value} {cause : ConfigurationFault}
    (unresolved : resolve id = .error cause) :
    ∃ refused : Logged Codec, ∀ properties, create id [.dict properties] [] = refused := by
  by_cases plain : ∀ entries, id ≠ .dict entries
  · refine ⟨⟨[], .error (Fault.refuse cause)⟩, fun properties => ?_⟩
    rw [create_of_gather (gather_dict plain properties), unresolved]
  · push Not at plain
    obtain ⟨entries, rfl⟩ := plain
    exact ⟨⟨[], .error (Fault.refuse .argumentsAfterProperties)⟩, fun _ => rfl⟩

/-- Requests for one identifier with the same names come to the same. -/
theorem create_congr {first other id : Value} {further also : List Value}
    {properties others options changes : Properties}
    (gathered : gather first further = .ok (id, properties))
    (also_gathered : gather other also = .ok (id, others))
    (textual : (properties.update options).IsTextual)
    (others_textual : (others.update changes).IsTextual)
    (same : ∀ name, name ≠ "id" →
      (properties.update options).lookup name = (others.update changes).lookup name) :
    create first further options = create other also changes := by
  rw [create_of_gather gathered, create_of_gather also_gathered]
  cases resolve id with
  | error cause => rfl
  | ok scheme => exact build_congr textual others_textual same

/-- Every other element of keys and values in turn is a key. -/
theorem everyOther_turns (pairs : List (Value × Value)) :
    everyOther (pairs.flatMap fun pair => [pair.1, pair.2]) = pairs.map Prod.fst := by
  induction pairs with
  | nil => rfl
  | cons pair rest inductionHypothesis =>
    show pair.1 :: everyOther (rest.flatMap fun pair => [pair.1, pair.2]) = _
    rw [inductionHypothesis, List.map_cons]

/-- Every other element behind the first key is a value. -/
theorem everyOther_drop_turns (pairs : List (Value × Value)) :
    everyOther ((pairs.flatMap fun pair => [pair.1, pair.2]).drop 1) = pairs.map Prod.snd := by
  induction pairs with
  | nil => rfl
  | cons pair rest inductionHypothesis =>
    show everyOther (pair.2 :: rest.flatMap fun pair => [pair.1, pair.2]) = _
    cases rest with
    | nil => rfl
    | cons next others =>
      show pair.2 :: everyOther (next.2 :: others.flatMap fun pair => [pair.1, pair.2]) = _
      exact congrArg (pair.2 :: ·) inductionHypothesis

/-- Keys and values in turn make the dictionary of the pairs, if all keys are texts. -/
theorem pairUp_turns {pairs : List (Value × Value)} (texts : HasTexts pairs) :
    pairUp (pairs.flatMap fun pair => [pair.1, pair.2]) = .ok (ofEntries pairs) := by
  have even : (pairs.flatMap fun pair => [pair.1, pair.2]).length % 2 = 0 := by
    simp [List.length_flatMap]
  have no_other : (pairs.map Prod.fst).find? (fun key => key.text?.isNone) = none := by
    rw [List.find?_eq_none]
    intro key member
    obtain ⟨content, text⟩ := texts key member
    simp [text]
  rw [pairUp, if_neg (not_not.mpr even), everyOther_turns]
  have paired : (pairs.map Prod.fst).zip (pairs.map Prod.snd) = pairs := by
    rw [← List.unzip_fst, ← List.unzip_snd, List.zip_unzip]
  simp only [no_other, everyOther_drop_turns, paired]

/-- Keys and values in turn behind an identifier make the dictionary of the pairs. -/
theorem gather_turns {id : Value} (plain : ∀ entries, id ≠ .dict entries)
    {pairs : List (Value × Value)} (texts : HasTexts pairs) :
    gather id (pairs.flatMap fun pair => [pair.1, pair.2]) = .ok (id, ofEntries pairs) := by
  have no_dictionary (entries : Properties) :
      (pairs.flatMap fun pair => [pair.1, pair.2]) ≠ [.dict entries] := by
    intro single
    have length := congrArg List.length single
    simp [List.length_flatMap] at length
  rw [gather, pairUp_turns texts]
  · rfl
  · exact plain
  · exact no_dictionary

/-- A dictionary that holds an identifier besides other names asks for that identifier. -/
theorem gather_embedded {id : Value} {properties : Properties} (textual : properties.IsTextual)
    (absent : properties.lookup "id" = none) :
    gather (.dict (update [(.text "id", id)] properties)) [] =
      .ok (id, update [(.text "id", id)] properties) := by
  have held : (update [(.text "id", id)] properties).lookup "id" = some id := by
    rw [lookup_update textual, absent]
    rfl
  rw [gather, held]
  rfl

/-- Options of ordinary names are added to what the arguments amount to. -/
theorem call_cons_of_isTextual {options : Properties} (textual : options.IsTextual)
    (ordinary : options.lookup firstParameter = none) (first : Value) (further : List Value) :
    call (first :: further) options = create first further options := by
  simp only [call, textual.hasTexts.any_isNone, Bool.false_eq_true, if_false, ordinary,
    textual.hasTexts.filter_not_sameKey ordinary]

/-- The arguments that give an identifier and properties without options: a dictionary that holds
the identifier as well, the identifier and a dictionary, or the identifier with keys and values in
turn. -/
inductive Gives (id : Value) (held : List (Value × Value)) : List Value → Prop where
  /-- The dictionary holds the identifier. -/
  | embedded : Gives id held [.dict (update [(.text "id", id)] (ofEntries held))]
  /-- The dictionary stands behind the identifier. -/
  | dictionary : Gives id held [id, .dict (ofEntries held)]
  /-- Keys and values stand in turn behind the identifier. -/
  | turns : Gives id held (id :: held.flatMap fun pair => [pair.1, pair.2])

/-- Arguments come to their identifier and to a dictionary that holds what they give, and perhaps
the identifier. -/
theorem Gives.exists_gather {id : Value} (plain : ∀ entries, id ≠ .dict entries)
    {held : List (Value × Value)} (texts : HasTexts held)
    (no_id : (ofEntries held).lookup "id" = none) {arguments : List Value}
    (gives : Gives id held arguments) :
    ∃ first further properties, arguments = first :: further ∧
      gather first further = .ok (id, properties) ∧ properties.IsTextual ∧
      ∀ name, name ≠ "id" → properties.lookup name = (ofEntries held).lookup name := by
  have textual := isTextual_ofEntries texts
  cases gives with
  | embedded =>
    have single : IsTextual [(.text "id", id)] :=
      isTextual_cons_iff.mpr ⟨⟨"id", rfl⟩, List.not_mem_nil, isTextual_nil⟩
    refine ⟨_, _, _, rfl, gather_embedded textual no_id, single.update textual.hasTexts, ?_⟩
    intro name other
    have unnamed : lookup [(.text "id", id)] name = none := by
      rw [lookup_cons_text, if_neg other.symm]
      rfl
    rw [lookup_update textual, unnamed, Option.or_none]
  | dictionary => exact ⟨_, _, _, rfl, gather_dict plain _, textual, fun _ _ => rfl⟩
  | turns => exact ⟨_, _, _, rfl, gather_turns plain texts, textual, fun _ _ => rfl⟩

/-- All ways of giving an identifier and properties agree. For an identifier that is no dictionary
and for pairs whose keys are texts other than `id` and the name of the first parameter, the
dictionary that holds the identifier besides the pairs, the identifier and the dictionary of the
pairs, the identifier with the pairs in turn, and the identifier with the pairs as options lead to
one codec with one journal, or to one fault. So do all ways of giving some names in the arguments
and some as options, as long as what the options leave together with the arguments is the
dictionary of the pairs. Of several pairs with one key the last one counts. -/
theorem call_forms_agree {id : Value} (plain : ∀ entries, id ≠ .dict entries)
    {pairs : List (Value × Value)} (texts : HasTexts pairs) (no_id : "id" ∉ names pairs)
    (no_first : firstParameter ∉ names pairs) :
    call [.dict (update [(.text "id", id)] (ofEntries pairs))] [] =
        call [id, .dict (ofEntries pairs)] [] ∧
      call (id :: pairs.flatMap fun pair => [pair.1, pair.2]) [] =
        call [id, .dict (ofEntries pairs)] [] ∧
      call [id] (ofEntries pairs) = call [id, .dict (ofEntries pairs)] [] ∧
      (∀ held options, HasTexts held → HasTexts options →
        (∀ name, ((ofEntries held).update (ofEntries options)).lookup name =
          (ofEntries pairs).lookup name) →
        ∀ arguments, Gives id held arguments →
          call arguments (ofEntries options) = call [id, .dict (ofEntries pairs)] []) ∧
      ∀ name, (ofEntries pairs).lookup name = lookup pairs.reverse name := by
  have textual := isTextual_ofEntries texts
  have splits : ∀ held options, HasTexts held → HasTexts options →
      (∀ name, ((ofEntries held).update (ofEntries options)).lookup name =
        (ofEntries pairs).lookup name) →
      ∀ arguments, Gives id held arguments →
        call arguments (ofEntries options) = call [id, .dict (ofEntries pairs)] [] := by
    intro held options held_texts options_texts together arguments gives
    have options_textual := isTextual_ofEntries options_texts
    -- What the pairs do not name is named neither by the arguments nor by the options.
    have unnamed (name : String) (fresh : name ∉ names pairs) :
        (ofEntries options).lookup name = none ∧ (ofEntries held).lookup name = none := by
      have absent := together name
      rw [lookup_update options_textual, lookup_ofEntries_eq_none texts fresh] at absent
      exact Option.or_eq_none_iff.mp absent
    obtain ⟨first, further, properties, rfl, gathered, properties_textual, same⟩ :=
      gives.exists_gather plain held_texts (unnamed "id" no_id).2
    rw [call_cons_of_isTextual options_textual (unnamed _ no_first).1, call_cons_nil]
    apply create_congr gathered (gather_dict plain _)
    · exact properties_textual.update options_textual.hasTexts
    · exact textual
    · intro name other
      rw [lookup_update options_textual, same name other, ← lookup_update options_textual]
      exact together name
  have alone (name : String) : ((ofEntries []).update (ofEntries pairs)).lookup name =
      (ofEntries pairs).lookup name := by
    rw [lookup_update textual]
    exact Option.or_none
  have none_texts : HasTexts [] := isTextual_nil.hasTexts
  refine ⟨?_, ?_, ?_, splits, lookup_ofEntries texts⟩
  · exact splits pairs [] texts none_texts (fun _ => rfl) _ .embedded
  · exact splits pairs [] texts none_texts (fun _ => rfl) _ .turns
  · exact splits [] pairs none_texts texts alone _ .turns

/-- A level that is given twice, with a name that no codec knows between. -/
def levelGivenTwice : List (Value × Value) :=
  [(.text "level", .int 1), (.text "extra", .none), (.text "level", .text "5")]

/-- The later of two levels counts, wherever it is given. -/
theorem call_levelGivenTwice :
    (∀ entries, Value.text " Deflate " ≠ .dict entries) ∧ HasTexts levelGivenTwice ∧
      "id" ∉ names levelGivenTwice ∧ firstParameter ∉ names levelGivenTwice ∧
      ∃ logged : Logged Codec, logged.result = .ok (deflate ⟨5⟩) ∧
        call [.dict [(.text "id", .text " Deflate "), (.text "level", .text "5"),
          (.text "extra", .none)]] [] = logged ∧
        call [.text " Deflate ", .text "level", .int 1, .text "extra", .none, .text "level",
          .text "5"] [] = logged ∧
        call [.text " Deflate ", .text "level", .int 1]
          [(.text "extra", .none), (.text "level", .text "5")] = logged := by
  have plain (entries : List (Value × Value)) : Value.text " Deflate " ≠ .dict entries := nofun
  have all_texts {pairs : List (Value × Value)}
      (all : pairs.all (fun pair => pair.1.text?.isSome) = true) : HasTexts pairs := by
    intro key member
    obtain ⟨pair, listed, rfl⟩ := List.mem_map.mp member
    exact Option.isSome_iff_exists.mp (List.all_eq_true.mp all pair listed)
  have texts : HasTexts levelGivenTwice := all_texts rfl
  have no_id : "id" ∉ names levelGivenTwice := by decide
  have no_first : firstParameter ∉ names levelGivenTwice := by decide
  obtain ⟨embedded, turns, _, splits, _⟩ := call_forms_agree plain texts no_id no_first
  have split := splits [(.text "level", .int 1)]
    [(.text "extra", .none), (.text "level", .text "5")]
    (all_texts rfl) (all_texts rfl) (fun _ => rfl) _ .turns
  have configured : configure .zlib (ofEntries levelGivenTwice) = .ok (deflate ⟨5⟩) := rfl
  have resolved : resolve (.text " Deflate ") = .ok .zlib := rfl
  refine ⟨plain, texts, no_id, no_first, _, ?_, embedded, turns, split⟩
  rw [call_cons_nil, result_create_dict resolved]
  exact result_build_of_configure configured (isPrintable_deflate _)

/-- What a request with an identifier and a dictionary comes to depends only on what the names of
the codec's own parameters are given: not on the order of the dictionary, and not on any other
name. A name that holds the absent value is given nothing. Apart from the warning about other
names, the records are the same as well. -/
theorem call_congr {id : Value} {properties others : Properties}
    (same : ∀ scheme, resolve id = .ok scheme → ∀ name ∈ (knownKeys? scheme).getD [],
      properties.given? name = others.given? name) :
    (call [id, .dict properties] []).result = (call [id, .dict others] []).result ∧
      (call [id, .dict properties] []).journal.withoutWarnings =
        (call [id, .dict others] []).journal.withoutWarnings := by
  rw [call_cons_nil, call_cons_nil]
  cases resolved : resolve id with
  | error cause =>
    obtain ⟨refused, always⟩ := exists_create_dict_of_not_resolved resolved
    rw [always, always]
    exact ⟨rfl, rfl⟩
  | ok scheme =>
    have built := result_build_congr (same scheme resolved)
    have plain (entries : Properties) : id ≠ .dict entries := by
      rintro rfl
      cases resolved
    have built_of (given : Properties) : create id [.dict given] [] = build scheme given := by
      rw [create_of_gather (gather_dict plain given), resolved]
      rfl
    rw [built_of, built_of, withoutWarnings_journal_build, withoutWarnings_journal_build,
      built]
    exact ⟨rfl, rfl⟩

/-- Properties with a name that no codec knows, and a filter that is given nothing. -/
def crowdedProperties : Properties :=
  [(.text "shape", .list [.int 4]), (.text "clevel", .int 9), (.text "shuffle", .none),
    (.text "cname", .text "zstd")]

/-- The same parameters alone, in another order. -/
def bareProperties : Properties := [(.text "cname", .text "zstd"), (.text "clevel", .int 9)]

/-- Both properties give the parameters of a blosc codec the same, so both make one codec. -/
theorem call_crowdedProperties :
    (∀ scheme, resolve (.codec .blosc) = .ok scheme → ∀ name ∈ (knownKeys? scheme).getD [],
        crowdedProperties.given? name = bareProperties.given? name) ∧
      ∃ codec, (call [.codec .blosc, .dict crowdedProperties] []).result = .ok codec ∧
        (call [.codec .blosc, .dict bareProperties] []).result = .ok codec := by
  have same : ∀ scheme, resolve (.codec .blosc) = .ok scheme →
      ∀ name ∈ (knownKeys? scheme).getD [],
        crowdedProperties.given? name = bareProperties.given? name := by
    intro scheme resolved name known
    cases resolved
    simp only [knownKeys?, Option.getD_some, Blosc.Settings.knownKeys, List.mem_cons,
      List.not_mem_nil, or_false] at known
    rcases known with rfl | rfl | rfl | rfl <;> rfl
  have resolved : resolve (.codec .blosc) = .ok .blosc := rfl
  have configured : configure .blosc bareProperties =
      .ok (.blosc ⟨.zstd, .plain "zstd", rfl, 9, .bytes, 0⟩) := rfl
  have built : (call [.codec .blosc, .dict bareProperties] []).result =
      .ok (.blosc ⟨.zstd, .plain "zstd", rfl, 9, .bytes, 0⟩) := by
    rw [call_cons_nil, result_create_dict resolved]
    exact result_build_of_configure configured
      (isPrintable_blosc (Value.intIsPrintable_of_lt (by decide)))
  exact ⟨same, _, (call_congr same).1.trans built, built⟩

end Codec

end ChunkCodecs
