import ChunkCodecs.Proofs.Document.Dictionaries
import ChunkCodecs.Proofs.Literal.Scalars
import ChunkCodecs.Proofs.Spelling

/-!
# Dictionaries in literals read back

A dictionary of values without parts is read back from its literal. Its entries are read one after
another up to the closing brace, and evaluated to what they were; as no name occurs twice, every
name keeps its place.
-/

namespace ChunkCodecs

open Properties (named)

namespace Literal

open Text

/-- The characters of an entry in a literal: its name, a colon and a space, and its value. -/
def entryChars (entry : String × Value) : List Char :=
  quoteChars entry.1.toList ++ ':' :: ' ' :: entry.2.literalChars

/-- What an entry is read as. -/
def entryOf (entry : String × Value) : Expression × Option Expression :=
  (.constant (.text entry.1), some (constantOf entry.2))

/-- The entries of a dictionary are written one by one. -/
theorem entriesChars_named (entries : List (String × Value)) :
    Value.entriesChars (named entries) = entries.map entryChars := by
  induction entries with
  | nil => rfl
  | cons entry others inductionHypothesis =>
    rw [List.map_cons, ← inductionHypothesis]
    rfl

/-- The literal of a dictionary is its entries in braces. -/
theorem literalChars_dict (entries : List (String × Value)) :
    (Value.dict (named entries)).literalChars =
      '\x7b' :: (Value.joinItems (entries.map entryChars) ++ ['\x7d']) := by
  rw [← entriesChars_named]
  rfl

/-- Any entry but the last one has a comma and a space behind it. -/
theorem joinItems_append (entry next : String × Value) (others : List (String × Value))
    (tail : List Char) :
    Value.joinItems ((entry :: next :: others).map entryChars) ++ tail =
      entryChars entry ++ ',' :: ' ' ::
        (Value.joinItems ((next :: others).map entryChars) ++ tail) := by
  have joined : Value.joinItems ((entry :: next :: others).map entryChars) =
      entryChars entry ++ ',' :: ' ' :: Value.joinItems ((next :: others).map entryChars) := rfl
  rw [joined, List.append_assoc, List.cons_append, List.cons_append]

/-- A quote is left out nowhere, and it closes no braces. -/
theorem isStart_of_isQuote {quote : Char} (is_quote : IsQuote quote) :
    IsStart quote ∧ quote ≠ '\x7d' := by
  rcases is_quote with rfl | rfl <;> exact ⟨⟨by decide, by decide, rfl, by decide⟩, by decide⟩

/-- An entry begins with the quote of its name. -/
theorem exists_entryChars_eq_cons (entry : String × Value) :
    ∃ quote rest, entryChars entry = quote :: rest ∧ IsQuote quote :=
  ⟨_, _, rfl, isQuote_chooseQuote _ _⟩

/-- Entries begin with the quote of a name. -/
theorem exists_joinItems_eq_cons (entry : String × Value) (others : List (String × Value))
    (tail : List Char) : ∃ quote rest,
      Value.joinItems ((entry :: others).map entryChars) ++ tail = quote :: rest ∧ IsQuote quote := by
  obtain ⟨quote, text, quoted, is_quote⟩ := exists_entryChars_eq_cons entry
  cases others with
  | nil =>
    rw [List.map_singleton, quoted]
    exact ⟨quote, _, rfl, is_quote⟩
  | cons next further =>
    rw [joinItems_append, quoted]
    exact ⟨quote, _, rfl, is_quote⟩

/-- There is nothing to skip in front of entries. -/
theorem skipInside_joinItems (entry : String × Value) (others : List (String × Value))
    (tail : List Char) :
    skipInside false (Value.joinItems ((entry :: others).map entryChars) ++ tail) =
      Value.joinItems ((entry :: others).map entryChars) ++ tail := by
  obtain ⟨quote, rest, opening, is_quote⟩ := exists_joinItems_eq_cons entry others tail
  rw [opening]
  exact skipInside_of_isStart (isStart_of_isQuote is_quote).1 rest

section

variable {α : Type} {readItem : List Char → Outcome α} {closing first : Char} {most : Nat}
  {characters more after rest : List Char} {item : α}

/-- The last item is read up to the closing bracket. -/
theorem readItems_last (opening : skipInside false characters = first :: more)
    (no_close : first ≠ closing) (read : readItem (first :: more) = some (item, after))
    (closes : skipInside false after = closing :: rest) (no_comma : closing ≠ ',') :
    readItems readItem closing (most + 1) characters = some ([item], false, rest) := by
  simp only [readItems, opening, if_neg no_close, read, closes, if_true]

/-- Any other item is read up to the comma, and then those behind it are. -/
theorem readItems_further (opening : skipInside false characters = first :: more)
    (no_close : first ≠ closing) (read : readItem (first :: more) = some (item, after))
    (comma : skipInside false after = ',' :: rest) :
    readItems readItem closing (most + 1) characters =
      (readItems readItem closing most rest).map fun found => (item :: found.1, found.2) := by
  simp only [readItems, opening, if_neg no_close, read, comma]

end

section

variable {room : Nat} {place : Surroundings} {entry : String × Value} {rest : List Char}

/-- An entry is read up to the comma or the brace behind it. -/
theorem readEntry_entryChars (room : Nat) (scalar : entry.2.IsScalar) {c : Char} (stop : IsStop c)
    (rest : List Char) :
    readEntry (readSum .brackets (readAtom room .brackets)) (entryChars entry ++ c :: rest) =
      some (entryOf entry, c :: rest) := by
  have name : readSum .brackets (readAtom room .brackets)
      (quoteChars entry.1.toList ++ ':' :: ' ' :: (entry.2.literalChars ++ c :: rest)) =
        some (.constant (.text entry.1), ':' :: ' ' :: (entry.2.literalChars ++ c :: rest)) :=
    spells_literalChars (.text entry.1) room ':' _ (.inl rfl)
  have value := spells_literalChars scalar room c rest stop
  obtain ⟨first, others, opening, start⟩ := exists_literalChars_eq_cons scalar
  have skipped : skipInside false (' ' :: (entry.2.literalChars ++ c :: rest)) =
      entry.2.literalChars ++ c :: rest := by
    rw [opening]
    exact skipInside_of_isStart start _
  have colon : skipInside false (':' :: ' ' :: (entry.2.literalChars ++ c :: rest)) =
      ':' :: ' ' :: (entry.2.literalChars ++ c :: rest) := rfl
  have characters : entryChars entry ++ c :: rest =
      quoteChars entry.1.toList ++ ':' :: ' ' :: (entry.2.literalChars ++ c :: rest) := by
    simp [entryChars]
  rw [characters, readEntry, name]
  simp only [colon, skipped, value]
  rfl

/-- Entries between commas are read up to the closing brace.

Proof: induction on the entries after the first one, which is read up to the comma or the brace. -/
theorem readItems_entries {others : List (String × Value)} {most : Nat} {characters : List Char}
    (scalars : ∀ one ∈ entry :: others, one.2.IsScalar) (enough : others.length < most)
    (skipped : skipInside false characters =
      Value.joinItems ((entry :: others).map entryChars) ++ '\x7d' :: rest) :
    readItems (readEntry (readSum .brackets (readAtom room .brackets))) '\x7d' most characters =
      some ((entry :: others).map entryOf, false, rest) := by
  induction others generalizing entry most characters with
  | nil =>
    cases most with
    | zero => cases enough
    | succ most =>
      have scalar := scalars entry List.mem_cons_self
      obtain ⟨quote, text, quoted, is_quote⟩ := exists_entryChars_eq_cons entry
      have no_brace := (isStart_of_isQuote is_quote).2
      have brace : IsStop '\x7d' := .inr (.inr rfl)
      have read := readEntry_entryChars room scalar brace rest
      have opening : skipInside false characters = quote :: (text ++ '\x7d' :: rest) := by
        rw [skipped, List.map_singleton]
        show entryChars entry ++ '\x7d' :: rest = _
        rw [quoted, List.cons_append]
      rw [quoted, List.cons_append] at read
      exact readItems_last opening no_brace read (skipInside_of_isStart brace.isStart rest)
        (by decide)
  | cons next others inductionHypothesis =>
    cases most with
    | zero => cases enough
    | succ most =>
      have scalar := scalars entry List.mem_cons_self
      obtain ⟨quote, text, quoted, is_quote⟩ := exists_entryChars_eq_cons entry
      have no_brace := (isStart_of_isQuote is_quote).2
      have comma : IsStop ',' := .inr (.inl rfl)
      have scalars_behind : ∀ one ∈ next :: others, one.2.IsScalar :=
        fun one member => scalars one (List.mem_cons_of_mem entry member)
      have led := skipInside_joinItems next others ('\x7d' :: rest)
      have joined := joinItems_append entry next others ('\x7d' :: rest)
      have remaining := @inductionHypothesis next most
        (' ' :: (Value.joinItems ((next :: others).map entryChars) ++ '\x7d' :: rest))
        scalars_behind (Nat.lt_of_succ_lt_succ enough) led
      generalize Value.joinItems ((next :: others).map entryChars) ++ '\x7d' :: rest = further
        at joined remaining
      have read := readEntry_entryChars room scalar comma (' ' :: further)
      have opening : skipInside false characters = quote :: (text ++ ',' :: ' ' :: further) := by
        rw [skipped, joined, quoted, List.cons_append]
      rw [quoted, List.cons_append] at read
      rw [readItems_further opening no_brace read (skipInside_of_isStart comma.isStart _), remaining]
      rfl

/-- Entries take at least a character each. -/
theorem length_le_length_joinItems (entries : List (String × Value)) :
    entries.length ≤ (Value.joinItems (entries.map entryChars)).length := by
  induction entries with
  | nil => exact Nat.zero_le _
  | cons entry others inductionHypothesis =>
    obtain ⟨quote, text, quoted, _⟩ := exists_entryChars_eq_cons entry
    have some_characters : 1 ≤ (entryChars entry).length := by
      rw [quoted, List.length_cons]
      omega
    cases others with
    | nil => exact some_characters
    | cons next further =>
      have whole := joinItems_append entry next further []
      simp only [List.append_nil] at whole
      rw [whole]
      simp only [List.length_append, List.length_cons] at inductionHypothesis ⊢
      omega

/-- The expression that the literal of a dictionary is read as. -/
def dictionaryOf (entries : List (String × Value)) : Expression :=
  .dict (entries.map fun entry => (.constant (.text entry.1), constantOf entry.2))

/-- Entries that have values all are those of a dictionary. -/
theorem ofEntries_map_entryOf (entries : List (String × Value)) :
    ofEntries (entries.map entryOf) = some (dictionaryOf entries) := by
  have all : (entries.map entryOf).all (fun entry => entry.2.isSome) = true := by
    simp [entryOf]
  rw [ofEntries, if_pos all, List.filterMap_map]
  simp only [Function.comp_def, entryOf, Option.map_some, List.filterMap_eq_map', dictionaryOf]

/-- A dictionary is read from its opening brace on. -/
theorem readBracketed_dict {entries : List (String × Value)}
    (scalars : ∀ entry ∈ entries, entry.2.IsScalar) (room : Nat) (rest : List Char) :
    readBracketed (readSum .brackets (readAtom room .brackets)) '\x7b'
        (Value.joinItems (entries.map entryChars) ++ '\x7d' :: rest) =
      some (dictionaryOf entries, rest) := by
  suffices items : ∃ trailing, readItems (readEntry (readSum .brackets (readAtom room .brackets)))
      '\x7d' ((Value.joinItems (entries.map entryChars) ++ '\x7d' :: rest).length + 1)
      (Value.joinItems (entries.map entryChars) ++ '\x7d' :: rest) =
        some (entries.map entryOf, trailing, rest) by
    obtain ⟨trailing, items⟩ := items
    have no_parenthesis : '\x7b' ≠ '(' := by decide
    have no_bracket : '\x7b' ≠ '[' := by decide
    simp only [readBracketed, if_neg no_parenthesis, if_neg no_bracket, items,
      ofEntries_map_entryOf]
    rfl
  cases entries with
  | nil => exact ⟨true, rfl⟩
  | cons entry others =>
    refine ⟨false, readItems_entries scalars ?_ ?_⟩
    · have least := length_le_length_joinItems (entry :: others)
      rw [List.length_append]
      simp only [List.length_cons] at least ⊢
      omega
    · exact skipInside_joinItems entry others ('\x7d' :: rest)

end

variable {entries : List (String × Value)}

/-- A brace opens what is read between braces. -/
theorem readAtom_brace (room : Nat) (place : Surroundings) (inside : List Char) :
    readAtom (room + 1) place ('\x7b' :: inside) =
      (readBracketed (readSum .brackets (readAtom room .brackets)) '\x7b' inside).bind
        fun found => readCall place found.1 found.2 := by
  rw [readAtom]
  simp only
  cases readBracketed (readSum .brackets (readAtom room .brackets)) '\x7b' inside <;> rfl

/-- A dictionary alone on a line is read of its literal. -/
theorem readOnLine_dict (scalars : ∀ entry ∈ entries, entry.2.IsScalar) :
    readOnLine (Value.dict (named entries)).literalChars = some (dictionaryOf entries, []) := by
  have braces := readBracketed_dict scalars 199 []
  rw [literalChars_dict]
  generalize Value.joinItems (entries.map entryChars) ++ ['\x7d'] = inside at braces
  have atom : readAtom maxDepth .line ('\x7b' :: inside) = some (dictionaryOf entries, []) := by
    rw [maxDepth, readAtom_brace, braces]
    rfl
  have operand (most : Nat) : readSigned .line (readAtom maxDepth .line) (most + 1)
      ('\x7b' :: inside) = some (dictionaryOf entries, []) := by
    rw [readSigned_of_ne _ _ _ (by decide), atom]
  simp only [readOnLine, readSum, operand]
  rfl

/-- The literal of a value without parts is of printable characters. -/
theorem isPrintable_of_mem_literalChars {value : Value} (scalar : value.IsScalar) {c : Char}
    (member : c ∈ value.literalChars) : isPrintable c = true := by
  cases scalar with
  | absent =>
    have every : ['N', 'o', 'n', 'e'].all isPrintable = true := by decide
    exact List.all_eq_true.mp every c member
  | truth truth =>
    have every : ['F', 'a', 'l', 's', 'e', 'T', 'r', 'u', 'e'].all isPrintable = true := by decide
    apply List.all_eq_true.mp every
    cases truth
    · exact List.mem_append_left ['T', 'r', 'u', 'e'] member
    · exact List.mem_append_right ['F', 'a', 'l', 's', 'e'] member
  | @whole number _ =>
    rcases Value.isDigit_of_mem_intChars member with rfl | digit
    · rfl
    · obtain ⟨least, greatest⟩ : 48 ≤ c.toNat ∧ c.toNat ≤ 57 := Char.isDigit_iff_toNat.mp digit
      exact isPrintable_of_ascii (by omega)
  | text content => exact isPrintable_of_mem_quoteChars member

/-- The literal of a dictionary is of printable characters. -/
theorem isPrintable_of_mem_dict (scalars : ∀ entry ∈ entries, entry.2.IsScalar) {c : Char}
    (member : c ∈ (Value.dict (named entries)).literalChars) : isPrintable c = true := by
  have entry_printable : ∀ entry ∈ entries, ∀ d ∈ entryChars entry, isPrintable d = true := by
    intro entry listed d among
    rcases List.mem_append.mp among with name | behind
    · exact isPrintable_of_mem_quoteChars name
    · simp only [List.mem_cons] at behind
      rcases behind with rfl | rfl | value
      · rfl
      · rfl
      · exact isPrintable_of_mem_literalChars (scalars entry listed) value
  have joined_printable : ∀ d ∈ Value.joinItems (entries.map entryChars), isPrintable d = true := by
    clear scalars member
    induction entries with
    | nil => nofun
    | cons entry others inductionHypothesis =>
      obtain ⟨first, behind⟩ := List.forall_mem_cons.mp entry_printable
      cases others with
      | nil => exact first
      | cons next further =>
        have remaining := inductionHypothesis behind
        have whole := joinItems_append entry next further []
        simp only [List.append_nil] at whole
        rw [whole]
        simp only [List.mem_append, List.mem_cons]
        rintro d (early | rfl | rfl | late)
        · exact first d early
        · rfl
        · rfl
        · exact remaining d late
  rw [literalChars_dict] at member
  simp only [List.mem_cons, List.mem_append, List.not_mem_nil, or_false] at member
  rcases member with rfl | among | rfl
  · rfl
  · exact joined_printable c among
  · rfl

/-- The literal of a dictionary spells the dictionary and nothing else. -/
theorem readExpression?_dict (scalars : ∀ entry ∈ entries, entry.2.IsScalar) :
    readExpression? (Value.dict (named entries)).literalChars = some (dictionaryOf entries) := by
  have whole := readOnLine_dict scalars
  have absent (c : Char) (hidden : isPrintable c = false) :
      c ∉ (Value.dict (named entries)).literalChars := by
    intro member
    cases hidden.symm.trans (isPrintable_of_mem_dict scalars member)
  have no_null : (Value.dict (named entries)).literalChars.contains '\x00' = false := by
    simpa using absent '\x00' rfl
  rw [readExpression?, if_neg (by simp only [no_null, Bool.false_eq_true, not_false_iff])]
  simp only [unifyLineEnds_of_not_mem (absent '\r' rfl)]
  rw [literalChars_dict] at whole ⊢
  generalize Value.joinItems (entries.map entryChars) ++ ['\x7d'] = inside at whole ⊢
  have line : skipEmptyLines false false
      (('\x7b' :: inside).dropWhile fun c => c = ' ' || c = '\t') = some ('\x7b' :: inside) := rfl
  have words : skipOnLine ('\x7b' :: inside) = '\x7b' :: inside := rfl
  have row : readRow (('\x7b' :: inside).length + 1) ('\x7b' :: inside) =
      some ([dictionaryOf entries], false, []) := by
    simp only [readRow, whole]
    rfl
  simp only [line, words, row]
  rfl

/-- Entries are bound one after another. -/
theorem evaluateEntries_named (entries : List (String × Value)) (bound : Properties) :
    evaluateEntries bound (entries.map fun entry =>
        (.constant (.text entry.1), constantOf entry.2)) =
      .ok (bound.update (named entries)) := by
  induction entries generalizing bound with
  | nil => rfl
  | cons entry others inductionHypothesis =>
    have name : evaluate (.constant (.text entry.1)) = .ok (.text entry.1) := by rw [evaluate]
    have hashed : requireHashable (.text entry.1) = .ok (.text entry.1) := rfl
    rw [List.map_cons, evaluateEntries, name, evaluate_constantOf]
    simp only [hashed, inductionHypothesis]
    rfl

/-- The literal of a dictionary of values without parts is read as the dictionary. -/
theorem read_dict (scalars : ∀ entry ∈ entries, entry.2.IsScalar)
    (different : (entries.map Prod.fst).Nodup) :
    Literal.read (Value.dict (named entries)).literal = .ok (.dict (named entries)) := by
  have bound : evaluateEntries [] (entries.map fun entry =>
      (.constant (.text entry.1), constantOf entry.2)) = .ok (named entries) := by
    rw [evaluateEntries_named]
    exact congrArg Except.ok (Properties.ofEntries_named different)
  rw [Literal.read, readBy, parse, Value.literal, String.toList_ofList,
    readExpression?_dict scalars]
  simp only [dictionaryOf, evaluate, bound]
  rfl

end Literal

end ChunkCodecs
