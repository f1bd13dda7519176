import ChunkCodecs.Proofs.Document.Dictionaries
import ChunkCodecs.Proofs.Literal.Dictionaries

/-!
# Literals as documents

The literal of a dictionary need not be a document. If it is one all the same, it is that of the
same dictionary: words and quotes that documents do not have are defects, and the escapes that both
have mean the same in both.
-/

namespace ChunkCodecs.Document

open Text
open Properties (named)
open Literal (Spelling IsQuote entryChars)

/-- What is expected is read, or there is a defect. -/
inductive ReadsOrDefect {α : Type} (expected : α) : Except Failure α → Prop where
  /-- It is read. -/
  | read : ReadsOrDefect expected (.ok expected)
  /-- There is a defect. -/
  | defective (defect : Defect) (left : Nat) :
      ReadsOrDefect expected (.error (.defective defect left))

/-- What is made of a thing is made of it if it is read. -/
theorem ReadsOrDefect.map {α β : Type} {expected : α} {outcome : Except Failure α}
    (reads : ReadsOrDefect expected outcome) (make : α → β) :
    ReadsOrDefect (make expected) (outcome.map make) := by
  cases reads with
  | read => exact .read
  | defective defect left => exact .defective defect left

/-- Characters are read as a value or are defective, up to where a numeral would end. -/
def MayReadAs (written : List Char) (value : Value) : Prop :=
  ∀ room rest, EndsNumeral rest → ReadsOrDefect (value, rest) (readValue room (written ++ rest))

/-- What is read as a value at every depth is never defective. -/
theorem ReadsAs.mayReadAs {written : List Char} {value : Value} (reads : ReadsAs written value) :
    MayReadAs written value := by
  intro room rest ends
  rw [reads room rest ends]
  exact .read

/-- What begins like no value is defective. -/
theorem mayReadAs_of_missing {c : Char} (other : c ≠ '"' ∧ c ≠ '[' ∧ c ≠ '\x7b')
    (no_minus : c ≠ '-') (no_digit : c.isDigit = false) {others : List Char}
    (no_word : ∀ rest, readWord? (c :: others ++ rest) = none) (value : Value) :
    MayReadAs (c :: others) value := by
  intro room rest _
  have missing := no_word rest
  rw [List.cons_append] at missing ⊢
  rw [readValue_of_missing other missing no_minus no_digit]
  exact .defective _ _

/-- A letter that escapes nothing is a defect. -/
theorem readCodes_badEscape (whole : List Char) {letter : Char} (no_code : letter ≠ 'u')
    (unknown : escaped? letter = none) (rest : List Char) :
    readCodes whole ('\\' :: letter :: rest) = .error (.defective .badEscape (rest.length + 2)) := by
  rw [readCodes.eq_def]
  split <;> grind

/-- The spelling of a character between double quotes is read as its code, or is defective. -/
theorem readCodes_quoteChar (whole : List Char) (c : Char) {codes : List Nat}
    {characters rest : List Char} (nonempty : characters ≠ [])
    (reads : ReadsOrDefect (codes, rest) (readCodes whole characters)) :
    ReadsOrDefect (c.toNat :: codes, rest) (readCodes whole (quoteChar '"' c ++ characters)) := by
  have goes_on : ReadsOrDefect (c.toNat :: codes, rest)
      (consCode c.toNat (readCodes whole characters)) :=
    reads.map fun found => (c.toNat :: found.1, found.2)
  have spelling := Literal.spelling_quoteChar '"' c
  generalize quoteChar '"' c = spelled at spelling ⊢
  cases spelling with
  | mark is_mark =>
    have known : escaped? c = some c := by
      rcases is_mark with rfl | rfl <;> rfl
    show ReadsOrDefect _ (readCodes whole ('\\' :: c :: characters))
    rw [readCodes_escape whole known]
    exact goes_on
  | @control letter known =>
    have meant : escaped? letter = some c := by
      simp only [List.mem_cons, Prod.mk.injEq, List.not_mem_nil, or_false] at known
      rcases known with ⟨rfl, rfl⟩ | ⟨rfl, rfl⟩ | ⟨rfl, rfl⟩ <;> rfl
    show ReadsOrDefect _ (readCodes whole ('\\' :: letter :: characters))
    rw [readCodes_escape whole meant]
    exact goes_on
  | itself no_quote no_backslash printable =>
    have printed : ¬ c.toNat < 0x20 := by
      intro control
      simp only [isPrintable] at printable
      rw [if_pos (by omega)] at printable
      have above := of_decide_eq_true printable
      omega
    rw [List.singleton_append, readCodes_plain whole no_quote no_backslash printed]
    exact goes_on
  | code marked fits =>
    rw [List.cons_append, List.cons_append]
    cases marked with
    | two =>
      rw [readCodes_badEscape whole (by decide) rfl]
      exact .defective _ _
    | four =>
      rw [readCodes_code whole fits nonempty]
      exact goes_on
    | eight =>
      rw [readCodes_badEscape whole (by decide) rfl]
      exact .defective _ _

/-- The spellings of characters up to the closing quote are read as their codes, or one of them is
defective. -/
theorem readCodes_quoted (whole content rest : List Char) :
    ReadsOrDefect (content.map Char.toNat, rest)
      (readCodes whole (content.flatMap (quoteChar '"') ++ '"' :: rest)) := by
  induction content with
  | nil => exact .read
  | cons c others inductionHypothesis =>
    rw [List.flatMap_cons, List.append_assoc]
    exact readCodes_quoteChar whole c (by simp) inductionHypothesis

/-- A text between double quotes is read as itself, or is defective. -/
theorem readText_quoted (content rest : List Char) :
    ReadsOrDefect (String.ofList content, rest)
      (readText (content.flatMap (quoteChar '"') ++ '"' :: rest)) := by
  have codes := readCodes_quoted
    ('"' :: (content.flatMap (quoteChar '"') ++ '"' :: rest)) content rest
  have text := codes.map fun found => (String.ofList (joinCodes found.1), found.2)
  rw [joinCodes_map_toNat] at text
  exact text

/-- A text is led by one of the quotes, and up to the same quote its characters are spelled. -/
theorem exists_quoteChars_append (content : List Char) (tail : List Char) :
    ∃ quote, IsQuote quote ∧ quoteChars content ++ tail =
      quote :: (content.flatMap (quoteChar quote) ++ quote :: tail) :=
  ⟨chooseQuote (content.contains '\'') (content.contains '"'), Literal.isQuote_chooseQuote _ _,
    by simp [quoteChars]⟩

/-- A quoted text is read as itself, or is defective. -/
theorem mayReadAs_quoteChars (content : List Char) :
    MayReadAs (quoteChars content) (.text (String.ofList content)) := by
  intro room rest _
  obtain ⟨quote, is_quote, quoted⟩ := exists_quoteChars_append content rest
  rw [quoted]
  rcases is_quote with rfl | rfl
  · rw [readValue_of_missing (by decide) rfl (by decide) rfl]
    exact .defective _ _
  · rw [readValue.eq_def]
    exact (readText_quoted content rest).map fun found => (Value.text found.1, found.2)

/-- The literal of a value without parts is read as the value, or is defective. -/
theorem mayReadAs_literalChars {value : Value} (scalar : value.IsScalar) :
    MayReadAs value.literalChars value := by
  cases scalar with
  | absent =>
    show MayReadAs ['N', 'o', 'n', 'e'] .none
    exact mayReadAs_of_missing (by decide) (by decide) rfl (fun _ => rfl) _
  | truth truth =>
    cases truth with
    | false =>
      show MayReadAs ['F', 'a', 'l', 's', 'e'] (.bool false)
      exact mayReadAs_of_missing (by decide) (by decide) rfl (fun _ => rfl) _
    | true =>
      show MayReadAs ['T', 'r', 'u', 'e'] (.bool true)
      exact mayReadAs_of_missing (by decide) (by decide) rfl (fun _ => rfl) _
  | whole printable => exact (readsAs_int printable).mayReadAs
  | text content =>
    have quoted := mayReadAs_quoteChars content.toList
    rw [String.ofList_toList] at quoted
    exact quoted

/-- There is no blank in front of the literal of a value without parts. -/
theorem skipBlanks_literalChars {value : Value} (scalar : value.IsScalar) (tail : List Char) :
    skipBlanks (value.literalChars ++ tail) = value.literalChars ++ tail := by
  obtain ⟨first, others, opening, start⟩ := Literal.exists_literalChars_eq_cons scalar
  have printable : isPrintable first = true := by
    apply Literal.isPrintable_of_mem_literalChars scalar
    rw [opening]
    exact List.mem_cons_self
  rw [opening]
  apply skipBlanks_cons
  rw [Bool.eq_false_iff]
  intro blank
  simp only [isBlank, Bool.or_eq_true, decide_eq_true_eq] at blank
  rcases blank with ((rfl | rfl) | rfl) | rfl
  · cases start.no_space
  all_goals cases printable

/-- The name of an entry is read up to its value, or is defective. -/
theorem readName_quoteChars (name : String) (tail : List Char) :
    ReadsOrDefect (name, skipBlanks tail)
      (readName (quoteChars name.toList ++ ':' :: ' ' :: tail)) := by
  obtain ⟨quote, is_quote, quoted⟩ := exists_quoteChars_append name.toList (':' :: ' ' :: tail)
  rw [quoted]
  rcases is_quote with rfl | rfl
  · exact .defective _ _
  · have text := readText_quoted name.toList (':' :: ' ' :: tail)
    rw [String.ofList_toList] at text
    rw [readName]
    generalize readText (name.toList.flatMap (quoteChar '"') ++ '"' :: ':' :: ' ' :: tail) =
      outcome at text ⊢
    cases text with
    | read =>
      simp only [skipBlanks_cons (show isBlank ':' = false from rfl)]
      exact .read
    | defective defect left => exact .defective defect left

/-- There is no blank in front of entries. -/
theorem skipBlanks_joinItems (entry : String × Value) (others : List (String × Value))
    (tail : List Char) :
    skipBlanks (Value.joinItems ((entry :: others).map entryChars) ++ tail) =
      Value.joinItems ((entry :: others).map entryChars) ++ tail := by
  obtain ⟨quote, rest, opening, is_quote⟩ := Literal.exists_joinItems_eq_cons entry others tail
  rw [opening]
  rcases is_quote with rfl | rfl <;> exact skipBlanks_cons rfl rest

section

variable {entry : String × Value} {room most : Nat} {tail rest : List Char}

/-- The name and the value of an entry are read, or one of them is defective. -/
theorem readMembers_entryChars (scalar : entry.2.IsScalar) (ends : EndsNumeral tail)
    {members : List (Value × Value)}
    (goes_on : ReadsOrDefect (members, rest) (match skipBlanks tail with
      | '\x7d' :: rest => .ok ([(.text entry.1, entry.2)], rest)
      | ',' :: rest => (readMembers (readValue room) most (skipBlanks rest)).map fun found =>
          ((.text entry.1, entry.2) :: found.1, found.2)
      | other => .error (.defective .missingComma other.length))) :
    ReadsOrDefect (members, rest)
      (readMembers (readValue room) (most + 1) (entryChars entry ++ tail)) := by
  have characters : entryChars entry ++ tail =
      quoteChars entry.1.toList ++ ':' :: ' ' :: (entry.2.literalChars ++ tail) := by
    simp [entryChars]
  have name := readName_quoteChars entry.1 (entry.2.literalChars ++ tail)
  have value := mayReadAs_literalChars scalar room tail ends
  rw [skipBlanks_literalChars scalar] at name
  rw [characters, readMembers]
  generalize readName (quoteChars entry.1.toList ++ ':' :: ' ' :: (entry.2.literalChars ++ tail)) =
    named_outcome at name ⊢
  cases name with
  | defective defect left => exact .defective defect left
  | read =>
    simp only
    generalize readValue room (entry.2.literalChars ++ tail) = outcome at value ⊢
    cases value with
    | defective defect left => exact .defective defect left
    | read => exact goes_on

/-- Entries between commas are read up to the closing brace, or one of them is defective.

Proof: induction on the entries after the first one. -/
theorem readMembers_literals {others : List (String × Value)}
    (scalars : ∀ one ∈ entry :: others, one.2.IsScalar) (enough : others.length < most) :
    ReadsOrDefect (named (entry :: others), rest) (readMembers (readValue room) most
      (Value.joinItems ((entry :: others).map entryChars) ++ '\x7d' :: rest)) := by
  induction others generalizing entry most with
  | nil =>
    cases most with
    | zero => cases enough
    | succ most =>
      apply readMembers_entryChars (scalars entry List.mem_cons_self)
        (EndsNumeral.cons (by decide) rest)
      exact .read
  | cons next others inductionHypothesis =>
    cases most with
    | zero => cases enough
    | succ most =>
      have remaining := inductionHypothesis
        (fun one member => scalars one (List.mem_cons_of_mem entry member))
        (Nat.lt_of_succ_lt_succ enough)
      rw [Literal.joinItems_append]
      apply readMembers_entryChars (scalars entry List.mem_cons_self)
        (EndsNumeral.cons (by decide) _)
      have led := skipBlanks_joinItems next others ('\x7d' :: rest)
      have comma : isBlank ',' = false := rfl
      simp only [skipBlanks_cons comma]
      show ReadsOrDefect _ ((readMembers (readValue room) most (skipBlanks
        (Value.joinItems ((next :: others).map entryChars) ++ '\x7d' :: rest))).map _)
      rw [led]
      exact remaining.map fun found => ((.text entry.1, entry.2) :: found.1, found.2)

end

variable {entries : List (String × Value)}

/-- The literal of a dictionary is read as the dictionary at every depth but the last one, or is
defective. -/
theorem readValue_literal (scalars : ∀ entry ∈ entries, entry.2.IsScalar)
    (different : (entries.map Prod.fst).Nodup) (room : Nat) (rest : List Char) :
    ReadsOrDefect (.dict (named entries), rest)
      (readValue (room + 1) ((Value.dict (named entries)).literalChars ++ rest)) := by
  have characters : (Value.dict (named entries)).literalChars ++ rest =
      '\x7b' :: (Value.joinItems (entries.map entryChars) ++ '\x7d' :: rest) := by
    rw [Literal.literalChars_dict]
    simp
  rw [characters, readValue.eq_def]
  cases entries with
  | nil => exact .read
  | cons entry others =>
    have led := skipBlanks_joinItems entry others ('\x7d' :: rest)
    have enough : others.length <
        (Value.joinItems ((entry :: others).map entryChars) ++ '\x7d' :: rest).length + 1 := by
      have least := Literal.length_le_length_joinItems (entry :: others)
      rw [List.length_append]
      simp only [List.length_cons] at least ⊢
      omega
    have members := @readMembers_literals entry room _ rest others scalars enough
    have dictionary := members.map fun found => (Value.dict (Properties.ofEntries found.1), found.2)
    rw [Properties.ofEntries_named different] at dictionary
    obtain ⟨quote, text, opening, is_quote⟩ :=
      Literal.exists_joinItems_eq_cons entry others ('\x7d' :: rest)
    rw [opening] at led dictionary ⊢
    simp only [readDictionary, led]
    rcases is_quote with rfl | rfl <;> exact dictionary

/-- The literal of a dictionary is the document of the same dictionary, or is no document. -/
theorem readsOrDefect_literal (scalars : ∀ entry ∈ entries, entry.2.IsScalar)
    (different : (entries.map Prod.fst).Nodup) :
    ReadsOrDefect (.dict (named entries)) (Document.read (Value.dict (named entries)).literal) := by
  have value := readValue_literal scalars different 989 []
  rw [List.append_nil] at value
  rw [Document.read, Value.literal, String.toList_ofList, readChars]
  rw [Literal.literalChars_dict] at value ⊢
  generalize Value.joinItems (entries.map entryChars) ++ ['\x7d'] = inside at value ⊢
  have no_mark : ('\x7b' :: inside).head? ≠ some '\uFEFF' := by
    rw [List.head?_cons]
    decide
  rw [if_neg no_mark, skipBlanks_cons rfl, maxDepth]
  generalize readValue 990 ('\x7b' :: inside) = outcome at value ⊢
  cases value with
  | read => exact .read
  | defective defect left => exact .defective defect left

end ChunkCodecs.Document
