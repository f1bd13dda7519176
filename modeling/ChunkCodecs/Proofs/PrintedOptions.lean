import ChunkCodecs.Options
import ChunkCodecs.Proofs.Document.Configurations
import ChunkCodecs.Proofs.Document.Literals

/-!
# Printed options

Options that are printed as a document or as a literal are read back from the text, with their names
in the same order and with any blanks around the text. A literal is offered as a document first; if
it is one, it is the document of the same options.
-/

namespace ChunkCodecs

open Properties (named)

/-- Blanks around braces are trimmed away. -/
theorem Text.trim_braces {before after : String} (leading : IsBlankText before)
    (trailing : IsBlankText after) (inside : List Char) :
    trim (before ++ String.ofList ('\x7b' :: (inside ++ ['\x7d'])) ++ after) =
      String.ofList ('\x7b' :: (inside ++ ['\x7d'])) := by
  have trimmed := @trimChars_around before.toList ('\x7b' :: (inside ++ ['\x7d'])) after.toList
    leading trailing
  rw [trim, String.toList_append, String.toList_append, String.toList_ofList, trimmed]
  · rintro c ⟨⟩
    rfl
  · intro c head
    rw [List.reverse_cons, List.reverse_append] at head
    obtain rfl := Option.some.inj head
    rfl

/-- Brackets stand around what they hold. -/
theorem Document.exists_bracket_eq (layout : Layout) (opening closing : Char)
    (items : List (List Char)) :
    ∃ inside, bracket layout opening closing items = opening :: (inside ++ [closing]) := by
  unfold bracket
  split
  · exact ⟨[], rfl⟩
  · exact ⟨_, rfl⟩

/-- A value without parts is read from its document as it is written. -/
theorem Document.Entry.isRead_scalar (name : String) {value : Value} (scalar : value.IsScalar) :
    (faithful name value).IsRead := by
  cases scalar with
  | absent =>
    intro layout
    have known : ("null".toList, Value.none) ∈ words := List.mem_cons_self
    exact readsAs_word known
  | truth truth => exact isRead_bool name truth
  | whole printable => exact isRead_int name printable
  | text content => exact isRead_text name content

namespace Options

variable {entries : List (String × Value)}

/-- The document of options is read as the options, in every layout. -/
theorem readDocument_named (scalars : ∀ entry ∈ entries, entry.2.IsScalar)
    (different : (entries.map Prod.fst).Nodup) (layout : Document.Layout) :
    Document.read (String.ofList (Document.chars layout (.dict (named entries)))) =
      .ok (.dict (named entries)) := by
  have read : ∀ entry ∈ entries.map fun entry => Document.Entry.faithful entry.1 entry.2,
      entry.IsRead := by
    intro entry member
    obtain ⟨listed, among, rfl⟩ := List.mem_map.mp member
    exact Document.Entry.isRead_scalar listed.1 (scalars listed among)
  have names : (entries.map fun entry => Document.Entry.faithful entry.1 entry.2).map
      Document.Entry.name = entries.map Prod.fst := by
    rw [List.map_map]
    rfl
  have whole := Document.read_dict read (names ▸ different) layout
  have written : (entries.map fun entry => Document.Entry.faithful entry.1 entry.2).map
      (fun entry => (entry.name, entry.written)) = entries := by
    rw [List.map_map]
    exact List.map_id entries
  have reread : (entries.map fun entry => Document.Entry.faithful entry.1 entry.2).map
      (fun entry => (entry.name, entry.read)) = entries := by
    rw [List.map_map]
    exact List.map_id entries
  rw [written, reread] at whole
  exact whole

/-- Options are read from their document and from their literal, as they are and in their order,
with any blanks around the text. -/
theorem read_printed (scalars : ∀ entry ∈ entries, entry.2.IsScalar)
    (different : (entries.map Prod.fst).Nodup) {before after : String}
    (leading : Text.IsBlankText before) (trailing : Text.IsBlankText after) :
    Options.read (before ++ Document.write (.dict (named entries)) ++ after) =
        .ok (named entries) ∧
      Options.read (before ++ (Value.dict (named entries)).literal ++ after) =
        .ok (named entries) ∧
      ∀ layout, Options.read (before ++
        String.ofList (Document.chars layout (.dict (named entries))) ++ after) =
          .ok (named entries) := by
  have some_text (inside : List Char) : String.ofList ('\x7b' :: (inside ++ ['\x7d'])) ≠ "" := by
    intro empty
    have listed := congrArg String.toList empty
    rw [String.toList_ofList] at listed
    cases listed
  have document (layout : Document.Layout) : Options.read (before ++
      String.ofList (Document.chars layout (.dict (named entries))) ++ after) =
        .ok (named entries) := by
    obtain ⟨inside, braces⟩ : ∃ inside, Document.chars layout (.dict (named entries)) =
        '\x7b' :: (inside ++ ['\x7d']) := Document.exists_bracket_eq _ _ _ _
    have whole := readDocument_named scalars different layout
    rw [braces] at whole ⊢
    rw [Options.read, readBy, Text.trim_braces leading trailing]
    simp only [if_neg (some_text inside), readValue, whole]
    rfl
  refine ⟨document .flat, ?_, document⟩
  have as_document := Document.readsOrDefect_literal scalars different
  have as_literal : Literal.readBy Literal.parse (Value.dict (named entries)).literal =
      .ok (.dict (named entries)) := Literal.read_dict scalars different
  rw [Value.literal, Literal.literalChars_dict] at *
  rw [Options.read, readBy, Text.trim_braces leading trailing]
  simp only [if_neg (some_text _), readValue]
  generalize Document.read _ = outcome at as_document ⊢
  cases as_document with
  | read => rfl
  | defective defect left =>
    simp only [readLiteral, as_literal]
    rfl

/-- Options whose names and values need quotes of both kinds, escapes and a sign. -/
def mixedEntries : List (String × Value) :=
  [("it's", .text "a\"b\\c"), ("\x07\u2028", .none), ("", .int (-12)), ("true", .bool true)]

/-- Such options are read back from both texts. -/
theorem read_mixedEntries :
    (∀ entry ∈ mixedEntries, entry.2.IsScalar) ∧ (mixedEntries.map Prod.fst).Nodup ∧
      Text.IsBlankText "\n " ∧ Text.IsBlankText "\t" ∧
      Options.read ("\n " ++ Document.write (.dict (named mixedEntries)) ++ "\t") =
        .ok (named mixedEntries) ∧
      Options.read ("\n " ++ (Value.dict (named mixedEntries)).literal ++ "\t") =
        .ok (named mixedEntries) := by
  have scalars : ∀ entry ∈ mixedEntries, entry.2.IsScalar := by
    have small : Value.intIsPrintable (-12) = true := Value.intIsPrintable_of_lt (by decide)
    simp only [mixedEntries, List.forall_mem_cons]
    exact ⟨.text _, .absent, .whole small, .truth true, nofun⟩
  have different : (mixedEntries.map Prod.fst).Nodup := by decide
  have leading : Text.IsBlankText "\n " := by decide
  have trailing : Text.IsBlankText "\t" := by decide
  obtain ⟨document, literal, _⟩ := read_printed scalars different leading trailing
  exact ⟨scalars, different, leading, trailing, document, literal⟩

end Options

end ChunkCodecs
