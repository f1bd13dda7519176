import ChunkCodecs.Options
import ChunkCodecs.Proofs.Document.Places
import ChunkCodecs.Proofs.Literal.Obstacles
import ChunkCodecs.Proofs.Refusals
import ChunkCodecs.Proofs.Spelling

/-!
# Faults of option texts

A text gives options or a configuration fault, unless something else than its grammar is in the way:
the reading as a document comes to a whole number with too many digits, or the text is defective as
a document and then either exhausts the parser of expressions or spells an expression whose
evaluation comes to a list, a set or a dictionary as a key or a member, or to a sum with a whole
number beyond the doubles, before it comes to anything that is no literal.

This holds whatever parser of expressions is used. Nothing is assumed of the parser: which texts
spell which expressions, and how long a chain of operations it bears, is left to it.
-/

namespace ChunkCodecs.Options

open Relation (ReflTransGen)

/-- A text is no document but not empty either, so that it is read as a literal. -/
structure IsNoDocument (text : String) : Prop where
  /-- There is something to read. -/
  not_empty : text ≠ ""
  /-- It is defective as a document. -/
  defective : ∃ defect left, Document.read text = .error (.defective defect left)

/-- A text leads a parser of expressions to a fault that is no configuration fault. -/
inductive LeadsTo (parse : Literal.Parser) (text : String) : ForeignFault → Prop where
  /-- The reading as a document comes to a numeral with too many digits. -/
  | longNumeral {place : Document.Place} {digits : Nat}
      (comes : ReflTransGen Document.Inside (Document.start text) place)
      (overlong : Document.IsOverlong digits place.characters) :
      LeadsTo parse text (.longNumeral digits)
  /-- The text is no document, and the parser runs out of something on it. -/
  | exhaustion {shortage : Shortage} (no_document : IsNoDocument text)
      (exhausts : parse text.toList = .exhausted shortage) :
      LeadsTo parse text (.exhausted shortage)
  /-- The text is no document, and the first obstacle to the evaluation of the expression that it
  spells is a fault. -/
  | evaluation {expression : Literal.Expression} {cause : ForeignFault}
      (no_document : IsNoDocument text) (spells : parse text.toList = .spells expression)
      (first : (Literal.obstacles expression).head? = some (.fault cause)) :
      LeadsTo parse text cause

variable {parse : Literal.Parser} {text : String} {cause : ForeignFault}

/-- A text leads to a fault exactly if its document fails for a numeral, or is defective and the
reading of its literal fails. -/
theorem leadsTo_iff : LeadsTo parse text cause ↔
    (∃ digits, Document.read text = .error (.longNumeral digits) ∧ cause = .longNumeral digits) ∨
      IsNoDocument text ∧ Literal.readBy parse text = .error (.fault cause) := by
  rw [Literal.readBy_eq_fault_iff]
  constructor
  · rintro (⟨comes, overlong⟩ | ⟨no_document, exhausts⟩ | ⟨no_document, spells, first⟩)
    · exact .inl ⟨_, Document.read_eq_longNumeral_iff.mpr ⟨_, comes, overlong⟩, rfl⟩
    · exact .inr ⟨no_document, .inl ⟨_, exhausts, rfl⟩⟩
    · exact .inr ⟨no_document, .inr ⟨_, spells, first⟩⟩
  · rintro (⟨digits, failed, rfl⟩ | ⟨no_document, ⟨shortage, exhausts, rfl⟩ | ⟨_, spells, first⟩⟩)
    · obtain ⟨place, comes, overlong⟩ := Document.read_eq_longNumeral_iff.mp failed
      exact .longNumeral comes overlong
    · exact .exhaustion no_document exhausts
    · exact .evaluation no_document spells first

/-- Nothing at all leads to no fault. -/
theorem not_leadsTo_empty : ¬ LeadsTo parse "" cause := by
  have defective : Document.read "" = .error (.defective .missingValue 0) := rfl
  rw [leadsTo_iff, defective]
  rintro (⟨_, ⟨⟩, _⟩ | ⟨no_document, _⟩)
  exact no_document.not_empty rfl

/-- The reading of a literal passes its faults on. -/
theorem readLiteral_eq_foreign_iff : readLiteral parse text = .error (.foreign cause) ↔
    Literal.readBy parse text = .error (.fault cause) := by
  rw [readLiteral]
  cases Literal.readBy parse text with
  | ok value => exact iff_of_false nofun nofun
  | error refusal =>
    cases refusal with
    | notLiteral => exact iff_of_false nofun nofun
    | fault found => constructor <;> rintro ⟨⟩ <;> rfl

/-- The reading of a value whose brackets do not nest too deeply leads to what its text leads to. -/
theorem readValue_eq_foreign_iff (not_empty : text ≠ "")
    (nested : Document.nesting text ≤ Document.maxDepth) :
    readValue parse text = .error (.foreign cause) ↔ LeadsTo parse text cause := by
  have no_document_iff : IsNoDocument text ↔
      ∃ defect left, Document.read text = .error (.defective defect left) :=
    ⟨IsNoDocument.defective, IsNoDocument.mk not_empty⟩
  rw [leadsTo_iff, no_document_iff, readValue]
  cases found : Document.read text with
  | ok value => exact iff_of_false nofun (by rintro (⟨_, ⟨⟩, _⟩ | ⟨⟨_, _, ⟨⟩⟩, _⟩))
  | error failure =>
    cases failure with
    | defective defect left =>
      refine readLiteral_eq_foreign_iff.trans ⟨fun failed => .inr ⟨⟨_, _, rfl⟩, failed⟩, ?_⟩
      rintro (⟨_, ⟨⟩, _⟩ | ⟨_, failed⟩)
      exact failed
    | longNumeral digits =>
      constructor
      · rintro ⟨⟩
        exact .inl ⟨digits, rfl, rfl⟩
      · rintro (⟨_, ⟨⟩, rfl⟩ | ⟨⟨_, _, ⟨⟩⟩, _⟩)
        rfl
    | deepNesting inArray => exact absurd found (Document.read_ne_deepNesting nested inArray)

/-- What is required to be a dictionary fails with a foreign fault exactly if it did before. -/
theorem bind_requireDictionary_eq_foreign_iff {outcome : Except Fault Value} :
    outcome.bind (requireDictionary text) = .error (.foreign cause) ↔
      outcome = .error (.foreign cause) := by
  cases outcome with
  | error fault => constructor <;> rintro ⟨⟩ <;> rfl
  | ok value =>
    refine iff_of_false (fun failed => ?_) nofun
    replace failed : requireDictionary text value = .error (.foreign cause) := failed
    rw [requireDictionary.eq_def] at failed
    split at failed <;> cases failed

/-- The reading of options fails with a foreign fault exactly if their text leads to it. -/
theorem readBy_eq_foreign_iff (nested : Document.nesting text ≤ Document.maxDepth) :
    readBy parse text = .error (.foreign cause) ↔ LeadsTo parse (Text.trim text) cause := by
  rw [readBy]
  split
  · next empty =>
    rw [empty]
    exact iff_of_false nofun not_leadsTo_empty
  · next some_text =>
    rw [bind_requireDictionary_eq_foreign_iff]
    exact readValue_eq_foreign_iff some_text (Nat.le_trans (Document.nesting_trim_le text) nested)

/-- A value is read, or there is a configuration fault or a foreign fault. -/
theorem endsProperly_or_foreign (parse : Literal.Parser) (text : String) :
    EndsProperly (readValue parse text) ∨
      ∃ cause, readValue parse text = .error (.foreign cause) := by
  rw [readValue]
  cases Document.read text with
  | ok value => exact .inl (endsProperly_ok value)
  | error failure =>
    cases failure with
    | defective defect left =>
      simp only [readLiteral]
      cases Literal.readBy parse text with
      | ok value => exact .inl (endsProperly_ok value)
      | error refusal =>
        cases refusal with
        | notLiteral => exact .inl (.refusal _)
        | fault cause => exact .inr ⟨cause, rfl⟩
    | longNumeral digits => exact .inr ⟨_, rfl⟩
    | deepNesting inArray => exact .inr ⟨_, rfl⟩

/-- What is read as a value is a dictionary, or there is a configuration fault. -/
theorem endsProperly_requireDictionary (text : String) (value : Value) :
    EndsProperly (requireDictionary text value) := by
  rw [requireDictionary.eq_def]
  split
  · exact endsProperly_ok _
  · exact .refusal _

/-- The reading of options ends properly unless it fails with a foreign fault. -/
theorem endsProperly_of_not_foreign (own : ∀ cause, readBy parse text ≠ .error (.foreign cause)) :
    EndsProperly (readBy parse text) := by
  rw [readBy] at own ⊢
  split at own
  · next empty =>
    rw [if_pos empty]
    exact endsProperly_ok _
  · next some_text =>
    rw [if_neg some_text]
    rcases endsProperly_or_foreign parse (Text.trim text) with ends | ⟨cause, failed⟩
    · exact EndsWith.bind ends fun value _ => endsProperly_requireDictionary _ value
    · exact absurd (bind_requireDictionary_eq_foreign_iff.mpr failed) (own cause)

/-- The reading of options whose brackets do not nest too deeply ends properly exactly if the text,
when it is trimmed, does not lead to a fault, and otherwise it fails with that fault. This is so for
every parser of expressions. -/
theorem readBy_endsProperly_iff (parse : Literal.Parser)
    (nested : Document.nesting text ≤ Document.maxDepth) :
    (EndsProperly (readBy parse text) ↔ ∀ cause, ¬ LeadsTo parse (Text.trim text) cause) ∧
      ∀ cause, readBy parse text = .error (.foreign cause) ↔
        LeadsTo parse (Text.trim text) cause := by
  refine ⟨⟨fun ends cause leads => ?_, fun own => ?_⟩, fun cause => readBy_eq_foreign_iff nested⟩
  · rw [(readBy_eq_foreign_iff nested).mpr leads] at ends
    exact not_endsProperly_foreign cause ends
  · exact endsProperly_of_not_foreign fun cause failed =>
      own cause ((readBy_eq_foreign_iff nested).mp failed)

/-- A list of one whole number of so many digits. -/
def ninesText (count : Nat) : String := String.ofList ('[' :: (List.replicate count '9' ++ [']']))

/-- Brackets nest once in such a list. -/
theorem nesting_ninesText (count : Nat) : Document.nesting (ninesText count) = 1 := by
  have plain : ∀ c ∈ List.replicate count '9', Document.IsOrdinary c := by
    intro c member
    rw [List.eq_of_mem_replicate member]
    exact ⟨rfl, rfl, rfl⟩
  have opens : Document.isOpening '[' = true := rfl
  rw [Document.nesting, ninesText, String.toList_ofList, Document.nestingFrom, if_pos opens,
    Document.nestingFrom_append_of_ordinary plain]
  rfl

/-- There is nothing to trim from such a list. -/
theorem trim_ninesText (count : Nat) : Text.trim (ninesText count) = ninesText count := by
  have plain : ∀ c ∈ '[' :: (List.replicate count '9' ++ [']']), Text.isBlank c = false := by
    intro c member
    simp only [List.mem_cons, List.mem_append, List.mem_replicate, List.not_mem_nil, or_false]
      at member
    rcases member with rfl | ⟨_, rfl⟩ | rfl <;> rfl
  have padded : Text.trimChars ([] ++ '[' :: (List.replicate count '9' ++ [']']) ++ []) =
      '[' :: (List.replicate count '9' ++ [']']) :=
    Text.trimChars_padded nofun nofun (List.cons_ne_nil _ _) plain
  rw [List.nil_append, List.append_nil] at padded
  rw [Text.trim, ninesText, String.toList_ofList, padded]

/-- A whole number of too many digits in a list leads to a fault. -/
theorem leadsTo_ninesText (parse : Literal.Parser) {count : Nat}
    (long : Numeral.maxDigits < count) : LeadsTo parse (ninesText count) (.longNumeral count) := by
  obtain ⟨more, rfl⟩ := Nat.exists_eq_succ_of_ne_zero (Nat.ne_zero_of_lt long)
  have valid : Document.NumeralText.IsValid ⟨false, List.replicate (more + 1) '9', [], none⟩ := by
    refine ⟨nofun, fun c member => ?_, .inr (by simp [List.replicate_succ]), nofun, nofun⟩
    rw [List.eq_of_mem_replicate member]
    rfl
  have ends : Document.EndsNumeral [']'] := .cons (by decide) []
  have overlong := Document.IsOverlong.whole valid ⟨rfl, rfl⟩ (by simpa using long) ends.endsWhole
  have chars : Document.NumeralText.chars ⟨false, List.replicate (more + 1) '9', [], none⟩ =
      List.replicate (more + 1) '9' := by
    simp [Document.NumeralText.chars, Document.NumeralText.fractionChars,
      Document.NumeralText.exponentChars]
  rw [chars, List.length_replicate, List.replicate_succ, List.cons_append] at overlong
  have first : Document.skipBlanks ('9' :: (List.replicate more '9' ++ [']'])) =
      '9' :: (List.replicate more '9' ++ [']']) := Document.skipBlanks_cons rfl _
  have inside : Document.Inside (Document.start (ninesText (more + 1)))
      ⟨989, '9' :: (List.replicate more '9' ++ [']'])⟩ := by
    rw [Document.start, ninesText, String.toList_ofList, Document.skipBlanks_cons rfl,
      List.replicate_succ, List.cons_append]
    refine .item (by simp [first]) ?_
    rw [first]
    exact .first
  exact .longNumeral (.single inside) overlong

/-- A dictionary with a tuple as key that holds a set. -/
def nestedKeyText : String := "\x7b'a': 0, (1, \x7b2\x7d): 3\x7d"

/-- A text that is not empty is no document if it has a defect as one. -/
theorem isNoDocument_of_defect {defect : Document.Defect} (not_empty : text ≠ "")
    (defective : Document.defect? (Document.read text) = some defect) : IsNoDocument text := by
  obtain ⟨left, no_document⟩ := Document.defect?_eq_some_iff.mp defective
  exact ⟨not_empty, defect, left, no_document⟩

/-- A tuple that holds a set leads to a fault as a key. -/
theorem leadsTo_nestedKeyText : LeadsTo Literal.parse nestedKeyText (.unhashable "set") := by
  have literal : ((Literal.readExpression? nestedKeyText.toList).bind fun expression =>
      (Literal.obstacles expression).head?.bind Literal.Refusal.kind?) = some "set" := by
    decide +kernel
  obtain ⟨expression, found, kind⟩ := Option.bind_eq_some_iff.mp literal
  obtain ⟨refusal, first, refused⟩ := Option.bind_eq_some_iff.mp kind
  rw [Literal.Refusal.kind?_eq_some_iff.mp refused] at first
  have spells : Literal.parse nestedKeyText.toList = .spells expression := by
    simp only [Literal.parse, found]
  have defective : Document.defect? (Document.read nestedKeyText) = some .missingName := by
    decide +kernel
  exact .evaluation (isNoDocument_of_defect (by decide) defective) spells first

/-- A parser that a chain of three signs exhausts already. -/
def weakParser : Literal.Parser := fun characters =>
  if (characters.takeWhile (· = '-')).length < 3 then Literal.parse characters
  else .exhausted .depth

/-- A long chain of signs leads to a fault if it exhausts the parser. -/
theorem leadsTo_signs : LeadsTo weakParser "---1" (.exhausted .depth) := by
  have defective : Document.defect? (Document.read "---1") = some .missingValue := by
    decide +kernel
  exact .exhaustion (isNoDocument_of_defect (by decide) defective) rfl

/-- The texts lead to faults that are no configuration faults, one as a document, one as a literal
and one because it exhausts a parser. -/
theorem readBy_ninesText_nestedKeyText_signs :
    Document.nesting (ninesText (Numeral.maxDigits + 1)) ≤ Document.maxDepth ∧
      Options.read (ninesText (Numeral.maxDigits + 1)) =
        .error (.foreign (.longNumeral (Numeral.maxDigits + 1))) ∧
      Document.nesting nestedKeyText ≤ Document.maxDepth ∧
      Options.read nestedKeyText = .error (.foreign (.unhashable "set")) ∧
      ¬ EndsProperly (Options.read nestedKeyText) ∧
      Document.nesting "---1" ≤ Document.maxDepth ∧
      readBy weakParser "---1" = .error (.foreign (.exhausted .depth)) := by
  have nines : Document.nesting (ninesText (Numeral.maxDigits + 1)) ≤ Document.maxDepth := by
    rw [nesting_ninesText]
    decide
  have nested : Document.nesting nestedKeyText ≤ Document.maxDepth := by decide +kernel
  have signs : Document.nesting "---1" ≤ Document.maxDepth := by decide +kernel
  have trimmed : Text.trim nestedKeyText = nestedKeyText := by decide +kernel
  have overlong := leadsTo_ninesText Literal.parse (Nat.lt_succ_self Numeral.maxDigits)
  have unhashable := leadsTo_nestedKeyText
  rw [← trim_ninesText] at overlong
  rw [← trimmed] at unhashable
  have failed := ((readBy_endsProperly_iff Literal.parse nines).2 _).mpr overlong
  obtain ⟨ends, fails⟩ := @readBy_endsProperly_iff nestedKeyText Literal.parse nested
  have exhausted := ((readBy_endsProperly_iff weakParser signs).2 _).mpr leadsTo_signs
  exact ⟨nines, failed, nested, (fails _).mpr unhashable, fun proper => ends.mp proper _ unhashable,
    signs, exhausted⟩

/-- A dictionary with a list as key leads to a fault that is no configuration fault. -/
theorem not_endsProperly_read_listKey :
    Document.nesting "\x7b[]: 1\x7d" ≤ 100 ∧ ¬ EndsProperly (Options.read "\x7b[]: 1\x7d") := by
  decide +kernel

end ChunkCodecs.Options
