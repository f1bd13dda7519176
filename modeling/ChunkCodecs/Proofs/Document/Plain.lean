import ChunkCodecs.Document.Printer
import ChunkCodecs.Proofs.Document.Scalars
import ChunkCodecs.Text.LineEnd
import ChunkCodecs.Text.Utf8

/-!
# Documents are plain

A document is written in the printable characters of ASCII and in line feeds alone, whatever
value it is of. So it does not depend on the encoding of the file that it is written to, nor
on how the ends of lines are read back.
-/

namespace ChunkCodecs.Document

/-- A printable character of ASCII, or a line feed. -/
def IsPlain (c : Char) : Prop := c = '\n' ∨ 0x20 ≤ c.toNat ∧ c.toNat < 0x7F

instance (c : Char) : Decidable (IsPlain c) := inferInstanceAs (Decidable (_ ∨ _))

/-- Only plain characters. -/
def ArePlain (characters : List Char) : Prop := ∀ c ∈ characters, IsPlain c

instance (characters : List Char) : Decidable (ArePlain characters) :=
  List.decidableBAll IsPlain characters

/-- A plain character in front of plain ones. -/
@[simp] theorem arePlain_cons {c : Char} {rest : List Char} :
    ArePlain (c :: rest) ↔ IsPlain c ∧ ArePlain rest := List.forall_mem_cons

/-- Plain characters behind plain ones. -/
@[simp] theorem arePlain_append {first second : List Char} :
    ArePlain (first ++ second) ↔ ArePlain first ∧ ArePlain second := List.forall_mem_append

/-- Nothing is plain. -/
@[simp] theorem arePlain_nil : ArePlain [] := nofun

/-- A decimal digit is plain. -/
theorem isPlain_of_isDigit {c : Char} (digit : c.isDigit = true) : IsPlain c := by
  have bounds := Char.isDigit_iff_toNat.mp digit
  have zero : '0'.toNat = 48 := rfl
  have nine : '9'.toNat = 57 := rfl
  right
  omega

/-- Digits are plain. -/
theorem AreDigits.arePlain {digits : List Char} (all : AreDigits digits) : ArePlain digits :=
  fun c member => isPlain_of_isDigit (all c member)

/-- Hexadecimal digits are plain. -/
theorem arePlain_hexDigits (width number : Nat) : ArePlain (Text.hexDigits width number) := by
  induction width generalizing number with
  | zero => exact arePlain_nil
  | succ width inductionHypothesis =>
    have every : ∀ digit : Fin 16, IsPlain (Nat.digitChar digit.val) := by decide
    have last : IsPlain (Text.hexDigit number) := every ⟨number % 16, Nat.mod_lt _ (by decide)⟩
    rw [Text.hexDigits, arePlain_append]
    exact ⟨inductionHypothesis (number / 16), by simpa using last⟩

/-- The letters that are escaped are plain. -/
theorem isPlain_of_escaped? {letter c : Char} (known : escaped? letter = some c) :
    IsPlain letter := by
  unfold escaped? at known
  split at known
  case h_9 => cases known
  all_goals decide

/-- The spelling of a character is plain. -/
theorem arePlain_escapeChar (c : Char) : ArePlain (escapeChar c) := by
  have backslash : IsPlain '\\' := by decide
  have letter : IsPlain 'u' := by decide
  have spelling := spelling_escapeChar c
  generalize escapeChar c = spelled at spelling ⊢
  cases spelling with
  | escape known => simp [backslash, isPlain_of_escaped? known]
  | itself _ _ printed => exact arePlain_cons.mpr ⟨.inr printed, arePlain_nil⟩
  | code small => simp [backslash, letter, arePlain_hexDigits]
  | pair large => simp [backslash, letter, arePlain_hexDigits]

/-- A text between its quotes is plain. -/
theorem arePlain_textChars (content : List Char) : ArePlain (textChars content) := by
  have quote : IsPlain '"' := by decide
  have inside : ArePlain (content.flatMap escapeChar) := by
    intro c member
    obtain ⟨spelled, _, among⟩ := List.mem_flatMap.mp member
    exact arePlain_escapeChar spelled c among
  simp [textChars, quote, inside]

/-- A numeral is plain. -/
theorem NumeralText.arePlain_chars {text : NumeralText} (valid : text.IsValid) :
    ArePlain text.chars := by
  have minus : IsPlain '-' := by decide
  have plus : IsPlain '+' := by decide
  have point : IsPlain '.' := by decide
  have letter : IsPlain 'e' := by decide
  have fraction : ArePlain text.fractionChars := by
    rw [fractionChars]
    split
    · exact arePlain_nil
    · exact arePlain_cons.mpr ⟨point, valid.fraction_digits.arePlain⟩
  have exponent : ArePlain text.exponentChars := by
    rw [exponentChars]
    split
    · exact arePlain_nil
    · rename_i negative digits found
      have all : AreDigits digits := (valid.exponent_digits negative digits found).2
      cases negative <;> simp [letter, minus, plus, all.arePlain]
  have sign : ArePlain (if text.negative then ['-'] else []) := by
    split <;> simp [minus]
  have whole : ArePlain text.whole := AreDigits.arePlain valid.whole_digits
  simp [chars, sign, whole, fraction, exponent]

/-- A double is written in plain characters. -/
theorem arePlain_doubleChars (number : Double) : ArePlain (doubleChars number) := by
  cases number with
  | nan => decide
  | infinite negative => cases negative <;> decide
  | finite value =>
    obtain ⟨text, valid, _, written⟩ := exists_numeral_finite value
    rw [← written]
    exact NumeralText.arePlain_chars valid

/-- A whole number is written in plain characters. -/
theorem arePlain_intChars (number : Int) : ArePlain (Value.intChars number) := by
  rw [← NumeralText.chars_ofInt]
  exact NumeralText.arePlain_chars (NumeralText.isValid_ofInt number)

/-- What stands in front of an item is plain. -/
theorem Layout.arePlain_lead (layout : Layout) : ArePlain layout.lead := by
  cases layout with
  | flat => exact arePlain_nil
  | indented level =>
    intro c member
    rcases List.mem_cons.mp member with rfl | space
    · decide
    · rw [List.eq_of_mem_replicate space]
      decide

/-- What stands between two items is plain. -/
theorem Layout.arePlain_between (layout : Layout) : ArePlain layout.between := by
  cases layout with
  | flat => decide
  | indented level =>
    have comma : IsPlain ',' := by decide
    exact arePlain_cons.mpr ⟨comma, (indented level).arePlain_lead⟩

/-- Plain characters between plain items leave them plain. -/
theorem arePlain_intercalate {between : List Char} (separates : ArePlain between)
    {items : List (List Char)} (all : ∀ item ∈ items, ArePlain item) :
    ArePlain (between.intercalate items) := by
  induction items with
  | nil => exact arePlain_nil
  | cons item others inductionHypothesis =>
    have first := all item List.mem_cons_self
    have remaining := inductionHypothesis fun one member => all one (List.mem_cons_of_mem _ member)
    cases others with
    | nil => simpa [List.intercalate] using first
    | cons next further =>
      rw [List.intercalate_cons_cons, arePlain_append, arePlain_append]
      exact ⟨⟨first, separates⟩, remaining⟩

/-- Plain items between plain brackets are plain. -/
theorem arePlain_bracket (layout : Layout) {opening closing : Char} (opens : IsPlain opening)
    (closes : IsPlain closing) {items : List (List Char)} (all : ∀ item ∈ items, ArePlain item) :
    ArePlain (bracket layout opening closing items) := by
  unfold bracket
  split
  · simp [opens, closes]
  · simp [opens, closes, layout.arePlain_lead, layout.deeper.arePlain_lead,
      arePlain_intercalate layout.deeper.arePlain_between all]

mutual

/-- The document of a value is plain. -/
theorem arePlain_chars (layout : Layout) (value : Value) : ArePlain (chars layout value) := by
  cases value with
  | bool truth =>
    have words : ArePlain "false".toList ∧ ArePlain "true".toList := by decide
    cases truth with
    | false => exact words.1
    | true => exact words.2
  | int number => exact arePlain_intChars number
  | float number => exact arePlain_doubleChars number
  | text content => exact arePlain_textChars content.toList
  | codec scheme => exact arePlain_textChars scheme.name.toList
  | list items =>
    exact arePlain_bracket layout (by decide) (by decide) (arePlain_itemsChars layout.deeper items)
  | tuple items =>
    exact arePlain_bracket layout (by decide) (by decide) (arePlain_itemsChars layout.deeper items)
  | dict entries =>
    exact arePlain_bracket layout (by decide) (by decide)
      (arePlain_membersChars layout.deeper entries)
  | _ =>
    have absent : ArePlain "null".toList := by decide
    exact absent

/-- The documents of several values are plain. -/
theorem arePlain_itemsChars (layout : Layout) (items : List Value) :
    ∀ item ∈ itemsChars layout items, ArePlain item := by
  cases items with
  | nil => nofun
  | cons item rest =>
    have first := arePlain_chars layout item
    have others := arePlain_itemsChars layout rest
    exact List.forall_mem_cons.mpr ⟨first, others⟩

/-- The names and documents of entries are plain. -/
theorem arePlain_membersChars (layout : Layout) (entries : List (Value × Value)) :
    ∀ item ∈ membersChars layout entries, ArePlain item := by
  cases entries with
  | nil => nofun
  | cons entry rest =>
    obtain ⟨key, value⟩ := entry
    have colon : IsPlain ':' := by decide
    have space : IsPlain ' ' := by decide
    have first : ArePlain (nameChars key ++ ':' :: ' ' :: chars layout value) := by
      have name : ArePlain (nameChars key) := arePlain_textChars _
      simp [name, colon, space, arePlain_chars layout value]
    have others := arePlain_membersChars layout rest
    exact List.forall_mem_cons.mpr ⟨first, others⟩

end

/-- The encoding of a document is decoded to the document, with its lines as they were. -/
theorem decode_encode_chars (layout : Layout) (value : Value) :
    Text.Utf8.decode (Text.Utf8.encode (chars layout value)) = .ok (chars layout value) ∧
      Text.unifyLineEnds (chars layout value) = chars layout value := by
  have plain := arePlain_chars layout value
  constructor
  · apply Text.Utf8.decode_encode_of_ascii
    intro c member
    rcases plain c member with rfl | printed
    · decide
    · omega
  · apply Text.unifyLineEnds_of_not_mem
    intro member
    exact absurd (plain _ member) (by decide)

end ChunkCodecs.Document
