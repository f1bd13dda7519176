import ChunkCodecs.Proofs.Document.Scalars
import ChunkCodecs.Text.Blank
import Mathlib.Data.List.TakeWhile

/-!
# Nesting in documents

How deep brackets nest in a text is counted outside of the texts between quotes. What is left behind
a value that was read is no longer than what was given, and the brackets in it nest no deeper, as a
value closes the brackets that it opens. Behind the inside of a bracket one is closed that was open
before.
-/

namespace ChunkCodecs.Document

section

variable {α β : Type} {outcome : Except Failure α} {change : α → β}

/-- What is made of a reading is made of what is read. -/
theorem exists_of_map_eq_ok {result : β} (made : outcome.map change = .ok result) :
    ∃ found, outcome = .ok found ∧ change found = result := by
  cases outcome with
  | error failure => cases made
  | ok found => exact ⟨found, rfl, Except.ok.inj made⟩

/-- What is made of a reading fails as the reading does. -/
theorem eq_error_of_map {failure : Failure} (failed : outcome.map change = .error failure) :
    outcome = .error failure := by
  cases outcome with
  | error cause => cases failed; rfl
  | ok value => cases failed

end

/-- Whether a character opens a bracket of any kind. -/
def isOpening (c : Char) : Bool := c = '(' || c = '[' || c = '\x7b'

/-- Whether a character closes a bracket of any kind. -/
def isClosing (c : Char) : Bool := c = ')' || c = ']' || c = '\x7d'

/-- Whether a character opens a text, and closes it again. -/
def isQuote (c : Char) : Bool := c = '"' || c = '\''

/-- How deep brackets nest, beginning at a depth and perhaps inside a text. -/
def nestingFrom : (quote? : Option Char) → (depth : Nat) → List Char → Nat
  | _, depth, [] => depth
  | some quote, depth, '\\' :: _ :: rest => nestingFrom (some quote) depth rest
  | some quote, depth, c :: rest =>
    if c = quote then nestingFrom none depth rest else nestingFrom (some quote) depth rest
  | none, depth, c :: rest =>
    if isOpening c then nestingFrom none (depth + 1) rest
    else if isClosing c then max depth (nestingFrom none (depth - 1) rest)
    else if isQuote c then nestingFrom (some c) depth rest
    else nestingFrom none depth rest

/-- How deep brackets nest in a text. -/
def nesting (text : String) : Nat := nestingFrom none 0 text.toList

/-- Brackets nest at least as deep as they do in the beginning. -/
theorem le_nestingFrom (quote? : Option Char) (depth : Nat) (characters : List Char) :
    depth ≤ nestingFrom quote? depth characters := by
  fun_induction nestingFrom quote? depth characters <;> omega

/-- What is behind a separator with blanks around it is shorter. -/
theorem length_skipBlanks_lt {characters rest : List Char} {c : Char}
    (found : skipBlanks characters = c :: rest) :
    (skipBlanks rest).length < characters.length := by
  have before : (skipBlanks characters).length ≤ characters.length :=
    (List.dropWhile_suffix isBlank).length_le
  have behind : (skipBlanks rest).length ≤ rest.length := (List.dropWhile_suffix isBlank).length_le
  rw [found, List.length_cons] at before
  omega

/-- A character that neither opens nor closes anything. -/
structure IsOrdinary (c : Char) : Prop where
  /-- It opens no bracket. -/
  no_opening : isOpening c = false
  /-- It closes no bracket. -/
  no_closing : isClosing c = false
  /-- It is no quote. -/
  no_quote : isQuote c = false

/-- An ordinary character leaves the depth as it is. -/
theorem IsOrdinary.nestingFrom_cons {c : Char} (ordinary : IsOrdinary c) (depth : Nat)
    (rest : List Char) : nestingFrom none depth (c :: rest) = nestingFrom none depth rest := by
  rw [nestingFrom]
  simp [ordinary.no_opening, ordinary.no_closing, ordinary.no_quote]

/-- The brackets and the quotes. -/
def marks : List Char := ['(', '[', '\x7b', ')', ']', '\x7d', '"', '\'']

/-- A character of a kind that has no brackets and quotes is ordinary. -/
theorem isOrdinary_of_kind {p : Char → Bool} (no_mark : marks.all (fun mark => !p mark) = true)
    {c : Char} (kind : p c = true) : IsOrdinary c := by
  have other {mark : Char} (is_mark : mark ∈ marks) : c ≠ mark := by
    rintro rfl
    have none := List.all_eq_true.mp no_mark c is_mark
    rw [kind] at none
    cases none
  simp only [marks, List.mem_cons, List.not_mem_nil, or_false] at other
  constructor
  · simp [isOpening, @other '(' (by simp), @other '[' (by simp), @other '\x7b' (by simp)]
  · simp [isClosing, @other ')' (by simp), @other ']' (by simp), @other '\x7d' (by simp)]
  · simp [isQuote, @other '"' (by simp), @other '\'' (by simp)]

/-- A digit is ordinary. -/
theorem isOrdinary_of_isDigit {c : Char} (digit : c.isDigit = true) : IsOrdinary c :=
  isOrdinary_of_kind (by decide) digit

/-- A blank is ordinary. -/
theorem isOrdinary_of_isBlank {c : Char} (blank : isBlank c = true) : IsOrdinary c :=
  isOrdinary_of_kind (by decide) blank

/-- Ordinary characters leave the depth as it is. -/
theorem nestingFrom_append_of_ordinary {word : List Char} (plain : ∀ c ∈ word, IsOrdinary c)
    (depth : Nat) (rest : List Char) :
    nestingFrom none depth (word ++ rest) = nestingFrom none depth rest := by
  induction word with
  | nil => rfl
  | cons c others inductionHypothesis =>
    obtain ⟨first, further⟩ := List.forall_mem_cons.mp plain
    rw [List.cons_append, first.nestingFrom_cons, inductionHypothesis further]

/-- What is left of characters behind something that closes so many brackets more than it opens. -/
structure IsLeft (closed : Nat) (after characters : List Char) : Prop where
  /-- It is no longer. -/
  shorter : after.length ≤ characters.length
  /-- Brackets nest no deeper in it. -/
  shallower : ∀ depth, nestingFrom none depth after ≤ nestingFrom none (depth + closed) characters

namespace IsLeft

variable {closed more : Nat} {after middle characters : List Char} {c : Char}

/-- All is left behind nothing. -/
theorem refl (characters : List Char) : IsLeft 0 characters characters where
  shorter := Nat.le_refl _
  shallower := fun _ => Nat.le_refl _

/-- What is left of what is left. -/
theorem trans (behind : IsLeft closed after middle) (left : IsLeft more middle characters) :
    IsLeft (closed + more) after characters where
  shorter := Nat.le_trans behind.shorter left.shorter
  shallower := by
    intro depth
    rw [← Nat.add_assoc]
    exact Nat.le_trans (behind.shallower depth) (left.shallower (depth + closed))

/-- What is left behind an ordinary character. -/
theorem ordinary (plain : IsOrdinary c) (rest : List Char) : IsLeft 0 rest (c :: rest) where
  shorter := Nat.le_succ _
  shallower := by
    intro depth
    rw [Nat.add_zero, plain.nestingFrom_cons]

/-- What is left behind a closing bracket. -/
theorem closing (closes : isOpening c = false ∧ isClosing c = true) (rest : List Char) :
    IsLeft 1 rest (c :: rest) where
  shorter := Nat.le_succ _
  shallower := by
    intro depth
    rw [nestingFrom]
    simp only [closes, Bool.false_eq_true, if_false, if_true, Nat.add_sub_cancel]
    exact Nat.le_max_right _ _

/-- What is left behind the inside of a bracket is left behind the bracket. -/
theorem opening (opens : isOpening c = true) (inside : IsLeft 1 after middle) :
    IsLeft 0 after (c :: middle) where
  shorter := Nat.le_succ_of_le inside.shorter
  shallower := by
    intro depth
    rw [nestingFrom]
    simp only [opens, if_true]
    exact inside.shallower depth

/-- What is left behind ordinary characters. -/
theorem append {word : List Char} (plain : ∀ c ∈ word, IsOrdinary c) (rest : List Char) :
    IsLeft 0 rest (word ++ rest) where
  shorter := List.length_append ▸ Nat.le_add_left _ _
  shallower := fun depth => Nat.le_of_eq (nestingFrom_append_of_ordinary plain depth rest).symm

/-- What is left behind a run of ordinary characters. -/
theorem dropWhile {p : Char → Bool} (plain : ∀ c, p c = true → IsOrdinary c)
    (characters : List Char) : IsLeft 0 (characters.dropWhile p) characters := by
  have run : ∀ c ∈ characters.takeWhile p, IsOrdinary c := fun c member =>
    plain c (List.mem_takeWhile_imp member)
  have left := IsLeft.append run (characters.dropWhile p)
  rwa [List.takeWhile_append_dropWhile] at left

/-- What is left behind blanks. -/
theorem skipBlanks (characters : List Char) : IsLeft 0 (skipBlanks characters) characters :=
  .dropWhile (fun _ => isOrdinary_of_isBlank) characters

/-- What is left behind a separator with blanks around it. -/
theorem separator {rest : List Char} (plain : IsOrdinary c)
    (found : Document.skipBlanks characters = c :: rest) :
    IsLeft 0 (Document.skipBlanks rest) characters := by
  have left := IsLeft.skipBlanks characters
  rw [found] at left
  exact (IsLeft.skipBlanks rest).trans ((IsLeft.ordinary plain rest).trans left)

/-- What is left behind blanks and a closing bracket. -/
theorem closing_bracket {rest : List Char} (closes : isOpening c = false ∧ isClosing c = true)
    (found : Document.skipBlanks characters = c :: rest) : IsLeft 1 rest characters := by
  have left := IsLeft.skipBlanks characters
  rw [found] at left
  exact (IsLeft.closing closes rest).trans left

end IsLeft

/-- The sign is ordinary. -/
theorem isLeft_takeMinus (characters : List Char) : IsLeft 0 (takeMinus characters).2 characters := by
  unfold takeMinus
  split
  · exact .ordinary ⟨rfl, rfl, rfl⟩ _
  · exact .refl _

/-- Digits are ordinary. -/
theorem isLeft_takeDigits (characters : List Char) :
    IsLeft 0 (takeDigits characters).2 characters :=
  .dropWhile (fun _ => isOrdinary_of_isDigit) characters

/-- The whole part of a numeral is ordinary. -/
theorem isLeft_takeWhole (characters : List Char) : IsLeft 0 (takeWhole characters).2 characters := by
  unfold takeWhole
  split
  · exact .ordinary ⟨rfl, rfl, rfl⟩ _
  · exact isLeft_takeDigits _

/-- A fraction is ordinary. -/
theorem isLeft_takeFraction (characters : List Char) :
    IsLeft 0 (takeFraction characters).2 characters := by
  unfold takeFraction
  split
  · split
    · exact .refl _
    · exact (isLeft_takeDigits _).trans (.ordinary ⟨rfl, rfl, rfl⟩ _)
  · exact .refl _

/-- The sign of an exponent is ordinary. -/
theorem isLeft_takeSign (characters : List Char) :
    IsLeft 0 (Numeral.takeSign characters).2 characters := by
  unfold Numeral.takeSign
  split
  · exact .ordinary ⟨rfl, rfl, rfl⟩ _
  · exact .ordinary ⟨rfl, rfl, rfl⟩ _
  · exact .refl _

/-- An exponent is ordinary. -/
theorem isLeft_takeExponent (characters : List Char) :
    IsLeft 0 (takeExponent characters).2 characters := by
  unfold takeExponent
  split
  · rename_i c rest
    split
    · rename_i letter
      simp only [Bool.or_eq_true, decide_eq_true_eq] at letter
      have plain : IsOrdinary c := by
        rcases letter with rfl | rfl <;> exact ⟨rfl, rfl, rfl⟩
      simp only
      split
      · exact .refl _
      · next digits remaining _ taken =>
        have behind := isLeft_takeDigits (Numeral.takeSign rest).2
        rw [taken] at behind
        exact (behind.trans (isLeft_takeSign rest)).trans (.ordinary plain rest)
    · exact .refl _
  · exact .refl _

/-- A numeral is ordinary. -/
theorem isLeft_readNumber {characters after : List Char} {value : Value}
    (read : readNumber characters = .ok (value, after)) : IsLeft 0 after characters := by
  have left := (isLeft_takeExponent _).trans <| (isLeft_takeFraction _).trans <|
    (isLeft_takeWhole _).trans (isLeft_takeMinus characters)
  simp only [readNumber] at read
  split at read
  · cases read
  split at read
  · split at read <;> cases read
    exact left
  · cases read
    exact left

/-- The words that are values are ordinary. -/
theorem isOrdinary_of_mem_words {entry : List Char × Value} (listed : entry ∈ words) {c : Char}
    (member : c ∈ entry.1) : IsOrdinary c := by
  have checked : words.all (fun entry => entry.1.all fun c =>
      !isOpening c && !isClosing c && !isQuote c) = true := by decide
  have plain := List.all_eq_true.mp (List.all_eq_true.mp checked entry listed) c member
  simp only [Bool.and_eq_true, Bool.not_eq_true'] at plain
  exact ⟨plain.1.1, plain.1.2, plain.2⟩

/-- A word is ordinary. -/
theorem isLeft_readWord? {characters after : List Char} {value : Value}
    (read : readWord? characters = some (value, after)) : IsLeft 0 after characters := by
  obtain ⟨⟨word, meant⟩, listed, found⟩ := List.exists_of_findSome?_eq_some read
  simp only at found
  split at found
  · next leads =>
    cases found
    obtain ⟨rest, rfl⟩ := List.isPrefixOf_iff_prefix.mp leads
    rw [List.drop_left]
    exact .append (fun _ => isOrdinary_of_mem_words listed) rest
  · cases found

/-- A character of a number in hexadecimal digits is one of them. -/
theorem isSome_hexValue?_of_mem {digits : List Char} {number : Nat}
    (known : Text.hexNumber? digits = some number) {c : Char} (member : c ∈ digits) :
    (Text.hexValue? c).isSome = true := by
  rw [Text.hexNumber?] at known
  generalize 0 = start at known
  induction digits generalizing start with
  | nil => cases member
  | cons digit others inductionHypothesis =>
    rw [List.foldlM_cons] at known
    obtain ⟨next, first, further⟩ := Option.bind_eq_some_iff.mp known
    obtain ⟨value, valued, _⟩ := Option.map_eq_some_iff.mp first
    rcases List.mem_cons.mp member with rfl | member
    · rw [valued]
      rfl
    · exact inductionHypothesis member next further

/-- What is left of characters behind the inside of a text and its closing quote. -/
structure IsLeftOfText (after characters : List Char) : Prop where
  /-- It is no longer. -/
  shorter : after.length ≤ characters.length
  /-- Brackets nest no deeper in it. -/
  shallower : ∀ depth, nestingFrom none depth after ≤ nestingFrom (some '"') depth characters

namespace IsLeftOfText

variable {after characters : List Char} {c : Char}

/-- A character that is no quote is left out. -/
theorem cons (quote : c ≠ '"') (backslash : c ≠ '\\') (behind : IsLeftOfText after characters) :
    IsLeftOfText after (c :: characters) where
  shorter := Nat.le_succ_of_le behind.shorter
  shallower := by
    intro depth
    rw [nestingFrom, if_neg quote]
    · exact behind.shallower depth
    · exact fun _ _ same => absurd same backslash

/-- An escaped character is left out. -/
theorem escape (behind : IsLeftOfText after characters) :
    IsLeftOfText after ('\\' :: c :: characters) where
  shorter := Nat.le_succ_of_le (Nat.le_succ_of_le behind.shorter)
  shallower := by
    intro depth
    rw [nestingFrom]
    exact behind.shallower depth

/-- A digit of a code is left out. -/
theorem digit (known : (Text.hexValue? c).isSome = true) (behind : IsLeftOfText after characters) :
    IsLeftOfText after (c :: characters) := by
  refine behind.cons ?_ ?_ <;> rintro rfl <;> cases known

end IsLeftOfText

/-- The inside of a text leaves what its closing quote leaves.

Proof: recursion of the reading, by the kinds of characters. -/
theorem isLeftOfText_readCodes {whole characters after : List Char} {codes : List Nat}
    (read : readCodes whole characters = .ok (codes, after)) : IsLeftOfText after characters := by
  have goes_on {code : Nat} {outcome : Except Failure (List Nat × List Char)} {codes : List Nat}
      (read : consCode code outcome = .ok (codes, after)) : ∃ others, outcome = .ok (others, after) := by
    obtain ⟨⟨others, rest⟩, found, same⟩ := exists_of_map_eq_ok read
    cases same
    exact ⟨others, found⟩
  fun_induction readCodes whole characters generalizing codes with
  | case1 => cases read
  | case2 rest =>
    cases read
    exact ⟨Nat.le_succ _, fun depth => Nat.le_refl _⟩
  | case3 => cases read
  | case4 a b c d code next rest known inductionHypothesis =>
    obtain ⟨others, read⟩ := goes_on read
    have digits {c : Char} := @isSome_hexValue?_of_mem _ _ known c
    exact (inductionHypothesis read).digit (digits (by simp)) |>.digit (digits (by simp))
      |>.digit (digits (by simp)) |>.digit (digits (by simp)) |>.escape
  | case5 => cases read
  | case6 => cases read
  | case7 c rest _ no_code meant known inductionHypothesis =>
    obtain ⟨others, read⟩ := goes_on read
    exact (inductionHypothesis read).escape
  | case8 => cases read
  | case9 => cases read
  | case10 c rest quote alone coded escaped printed inductionHypothesis =>
    obtain ⟨others, read⟩ := goes_on read
    refine (inductionHypothesis read).cons quote ?_
    rintro rfl
    cases rest with
    | nil => exact alone rfl rfl
    | cons c rest => exact escaped c rest rfl rfl

/-- A text and its quotes are left out. -/
theorem isLeft_readText {inside after : List Char} {content : String}
    (read : readText inside = .ok (content, after)) : IsLeft 0 after ('"' :: inside) := by
  rw [readText] at read
  obtain ⟨⟨codes, rest⟩, found, same⟩ := exists_of_map_eq_ok read
  cases same
  have behind := isLeftOfText_readCodes found
  exact ⟨Nat.le_succ_of_le behind.shorter, behind.shallower⟩

/-- A name and its colon are left out. -/
theorem isLeft_readName {characters after : List Char} {name : String}
    (read : readName characters = .ok (name, after)) : IsLeft 0 after characters := by
  rw [readName.eq_def] at read
  split at read
  · split at read
    · cases read
    · next found =>
      split at read
      · next colon =>
        cases read
        exact (IsLeft.separator ⟨rfl, rfl, rfl⟩ colon).trans (isLeft_readText found)
      · cases read
  · cases read

/-- What a reader of values leaves is left behind what closes the brackets that it opens. -/
def ClosesBrackets (readItem : List Char → Outcome Value) : Prop :=
  ∀ characters value after, readItem characters = .ok (value, after) → IsLeft 0 after characters

section

variable {readItem : List Char → Outcome Value} (closes : ClosesBrackets readItem)
  {most : Nat} {characters after : List Char}

include closes

/-- Items are left out, and the bracket that closes their list.

Proof: induction on the items that may still be read. -/
theorem isLeft_readItems {items : List Value}
    (read : readItems readItem most characters = .ok (items, after)) :
    IsLeft 1 after characters := by
  induction most generalizing characters items with
  | zero => cases read
  | succ most inductionHypothesis =>
    rw [readItems] at read
    split at read
    · cases read
    next item afterItem found =>
    have first := closes _ _ _ found
    split at read
    · next closed =>
      cases read
      exact (IsLeft.closing_bracket ⟨rfl, rfl⟩ closed).trans first
    · next rest comma =>
      obtain ⟨⟨others, remaining⟩, further, same⟩ := exists_of_map_eq_ok read
      cases same
      exact (inductionHypothesis further).trans <|
        (IsLeft.separator ⟨rfl, rfl, rfl⟩ comma).trans first
    · cases read

/-- A list is left out. -/
theorem isLeft_readList {inside : List Char} {value : Value}
    (read : readList readItem inside = .ok (value, after)) : IsLeft 0 after ('[' :: inside) := by
  refine .opening rfl ?_
  rw [readList] at read
  split at read
  · next closed =>
    cases read
    exact .closing_bracket ⟨rfl, rfl⟩ closed
  · next first _ =>
    obtain ⟨⟨items, rest⟩, found, same⟩ := exists_of_map_eq_ok read
    cases same
    exact (isLeft_readItems closes found).trans (.skipBlanks inside)

/-- Names and values are left out, and the brace that closes their dictionary.

Proof: induction on the names that may still be read. -/
theorem isLeft_readMembers {members : List (Value × Value)}
    (read : readMembers readItem most characters = .ok (members, after)) :
    IsLeft 1 after characters := by
  induction most generalizing characters members with
  | zero => cases read
  | succ most inductionHypothesis =>
    rw [readMembers] at read
    split at read
    · cases read
    next name afterName named =>
    split at read
    · cases read
    next value afterValue found =>
    have first := (closes _ _ _ found).trans (isLeft_readName named)
    split at read
    · next closed =>
      cases read
      exact (IsLeft.closing_bracket ⟨rfl, rfl⟩ closed).trans first
    · next rest comma =>
      obtain ⟨⟨others, remaining⟩, further, same⟩ := exists_of_map_eq_ok read
      cases same
      exact (inductionHypothesis further).trans <|
        (IsLeft.separator ⟨rfl, rfl, rfl⟩ comma).trans first
    · cases read

/-- A dictionary is left out. -/
theorem isLeft_readDictionary {inside : List Char} {value : Value}
    (read : readDictionary readItem inside = .ok (value, after)) :
    IsLeft 0 after ('\x7b' :: inside) := by
  refine .opening rfl ?_
  rw [readDictionary] at read
  split at read
  · next closed =>
    cases read
    exact .closing_bracket ⟨rfl, rfl⟩ closed
  · next first _ =>
    obtain ⟨⟨members, rest⟩, found, same⟩ := exists_of_map_eq_ok read
    cases same
    exact (isLeft_readMembers closes found).trans (.skipBlanks inside)

end

/-- Read a value that is neither a text nor in brackets. -/
def readScalar (characters : List Char) : Outcome Value :=
  match readWord? characters with
  | some found => .ok found
  | none => readNumber characters

/-- A value that begins with a quote is a text. -/
theorem readValue_text (room : Nat) (inside : List Char) : readValue room ('"' :: inside) =
    (readText inside).map fun (content, rest) => (.text content, rest) := by
  rw [readValue.eq_def]
  cases room <;> rfl

/-- Where a value that is a text is read, the text is. -/
theorem exists_readText_eq_ok {room : Nat} {inside after : List Char} {value : Value}
    (read : readValue room ('"' :: inside) = .ok (value, after)) :
    ∃ content, readText inside = .ok (content, after) := by
  rw [readValue_text] at read
  obtain ⟨⟨content, rest⟩, found, same⟩ := exists_of_map_eq_ok read
  cases same
  exact ⟨content, found⟩

/-- A value that is neither a text nor in brackets is left out. -/
theorem isLeft_readScalar {characters after : List Char} {value : Value}
    (read : readScalar characters = .ok (value, after)) : IsLeft 0 after characters := by
  rw [readScalar] at read
  split at read
  · next found =>
    cases read
    exact isLeft_readWord? found
  · exact isLeft_readNumber read

/-- The ways in which a value may begin. -/
inductive Beginning : List Char → Prop where
  /-- It is a text. -/
  | text (inside : List Char) : Beginning ('"' :: inside)
  /-- It is a list. -/
  | list (inside : List Char) : Beginning ('[' :: inside)
  /-- It is a dictionary. -/
  | dictionary (inside : List Char) : Beginning ('\x7b' :: inside)
  /-- It is anything else, at every depth. -/
  | scalar {characters : List Char}
      (other : ∀ room, readValue room characters = readScalar characters) : Beginning characters

/-- Every value begins in one of the ways. -/
theorem beginning (characters : List Char) : Beginning characters := by
  cases characters with
  | nil => exact .scalar fun room => by rw [readValue.eq_def]; rfl
  | cons c rest =>
    by_cases quote : c = '"'
    · exact quote ▸ .text rest
    by_cases bracket : c = '['
    · exact bracket ▸ .list rest
    by_cases brace : c = '\x7b'
    · exact brace ▸ .dictionary rest
    exact .scalar fun room => readValue_other ⟨quote, bracket, brace⟩ room rest

/-- A value is left out at every depth.

Proof: induction on the depth that is left. -/
theorem closesBrackets_readValue (room : Nat) : ClosesBrackets (readValue room) := by
  induction room with
  | zero =>
    intro characters value after read
    cases beginning characters with
    | text inside =>
      obtain ⟨content, found⟩ := exists_readText_eq_ok read
      exact isLeft_readText found
    | list inside => cases read
    | dictionary inside => cases read
    | scalar other => exact isLeft_readScalar ((other 0).symm.trans read)
  | succ room inductionHypothesis =>
    intro characters value after read
    cases beginning characters with
    | text inside =>
      obtain ⟨content, found⟩ := exists_readText_eq_ok read
      exact isLeft_readText found
    | list inside => exact isLeft_readList inductionHypothesis read
    | dictionary inside => exact isLeft_readDictionary inductionHypothesis read
    | scalar other => exact isLeft_readScalar ((other (room + 1)).symm.trans read)

/-- Brackets nest no deeper in what leads.

Proof: recursion of the count, where a backslash may come to escape a character behind the others. -/
theorem nestingFrom_le_append (quote? : Option Char) (depth : Nat) (characters tail : List Char) :
    nestingFrom quote? depth characters ≤ nestingFrom quote? depth (characters ++ tail) := by
  have not_escape {c : Char} {rest : List Char} (last : ¬ (c = '\\' ∧ rest = []))
      (unescaped : ∀ escaped further, c = '\\' → rest = escaped :: further → False) :
      ∀ escaped further, c = '\\' → rest ++ tail = escaped :: further → False := by
    intro escaped further backslash _
    cases rest with
    | nil => exact last ⟨backslash, rfl⟩
    | cons d others => exact unescaped d others backslash rfl
  fun_induction nestingFrom quote? depth characters with
  | case1 quote? depth => exact le_nestingFrom quote? depth tail
  | case2 quote depth escaped rest inductionHypothesis =>
    rw [List.cons_append, List.cons_append, nestingFrom]
    exact inductionHypothesis
  | case3 depth c rest unescaped inductionHypothesis =>
    by_cases last : c = '\\' ∧ rest = []
    · rw [last.2, nestingFrom]
      exact le_nestingFrom _ depth _
    · rw [List.cons_append, nestingFrom, if_pos rfl]
      · exact inductionHypothesis
      · exact not_escape last unescaped
  | case4 quote depth c rest unescaped other inductionHypothesis =>
    by_cases last : c = '\\' ∧ rest = []
    · rw [last.2, nestingFrom]
      exact le_nestingFrom _ depth _
    · rw [List.cons_append, nestingFrom, if_neg other]
      · exact inductionHypothesis
      · exact not_escape last unescaped
  | case5 depth c rest opens inductionHypothesis =>
    rw [List.cons_append, nestingFrom, if_pos opens]
    exact inductionHypothesis
  | case6 depth c rest opens closes inductionHypothesis =>
    rw [List.cons_append, nestingFrom, if_neg opens, if_pos closes]
    omega
  | case7 depth c rest opens closes quote inductionHypothesis =>
    rw [List.cons_append, nestingFrom, if_neg opens, if_neg closes, if_pos quote]
    exact inductionHypothesis
  | case8 depth c rest opens closes quote inductionHypothesis =>
    rw [List.cons_append, nestingFrom, if_neg opens, if_neg closes, if_neg quote]
    exact inductionHypothesis

/-- Brackets nest no deeper in a trimmed text. -/
theorem nesting_trim_le (text : String) : nesting (Text.trim text) ≤ nesting text := by
  have blank {c : Char} (blank : Text.isBlank c = true) : IsOrdinary c :=
    isOrdinary_of_kind (by decide) blank
  have led := (IsLeft.dropWhile (fun _ => blank) text.toList).shallower 0
  have trailed := nestingFrom_le_append none 0 (Text.trimChars text.toList)
    ((text.toList.dropWhile Text.isBlank).reverse.takeWhile Text.isBlank).reverse
  rw [Text.trimChars, ← List.reverse_append, List.takeWhile_append_dropWhile,
    List.reverse_reverse] at trailed
  rw [nesting, Text.trim, String.toList_ofList]
  exact Nat.le_trans trailed led

end ChunkCodecs.Document
