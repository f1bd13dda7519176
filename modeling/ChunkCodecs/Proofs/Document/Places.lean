import ChunkCodecs.Proofs.Document.Dictionaries
import ChunkCodecs.Proofs.Document.Nesting
import Mathlib.Logic.Relation

/-!
# Places in documents

The reading of a value comes to places where it reads the values inside. A document that is not
read because of anything else than a defect is stopped at one of these places: by the numeral of a
whole number that has too many digits, or by a bracket that is nested too deeply.
-/

namespace ChunkCodecs.Document

open Relation (ReflTransGen)

/-- A failure is a defect of the text. -/
inductive Failure.IsDefect : Failure → Prop where
  /-- It is any defect at any place. -/
  | defective (defect : Defect) (left : Nat) : IsDefect (.defective defect left)

/-- A numeral with too many digits is no defect. -/
theorem Failure.not_isDefect_longNumeral (digits : Nat) : ¬ IsDefect (.longNumeral digits) := nofun

/-- Nesting too deeply is no defect. -/
theorem Failure.not_isDefect_deepNesting (inArray : Bool) : ¬ IsDefect (.deepNesting inArray) := nofun

/-- The defect that a reading fails for. -/
def defect? : Except Failure Value → Option Defect
  | .error (.defective defect _) => some defect
  | _ => none

/-- A reading fails for a defect at some place. -/
theorem defect?_eq_some_iff {outcome : Except Failure Value} {defect : Defect} :
    defect? outcome = some defect ↔ ∃ left, outcome = .error (.defective defect left) := by
  constructor
  · intro failed
    rw [defect?.eq_def] at failed
    split at failed <;> cases failed
    exact ⟨_, rfl⟩
  · rintro ⟨left, rfl⟩
    rfl

/-- The numeral of a whole number leads, and has so many digits, which are too many. -/
inductive IsOverlong : (digits : Nat) → List Char → Prop where
  /-- The numeral has nothing but a whole part. -/
  | whole {text : NumeralText} {rest : List Char} (valid : text.IsValid)
      (bare : text.fraction = [] ∧ text.exponent = none)
      (long : Numeral.maxDigits < text.whole.length) (ends : EndsWhole rest) :
      IsOverlong text.whole.length (text.chars ++ rest)

/-- An overlong numeral is refused. -/
theorem IsOverlong.readNumber {digits : Nat} {characters : List Char}
    (overlong : IsOverlong digits characters) :
    readNumber characters = .error (.longNumeral digits) := by
  cases overlong with
  | whole valid bare long ends =>
    rw [NumeralText.readNumber_bare valid ends bare, if_neg (Nat.not_le.mpr long)]

/-- The sign that is taken and what is left are what was given. -/
theorem sign_append_takeMinus (characters : List Char) :
    (if (takeMinus characters).1 then ['-'] else []) ++ (takeMinus characters).2 = characters := by
  unfold takeMinus
  split <;> rfl

/-- A whole part of more than one digit is a run of digits that does not begin with a zero. -/
theorem takeWhole_of_long {characters : List Char} (long : 1 < (takeWhole characters).1.length) :
    takeWhole characters = takeDigits characters ∧ characters.head? ≠ some '0' := by
  unfold takeWhole at long ⊢
  split at long
  · exact absurd long (Nat.lt_irrefl 1)
  · next no_zero =>
    refine ⟨rfl, fun leads => ?_⟩
    obtain ⟨rest, rfl⟩ := List.head?_eq_some_iff.mp leads
    exact no_zero rest rfl

/-- Digits that do not begin with a zero and are not continued are an overlong numeral if they are
too many. -/
theorem isOverlong_of_takeDigits {characters : List Char} (leading : characters.head? ≠ some '0')
    (long : Numeral.maxDigits < (takeDigits characters).1.length)
    (no_fraction : (takeFraction (takeDigits characters).2).1 = [])
    (no_exponent : (takeExponent (takeDigits characters).2).1 = none) (negative : Bool) :
    IsOverlong (takeDigits characters).1.length
      ((if negative then ['-'] else []) ++ characters) := by
  have counted : (takeDigits characters).1.length = (characters.takeWhile Char.isDigit).length :=
    List.length_map _
  rw [counted] at long ⊢
  have valid : NumeralText.IsValid ⟨negative, characters.takeWhile Char.isDigit, [], none⟩ := by
    refine ⟨?_, fun _ member => List.mem_takeWhile_imp member, .inr ?_, ?_, ?_⟩
    · exact List.ne_nil_of_length_pos (Nat.zero_lt_of_lt long)
    · simpa [List.head?_takeWhile] using leading
    · exact fun _ member => absurd member List.not_mem_nil
    · exact fun _ _ exponent => by cases exponent
  have ends : EndsWhole (characters.dropWhile Char.isDigit) := by
    refine ⟨fun c leads => ?_, no_fraction, no_exponent⟩
    have stopped := List.head?_dropWhile_not Char.isDigit characters
    rwa [leads] at stopped
  have overlong := IsOverlong.whole valid ⟨rfl, rfl⟩ long ends
  simpa [NumeralText.chars, NumeralText.fractionChars, NumeralText.exponentChars] using overlong

/-- A numeral that is refused for its length is overlong. -/
theorem isOverlong_of_readNumber {characters : List Char} {digits : Nat}
    (refused : readNumber characters = .error (.longNumeral digits)) :
    IsOverlong digits characters := by
  have signed := sign_append_takeMinus characters
  rw [readNumber] at refused
  generalize takeMinus characters = signed_part at signed refused
  obtain ⟨negative, unsigned⟩ := signed_part
  simp only at signed refused
  split at refused
  · cases refused
  split at refused
  · next bare =>
    split at refused
    · cases refused
    · next many =>
      cases refused
      have long := Nat.not_le.mp many
      obtain ⟨run, leading⟩ := takeWhole_of_long (Nat.lt_trans (by decide) long)
      rw [run] at long bare ⊢
      rw [Bool.and_eq_true, List.isEmpty_iff, Option.isNone_iff_eq_none] at bare
      obtain ⟨no_fraction, no_exponent⟩ := bare
      rw [takeFraction_eq_of_nil no_fraction] at no_exponent
      rw [← signed]
      exact isOverlong_of_takeDigits leading long no_fraction no_exponent negative
  · cases refused

/-- A numeral that is refused is overlong or defective. -/
theorem isOverlong_or_isDefect {characters : List Char} {failure : Failure}
    (refused : readNumber characters = .error failure) :
    (∃ digits, failure = .longNumeral digits ∧ IsOverlong digits characters) ∨
      failure.IsDefect := by
  have kinds := refused
  rw [readNumber] at kinds
  simp only at kinds
  split at kinds
  · cases kinds
    exact .inr (.defective _ _)
  split at kinds
  · split at kinds <;> cases kinds
    exact .inl ⟨_, rfl, isOverlong_of_readNumber refused⟩
  · cases kinds

/-- What stops the reading of codes is a defect.

Proof: recursion of the reading. -/
theorem isDefect_of_readCodes {whole characters : List Char} {failure : Failure}
    (refused : readCodes whole characters = .error failure) : failure.IsDefect := by
  have earlier {code : Nat} {outcome : Except Failure (List Nat × List Char)}
      (refused : consCode code outcome = .error failure) : outcome = .error failure :=
    eq_error_of_map refused
  fun_induction readCodes whole characters with
  | case2 => cases refused
  | case4 _ _ _ _ _ _ _ _ inductionHypothesis => exact inductionHypothesis (earlier refused)
  | case7 _ _ _ _ _ _ inductionHypothesis => exact inductionHypothesis (earlier refused)
  | case10 _ _ _ _ _ _ _ inductionHypothesis => exact inductionHypothesis (earlier refused)
  | _ => cases refused; exact .defective _ _

/-- A text that is refused is defective. -/
theorem isDefect_of_readText {inside : List Char} {failure : Failure}
    (refused : readText inside = .error failure) : failure.IsDefect :=
  isDefect_of_readCodes (eq_error_of_map refused)

/-- A name that is refused is defective. -/
theorem isDefect_of_readName {characters : List Char} {failure : Failure}
    (refused : readName characters = .error failure) : failure.IsDefect := by
  rw [readName.eq_def] at refused
  split at refused
  · split at refused
    · next cause =>
      cases refused
      exact isDefect_of_readText cause
    · split at refused <;> cases refused
      exact .defective _ _
  · cases refused
    exact .defective _ _

/-- Where a value begins: the characters from there on, and how deep lists and dictionaries may be
nested in it. -/
structure Place where
  /-- How deep lists and dictionaries may be nested. -/
  room : Nat
  /-- The characters from the place on. -/
  characters : List Char

namespace Place

/-- Read the value that begins at a place. -/
def read (place : Place) : Outcome Value := readValue place.room place.characters

end Place

section

variable (readItem : List Char → Outcome Value)

/-- An item begins there, among those of a list. -/
inductive ItemAt : (items : List Char) → (item : List Char) → Prop where
  /-- The first item. -/
  | first {items : List Char} : ItemAt items items
  /-- An item behind a comma. -/
  | next {items after rest item : List Char} {value : Value}
      (read : readItem items = .ok (value, after)) (comma : skipBlanks after = ',' :: rest)
      (further : ItemAt (skipBlanks rest) item) : ItemAt items item

/-- The value of a name begins there, among those of a dictionary. -/
inductive MemberAt : (members : List Char) → (item : List Char) → Prop where
  /-- The first value. -/
  | first {members item : List Char} {name : String}
      (named : readName members = .ok (name, item)) : MemberAt members item
  /-- A value behind a comma. -/
  | next {members afterName after rest item : List Char} {name : String} {value : Value}
      (named : readName members = .ok (name, afterName))
      (read : readItem afterName = .ok (value, after)) (comma : skipBlanks after = ',' :: rest)
      (further : MemberAt (skipBlanks rest) item) : MemberAt members item

end

/-- A place immediately inside of the value at another one. -/
inductive Inside : (outer inner : Place) → Prop where
  /-- An item of a list. -/
  | item {room : Nat} {inside item : List Char} (some_item : (skipBlanks inside).head? ≠ some ']')
      (here : ItemAt (readValue room) (skipBlanks inside) item) :
      Inside ⟨room + 1, '[' :: inside⟩ ⟨room, item⟩
  /-- A value of a dictionary. -/
  | member {room : Nat} {inside item : List Char}
      (some_member : (skipBlanks inside).head? ≠ some '\x7d')
      (here : MemberAt (readValue room) (skipBlanks inside) item) :
      Inside ⟨room + 1, '\x7b' :: inside⟩ ⟨room, item⟩

/-- Something other than a defect stops the reading of a value right at its place. -/
inductive StopsAt : Place → Failure → Prop where
  /-- There is a numeral with too many digits. -/
  | numeral {room digits : Nat} {characters : List Char} (overlong : IsOverlong digits characters) :
      StopsAt ⟨room, characters⟩ (.longNumeral digits)
  /-- There is a list, which is nested too deeply. -/
  | list {inside : List Char} : StopsAt ⟨0, '[' :: inside⟩ (.deepNesting true)
  /-- There is a dictionary, which is nested too deeply. -/
  | dictionary {inside : List Char} : StopsAt ⟨0, '\x7b' :: inside⟩ (.deepNesting false)

section

variable {readItem : List Char → Outcome Value} {most : Nat} {characters : List Char}
  {failure : Failure}

/-- What stops one of the items stops the reading of items.

Proof: induction on the items up to the one that is stopped. -/
theorem readItems_eq_error_of_itemAt (closes : ClosesBrackets readItem) {item : List Char}
    (here : ItemAt readItem characters item) (stopped : readItem item = .error failure)
    (enough : characters.length < most) :
    readItems readItem most characters = .error failure := by
  induction here generalizing most with
  | first =>
    cases most with
    | zero => cases enough
    | succ most => rw [readItems, stopped]
  | @next items after rest item value read comma _ inductionHypothesis =>
    cases most with
    | zero => cases enough
    | succ most =>
      have fewer : (skipBlanks rest).length < most := by
        have behind := (closes _ _ _ read).shorter
        have remaining := length_skipBlanks_lt comma
        omega
      rw [readItems, read]
      simp only [comma, inductionHypothesis stopped fewer, Except.map]

/-- What stops the reading of items, and is no defect, stops one of them.

Proof: induction on the items that may still be read. -/
theorem exists_itemAt_of_readItems_eq_error (hard : ¬ failure.IsDefect)
    (stopped : readItems readItem most characters = .error failure) :
    ∃ item, ItemAt readItem characters item ∧ readItem item = .error failure := by
  induction most generalizing characters with
  | zero =>
    cases stopped
    exact absurd (.defective _ _) hard
  | succ most inductionHypothesis =>
    rw [readItems] at stopped
    split at stopped
    · next found =>
      cases stopped
      exact ⟨characters, .first, found⟩
    · next value after found =>
      split at stopped
      · cases stopped
      · next rest comma =>
        obtain ⟨item, here, read⟩ := inductionHypothesis (eq_error_of_map stopped)
        exact ⟨item, .next found comma here, read⟩
      · cases stopped
        exact absurd (.defective _ _) hard

/-- What stops one of the values stops the reading of names and values.

Proof: induction on the values up to the one that is stopped. -/
theorem readMembers_eq_error_of_memberAt (closes : ClosesBrackets readItem) {item : List Char}
    (here : MemberAt readItem characters item) (stopped : readItem item = .error failure)
    (enough : characters.length < most) :
    readMembers readItem most characters = .error failure := by
  induction here generalizing most with
  | first named =>
    cases most with
    | zero => cases enough
    | succ most =>
      rw [readMembers, named]
      simp only [stopped]
  | @next members afterName after rest item name value named read comma _ inductionHypothesis =>
    cases most with
    | zero => cases enough
    | succ most =>
      have fewer : (skipBlanks rest).length < most := by
        have colon := (isLeft_readName named).shorter
        have behind := (closes _ _ _ read).shorter
        have remaining := length_skipBlanks_lt comma
        omega
      rw [readMembers, named]
      simp only [read, comma, inductionHypothesis stopped fewer, Except.map]

/-- What stops the reading of names and values, and is no defect, stops one of the values.

Proof: induction on the names that may still be read. -/
theorem exists_memberAt_of_readMembers_eq_error (hard : ¬ failure.IsDefect)
    (stopped : readMembers readItem most characters = .error failure) :
    ∃ item, MemberAt readItem characters item ∧ readItem item = .error failure := by
  induction most generalizing characters with
  | zero =>
    cases stopped
    exact absurd (.defective _ _) hard
  | succ most inductionHypothesis =>
    rw [readMembers] at stopped
    split at stopped
    · next named =>
      cases stopped
      exact absurd (isDefect_of_readName named) hard
    next name afterName named =>
    split at stopped
    · next found =>
      cases stopped
      exact ⟨afterName, .first named, found⟩
    · next value after found =>
      split at stopped
      · cases stopped
      · next rest comma =>
        obtain ⟨item, here, read⟩ := inductionHypothesis (eq_error_of_map stopped)
        exact ⟨item, .next named found comma here, read⟩
      · cases stopped
        exact absurd (.defective _ _) hard

/-- What is left of items from one of them on is behind items that close their brackets.

Proof: induction on the items up to that one. -/
theorem ItemAt.isLeft (closes : ClosesBrackets readItem) {items item : List Char}
    (here : ItemAt readItem items item) : IsLeft 0 item items := by
  induction here with
  | first => exact .refl _
  | next read comma _ inductionHypothesis =>
    exact inductionHypothesis.trans <|
      (IsLeft.separator ⟨rfl, rfl, rfl⟩ comma).trans (closes _ _ _ read)

/-- What is left of names and values from a value on is behind values that close their brackets.

Proof: induction on the values up to that one. -/
theorem MemberAt.isLeft (closes : ClosesBrackets readItem) {members item : List Char}
    (here : MemberAt readItem members item) : IsLeft 0 item members := by
  induction here with
  | first named => exact isLeft_readName named
  | next named read comma _ inductionHypothesis =>
    exact inductionHypothesis.trans <| (IsLeft.separator ⟨rfl, rfl, rfl⟩ comma).trans <|
      (closes _ _ _ read).trans (isLeft_readName named)

end

namespace Place

variable {outer inner last : Place} {failure : Failure}

/-- What stops the reading inside of a value stops the reading of the value. -/
theorem read_eq_error_of_inside (inside : Inside outer inner) (stopped : inner.read = .error failure) :
    outer.read = .error failure := by
  cases inside with
  | @item room inside item some_item here =>
    show readList (readValue room) inside = _
    rw [readList]
    split
    · next empty =>
      rw [empty] at some_item
      exact absurd rfl some_item
    · rw [readItems_eq_error_of_itemAt (closesBrackets_readValue room) here stopped
        (Nat.lt_succ_self _)]
      rfl
  | @member room inside item some_member here =>
    show readDictionary (readValue room) inside = _
    rw [readDictionary]
    split
    · next empty =>
      rw [empty] at some_member
      exact absurd rfl some_member
    · rw [readMembers_eq_error_of_memberAt (closesBrackets_readValue room) here stopped
        (Nat.lt_succ_self _)]
      rfl

/-- What stops the reading of a list, and is no defect, stops one of its items. -/
theorem exists_inside_of_readList {room : Nat} {inside : List Char} (hard : ¬ failure.IsDefect)
    (stopped : readList (readValue room) inside = .error failure) :
    ∃ inner, Inside ⟨room + 1, '[' :: inside⟩ inner ∧ inner.read = .error failure := by
  rw [readList] at stopped
  split at stopped
  · cases stopped
  · next some_item =>
    obtain ⟨item, here, read⟩ :=
      exists_itemAt_of_readItems_eq_error hard (eq_error_of_map stopped)
    refine ⟨⟨room, item⟩, .item (fun closed => ?_) here, read⟩
    obtain ⟨rest, empty⟩ := List.head?_eq_some_iff.mp closed
    exact some_item rest empty

/-- What stops the reading of a dictionary, and is no defect, stops one of its values. -/
theorem exists_inside_of_readDictionary {room : Nat} {inside : List Char}
    (hard : ¬ failure.IsDefect)
    (stopped : readDictionary (readValue room) inside = .error failure) :
    ∃ inner, Inside ⟨room + 1, '\x7b' :: inside⟩ inner ∧ inner.read = .error failure := by
  rw [readDictionary] at stopped
  split at stopped
  · cases stopped
  · next some_member =>
    obtain ⟨item, here, read⟩ :=
      exists_memberAt_of_readMembers_eq_error hard (eq_error_of_map stopped)
    refine ⟨⟨room, item⟩, .member (fun closed => ?_) here, read⟩
    obtain ⟨rest, empty⟩ := List.head?_eq_some_iff.mp closed
    exact some_member rest empty

/-- What stops the reading of a value, and is no defect, stops it right at its place or stops the
reading inside of it. -/
theorem stopsAt_or_exists_inside (hard : ¬ failure.IsDefect) (stopped : outer.read = .error failure) :
    StopsAt outer failure ∨ ∃ inner, Inside outer inner ∧ inner.read = .error failure := by
  obtain ⟨room, characters⟩ := outer
  rw [read] at stopped
  cases beginning characters with
  | text inside =>
    rw [readValue_text] at stopped
    exact absurd (isDefect_of_readText (eq_error_of_map stopped)) hard
  | list inside =>
    cases room with
    | zero =>
      cases stopped
      exact .inl .list
    | succ room => exact .inr (exists_inside_of_readList hard stopped)
  | dictionary inside =>
    cases room with
    | zero =>
      cases stopped
      exact .inl .dictionary
    | succ room => exact .inr (exists_inside_of_readDictionary hard stopped)
  | scalar other =>
    rw [other, readScalar] at stopped
    split at stopped
    · cases stopped
    · rcases isOverlong_or_isDefect stopped with ⟨digits, rfl, overlong⟩ | defect
      · exact .inl (.numeral overlong)
      · exact absurd defect hard

/-- What stops the reading right at a place is what it is stopped by. -/
theorem read_eq_error_of_stopsAt (stops : StopsAt last failure) : last.read = .error failure := by
  cases stops with
  | numeral overlong =>
    have refused := overlong.readNumber
    cases overlong with
    | whole valid => exact (readValue_numeral valid _ _).trans refused
  | list => rfl
  | dictionary => rfl

/-- A value is not read because of anything else than a defect exactly if its reading comes to a
place where that stops it.

Proof: induction on how deep lists and dictionaries may be nested, and on the places that the reading
comes to. -/
theorem read_eq_error_iff (hard : ¬ failure.IsDefect) :
    outer.read = .error failure ↔ ∃ last, ReflTransGen Inside outer last ∧ StopsAt last failure := by
  constructor
  · intro stopped
    obtain ⟨room, characters⟩ := outer
    induction room generalizing characters with
    | zero =>
      rcases stopsAt_or_exists_inside hard stopped with stops | ⟨inner, inside, _⟩
      · exact ⟨_, .refl, stops⟩
      · cases inside
    | succ room inductionHypothesis =>
      rcases stopsAt_or_exists_inside hard stopped with stops | ⟨inner, inside, further⟩
      · exact ⟨_, .refl, stops⟩
      · have deeper : inner = ⟨room, inner.characters⟩ := by
          cases inside <;> rfl
        rw [deeper] at inside further
        obtain ⟨last, comes, stops⟩ := inductionHypothesis inner.characters further
        exact ⟨last, .head inside comes, stops⟩
  · rintro ⟨last, comes, stops⟩
    induction comes using ReflTransGen.head_induction_on with
    | refl => exact read_eq_error_of_stopsAt stops
    | head inside _ inductionHypothesis => exact read_eq_error_of_inside inside inductionHypothesis

/-- A place inside of a value is inside of one more bracket, and one less may be opened there. -/
theorem deeper_of_inside (inside : Inside outer inner) : outer.room = inner.room + 1 ∧
    ∀ depth, nestingFrom none (depth + 1) inner.characters ≤ nestingFrom none depth outer.characters := by
  cases inside with
  | item _ here =>
    have left := (here.isLeft (closesBrackets_readValue _)).trans (IsLeft.skipBlanks _)
    exact ⟨rfl, fun depth => left.shallower (depth + 1)⟩
  | member _ here =>
    have left := (here.isLeft (closesBrackets_readValue _)).trans (IsLeft.skipBlanks _)
    exact ⟨rfl, fun depth => left.shallower (depth + 1)⟩

/-- A place that the reading comes to is inside of as many brackets as there may be less.

Proof: induction on the places that the reading comes to. -/
theorem exists_deeper_of_comes (comes : ReflTransGen Inside outer last) :
    ∃ brackets, outer.room = last.room + brackets ∧ ∀ depth,
      nestingFrom none (depth + brackets) last.characters ≤ nestingFrom none depth outer.characters := by
  induction comes with
  | refl => exact ⟨0, rfl, fun _ => Nat.le_refl _⟩
  | tail _ inside inductionHypothesis =>
    obtain ⟨brackets, room, shallower⟩ := inductionHypothesis
    obtain ⟨one, next⟩ := deeper_of_inside inside
    refine ⟨brackets + 1, by omega, fun depth => ?_⟩
    exact Nat.le_trans (next (depth + brackets)) (shallower depth)

/-- Brackets that are nested too deeply are nested deeper than they may be. -/
theorem room_lt_nestingFrom_of_read {inArray : Bool}
    (stopped : outer.read = .error (.deepNesting inArray)) :
    outer.room < nestingFrom none 0 outer.characters := by
  obtain ⟨last, comes, stops⟩ := (read_eq_error_iff (Failure.not_isDefect_deepNesting inArray)).mp stopped
  obtain ⟨brackets, room, shallower⟩ := exists_deeper_of_comes comes
  have opens : last.room = 0 ∧ ∀ depth, depth < nestingFrom none depth last.characters := by
    cases stops <;> exact ⟨rfl, fun depth => le_nestingFrom none (depth + 1) _⟩
  have least := opens.2 (0 + brackets)
  have most := shallower 0
  omega

end Place

/-- Where the value of a document begins. -/
def start (text : String) : Place := ⟨maxDepth, skipBlanks text.toList⟩

variable {text : String}

/-- A document is not read because of anything else than a defect exactly if its value is not. -/
theorem read_eq_error_iff {failure : Failure} (hard : ¬ failure.IsDefect) :
    Document.read text = .error failure ↔ (start text).read = .error failure := by
  rw [Document.read, readChars, start, Place.read]
  split
  · next mark =>
    obtain ⟨rest, characters⟩ := List.head?_eq_some_iff.mp mark
    rw [characters, skipBlanks_cons rfl, readValue_of_missing (by decide) rfl (by decide) rfl]
    constructor <;> intro failed <;> cases failed <;> exact absurd (.defective _ _) hard
  · split
    · next cause found =>
      rw [found]
      constructor <;> intro failed <;> cases failed <;> rfl
    · next value after found =>
      rw [found]
      split
      · constructor <;> intro failed <;> cases failed
      · constructor <;> intro failed <;> cases failed
        exact absurd (.defective _ _) hard

/-- A document whose brackets do not nest too deeply does not fail for their depth. -/
theorem read_ne_deepNesting (nested : nesting text ≤ maxDepth) (inArray : Bool) :
    Document.read text ≠ .error (.deepNesting inArray) := by
  intro stopped
  have value := (read_eq_error_iff (Failure.not_isDefect_deepNesting inArray)).mp stopped
  have deeper := Place.room_lt_nestingFrom_of_read value
  have blanks := (IsLeft.skipBlanks text.toList).shallower 0
  exact Nat.lt_irrefl _ (Nat.lt_of_lt_of_le deeper (Nat.le_trans blanks nested))

/-- A document fails for the length of a numeral exactly if its reading comes to an overlong one. -/
theorem read_eq_longNumeral_iff {digits : Nat} :
    Document.read text = .error (.longNumeral digits) ↔
      ∃ last, ReflTransGen Inside (start text) last ∧ IsOverlong digits last.characters := by
  have hard := Failure.not_isDefect_longNumeral digits
  rw [read_eq_error_iff hard, Place.read_eq_error_iff hard]
  constructor
  · rintro ⟨last, comes, stops⟩
    cases stops with
    | numeral overlong => exact ⟨_, comes, overlong⟩
  · rintro ⟨last, comes, overlong⟩
    exact ⟨last, comes, .numeral overlong⟩

end ChunkCodecs.Document
