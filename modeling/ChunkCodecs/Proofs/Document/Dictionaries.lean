import Mathlib
import ChunkCodecs.Proofs.Document.Scalars
import ChunkCodecs.Proofs.Parameters

/-!
# Dictionaries read back

A dictionary of values without parts is read back from its document, in every layout: the
names are read back as they are, every value as what its own document reads as, and blanks
between the parts do not matter. As no name occurs twice, every name keeps its place.
-/

namespace ChunkCodecs

namespace Properties

/-- A name that no key is comes last. -/
theorem insert_of_fresh {properties : Properties} {name : String} (value : Value)
    (fresh : ∀ key ∈ properties.keys, key.sameKey (.text name) = false) :
    properties.insert (.text name) value = properties ++ [(.text name, value)] := by
  induction properties with
  | nil => rfl
  | cons entry rest inductionHypothesis =>
    have other := fresh entry.1 List.mem_cons_self
    have remaining := inductionHypothesis fun key member =>
      fresh key (List.mem_cons_of_mem _ member)
    simp only [insert, other, Bool.false_eq_true, if_false, remaining, List.cons_append]

/-- The entries of different names. -/
def named (entries : List (String × Value)) : Properties :=
  entries.map fun entry => (.text entry.1, entry.2)

/-- Entries of different names are bound in their order, behind those of other names. -/
theorem update_named {entries further : List (String × Value)}
    (different : ((entries ++ further).map Prod.fst).Nodup) :
    (named entries).update (named further) = named (entries ++ further) := by
  induction further generalizing entries with
  | nil => simp [update, named]
  | cons entry others inductionHypothesis =>
    have fresh : ∀ key ∈ (named entries).keys, key.sameKey (.text entry.1) = false := by
      intro key member
      simp only [keys, named, List.map_map, List.mem_map, Function.comp_apply] at member
      obtain ⟨present, there, rfl⟩ := member
      rw [Value.sameKey_text, beq_eq_false_iff_ne]
      rw [List.map_append, List.nodup_append] at different
      exact different.2.2 _ (List.mem_map_of_mem there) _ (by simp)
    have behind : named entries ++ [(.text entry.1, entry.2)] = named (entries ++ [entry]) := by
      simp [named]
    have regrouped : entries ++ entry :: others = entries ++ [entry] ++ others := by simp
    rw [regrouped] at different ⊢
    rw [← inductionHypothesis different, ← behind, ← insert_of_fresh entry.2 fresh]
    rfl

/-- Entries of different names make a dictionary as they are. -/
theorem ofEntries_named {entries : List (String × Value)}
    (different : (entries.map Prod.fst).Nodup) : ofEntries (named entries) = named entries :=
  @update_named [] entries different

/-- All keys of named entries are texts. -/
theorem any_keys_named (entries : List (String × Value)) :
    (named entries).keys.any (fun key => key.text?.isNone) = false := by
  rw [List.any_eq_false]
  intro key member
  simp only [keys, named, List.map_map, List.mem_map, Function.comp_apply] at member
  obtain ⟨entry, _, rfl⟩ := member
  simp [Value.text?]

/-- Leaving out the entries of a name that occurs nowhere changes nothing. -/
theorem filter_named_of_fresh {entries : List (String × Value)} {name : String}
    (fresh : name ∉ entries.map Prod.fst) :
    (named entries).filter (fun entry => !entry.1.sameKey (.text name)) = named entries := by
  rw [List.filter_eq_self]
  intro entry member
  obtain ⟨present, there, rfl⟩ := List.mem_map.mp member
  have other : present.1 ≠ name := by
    rintro rfl
    exact fresh (List.mem_map_of_mem there)
  simp [Value.sameKey_text, other]

/-- No entry is found under names that occur nowhere. -/
theorem find?_keys_named {entries : List (String × Value)} {names : List String}
    (fresh : ∀ name ∈ names, name ∉ entries.map Prod.fst) :
    (named entries).keys.find? (fun key => names.any fun name => key.sameKey (.text name)) =
      none := by
  rw [List.find?_eq_none]
  intro key member
  simp only [keys, named, List.map_map, List.mem_map, Function.comp_apply] at member
  obtain ⟨entry, there, rfl⟩ := member
  simp only [List.any_eq_true, not_exists, not_and, Value.sameKey_text, beq_iff_eq]
  rintro name listed rfl
  exact fresh _ listed (List.mem_map_of_mem there)

/-- Among entries of different names each one is found under its name. -/
theorem lookup_named {entries : List (String × Value)} (different : (entries.map Prod.fst).Nodup)
    {entry : String × Value} (member : entry ∈ entries) :
    (named entries).lookup entry.1 = some entry.2 := by
  induction entries with
  | nil => cases member
  | cons first others inductionHypothesis =>
    rw [List.map_cons, List.nodup_cons] at different
    have step : (named (first :: others)).lookup entry.1 =
        if first.1 = entry.1 then some first.2 else (named others).lookup entry.1 :=
      lookup_cons_text first.1 first.2 (named others) entry.1
    rw [step]
    rcases List.mem_cons.mp member with rfl | later
    · rw [if_pos rfl]
    · have other : first.1 ≠ entry.1 := by
        intro same
        exact different.1 (same ▸ List.mem_map_of_mem later)
      rw [if_neg other, inductionHypothesis different.2 later]

end Properties

namespace Document

/-- Blanks are skipped. -/
theorem skipBlanks_append {blanks : List Char} (blank : ∀ c ∈ blanks, isBlank c = true)
    (rest : List Char) : skipBlanks (blanks ++ rest) = skipBlanks rest :=
  List.dropWhile_append_of_pos blank

/-- Nothing else is skipped. -/
theorem skipBlanks_cons {c : Char} (printed : isBlank c = false) (rest : List Char) :
    skipBlanks (c :: rest) = c :: rest := by
  simp [skipBlanks, printed]

namespace Layout

/-- What stands between two items, behind the comma. -/
def gap : Layout → List Char
  | flat => [' ']
  | indented level => lead (indented level)

/-- Items are laid out with a comma and a gap between. -/
theorem between_eq (layout : Layout) : layout.between = ',' :: layout.gap := by
  cases layout <;> rfl

/-- What stands in front of an item is blank. -/
theorem isBlank_of_mem_lead {layout : Layout} {c : Char} (member : c ∈ layout.lead) :
    isBlank c = true := by
  cases layout with
  | flat => cases member
  | indented level =>
    rcases List.mem_cons.mp member with rfl | space
    · rfl
    · rw [List.eq_of_mem_replicate space]
      rfl

/-- A gap is blank. -/
theorem isBlank_of_mem_gap {layout : Layout} {c : Char} (member : c ∈ layout.gap) :
    isBlank c = true := by
  cases layout with
  | flat =>
    rw [List.mem_singleton.mp member]
    rfl
  | indented level =>
    have inLead : c ∈ (indented level).lead := member
    exact isBlank_of_mem_lead inLead

end Layout

/-- What is read as a value begins with no blank. -/
theorem ReadsAs.skipBlanks {written : List Char} {value : Value} (reads : ReadsAs written value)
    (rest : List Char) : skipBlanks (written ++ rest) = written ++ rest := by
  have alone := reads 0 [] EndsNumeral.nil
  rw [List.append_nil] at alone
  cases written with
  | nil => cases alone
  | cons c others =>
    by_cases blank : isBlank c = true
    · simp only [isBlank, Bool.or_eq_true, decide_eq_true_eq] at blank
      rcases blank with ((rfl | rfl) | rfl) | rfl <;> cases alone
    · exact skipBlanks_cons (by simpa using blank) _

/-- An entry of a document: its name, and its value as it is written and as it is read. -/
structure Entry where
  /-- The name. -/
  name : String
  /-- The value that is written. -/
  written : Value
  /-- The value that is read. -/
  read : Value

namespace Entry

/-- The value is read as it should be, wherever it is laid out. -/
def IsRead (entry : Entry) : Prop :=
  ∀ layout, ReadsAs (Document.chars layout entry.written) entry.read

/-- The characters of an entry. -/
def chars (layout : Layout) (entry : Entry) : List Char :=
  nameChars (.text entry.name) ++ ':' :: ' ' :: Document.chars layout entry.written

/-- The characters of entries with those of the layout between them. -/
def joined (layout : Layout) (entries : List Entry) : List Char :=
  layout.between.intercalate (entries.map (chars layout))

variable (layout : Layout) (entry next : Entry) (others : List Entry) (tail : List Char)

/-- The name of an entry stands in front of its value. -/
theorem chars_append : entry.chars layout ++ tail =
    nameChars (.text entry.name) ++ ':' :: ' ' :: (Document.chars layout entry.written ++ tail) := by
  simp [chars]

/-- The last entry has nothing behind it. -/
theorem joined_singleton : joined layout [entry] = entry.chars layout :=
  List.intercalate_singleton

/-- Any other entry has a comma and a gap behind it. -/
theorem joined_append : joined layout (entry :: next :: others) ++ tail =
    entry.chars layout ++ (',' :: (layout.gap ++ (joined layout (next :: others) ++ tail))) := by
  simp [joined, Layout.between_eq]

/-- Entries begin with the quote of a name. -/
theorem exists_joined_eq_cons : ∃ rest, joined layout (entry :: others) ++ tail = '"' :: rest := by
  cases others <;> exact ⟨_, rfl⟩

/-- Entries take at least a character each. -/
theorem length_le_length_joined (entries : List Entry) :
    entries.length ≤ (joined layout entries).length := by
  induction entries with
  | nil => exact Nat.zero_le _
  | cons entry others inductionHypothesis =>
    have some_characters : 1 ≤ (entry.chars layout).length := by
      simp only [chars, List.length_append, List.length_cons]
      omega
    cases others with
    | nil =>
      rw [joined_singleton]
      exact some_characters
    | cons next further =>
      have whole := joined_append layout entry next further []
      simp only [List.append_nil] at whole
      rw [whole]
      simp only [List.length_append, List.length_cons] at inductionHypothesis ⊢
      omega

end Entry

/-- The entries of a dictionary are written one by one. -/
theorem membersChars_map (layout : Layout) (entries : List Entry) :
    membersChars layout (Properties.named (entries.map fun entry => (entry.name, entry.written))) =
      entries.map (Entry.chars layout) := by
  induction entries with
  | nil => rfl
  | cons entry others inductionHypothesis =>
    rw [List.map_cons, List.map_cons, ← inductionHypothesis]
    rfl

/-- There is no blank in front of entries. -/
theorem skipBlanks_joined (layout : Layout) (entry : Entry) (others : List Entry)
    (tail : List Char) :
    skipBlanks (Entry.joined layout (entry :: others) ++ tail) =
      Entry.joined layout (entry :: others) ++ tail := by
  obtain ⟨rest, opening⟩ := Entry.exists_joined_eq_cons layout entry others tail
  rw [opening]
  exact skipBlanks_cons rfl rest

/-- A name is read up to the value behind it. -/
theorem readName_nameChars (name : String) (tail : List Char) :
    readName (nameChars (.text name) ++ ':' :: ' ' :: tail) = .ok (name, skipBlanks tail) := by
  have inside : nameChars (.text name) ++ ':' :: ' ' :: tail =
      '"' :: (name.toList.flatMap escapeChar ++ '"' :: ':' :: ' ' :: tail) := by
    simp [nameChars, textChars, Value.text?]
  rw [inside, readName, readText_textChars]
  simp only [skipBlanks_cons (show isBlank ':' = false from rfl), String.ofList_toList]
  rw [skipBlanks, List.dropWhile_cons_of_pos rfl]
  rfl

/-- A blank, a comma and a brace end a numeral. -/
theorem endsNumeral_of_lead {blanks : List Char} (blank : ∀ c ∈ blanks, isBlank c = true)
    {c : Char} (closing : c = ',' ∨ c = '\x7d') (rest : List Char) :
    EndsNumeral (blanks ++ c :: rest) := by
  cases blanks with
  | nil =>
    apply EndsNumeral.cons
    rcases closing with rfl | rfl <;> decide
  | cons d others =>
    apply EndsNumeral.cons
    have first := blank d List.mem_cons_self
    simp only [isBlank, Bool.or_eq_true, decide_eq_true_eq] at first
    rcases first with ((rfl | rfl) | rfl) | rfl <;> decide

section

variable {room most : Nat} {layout : Layout} {entry : Entry} {tail rest : List Char}

/-- The last entry is read up to the closing brace. -/
theorem readMembers_last (read : entry.IsRead) (ends : EndsNumeral tail)
    (closing : skipBlanks tail = '\x7d' :: rest) :
    readMembers (readValue room) (most + 1) (entry.chars layout ++ tail) =
      .ok ([(.text entry.name, entry.read)], rest) := by
  rw [entry.chars_append, readMembers, readName_nameChars, (read layout).skipBlanks]
  simp only [read layout room tail ends, closing]

/-- Any other entry is read up to the comma, and then those behind it are. -/
theorem readMembers_further (read : entry.IsRead) (ends : EndsNumeral tail)
    (comma : skipBlanks tail = ',' :: rest) :
    readMembers (readValue room) (most + 1) (entry.chars layout ++ tail) =
      (readMembers (readValue room) most (skipBlanks rest)).map fun found =>
        ((.text entry.name, entry.read) :: found.1, found.2) := by
  rw [entry.chars_append, readMembers, readName_nameChars, (read layout).skipBlanks]
  simp only [read layout room tail ends, comma]

end

/-- Entries between commas are read up to the closing brace.

Proof: induction on the entries after the first one. The first entry is read up to the comma
or to the blanks in front of the brace, which end a numeral. -/
theorem readMembers_entries {room most : Nat} {layout : Layout} {entry : Entry}
    {others : List Entry} (read : ∀ one ∈ entry :: others, one.IsRead)
    (enough : others.length < most) {blanks : List Char}
    (blank : ∀ c ∈ blanks, isBlank c = true) (rest : List Char) :
    readMembers (readValue room) most
        (Entry.joined layout (entry :: others) ++ (blanks ++ '\x7d' :: rest)) =
      .ok (Properties.named ((entry :: others).map fun one => (one.name, one.read)), rest) := by
  induction others generalizing entry most with
  | nil =>
    cases most with
    | zero => cases enough
    | succ most =>
      rw [Entry.joined_singleton, readMembers_last (read entry List.mem_cons_self)
        (endsNumeral_of_lead blank (.inr rfl) rest)]
      · rfl
      · rw [skipBlanks_append blank, skipBlanks_cons rfl]
  | cons next others inductionHypothesis =>
    cases most with
    | zero => cases enough
    | succ most =>
      have remaining := inductionHypothesis
        (fun one member => read one (List.mem_cons_of_mem entry member)) (Nat.lt_of_succ_lt_succ enough)
      have comma : isBlank ',' = false := rfl
      rw [Entry.joined_append, readMembers_further (read entry List.mem_cons_self)
        (EndsNumeral.cons (by decide) _) (skipBlanks_cons comma _),
        skipBlanks_append fun c => Layout.isBlank_of_mem_gap, skipBlanks_joined, remaining]
      rfl

/-- A dictionary with entries that are read is read at every depth but the last one. -/
theorem readValue_dict {entries : List Entry} (read : ∀ entry ∈ entries, entry.IsRead)
    (different : (entries.map Entry.name).Nodup) (layout : Layout) (room : Nat)
    (rest : List Char) :
    readValue (room + 1) (chars layout (.dict (Properties.named
        (entries.map fun entry => (entry.name, entry.written)))) ++ rest) =
      .ok (.dict (Properties.named (entries.map fun entry => (entry.name, entry.read))), rest) := by
  rw [chars, membersChars_map]
  cases entries with
  | nil => rfl
  | cons entry others =>
    obtain ⟨tail, opening⟩ := Entry.exists_joined_eq_cons layout.deeper entry others
      (layout.lead ++ '\x7d' :: rest)
    have characters : bracket layout '\x7b' '\x7d'
        ((entry :: others).map (Entry.chars layout.deeper)) ++ rest =
          '\x7b' :: (layout.deeper.lead ++ '"' :: tail) := by
      simp [bracket, ← opening, Entry.joined]
    have led : skipBlanks (layout.deeper.lead ++ '"' :: tail) = '"' :: tail := by
      rw [skipBlanks_append fun _ => Layout.isBlank_of_mem_lead]
      exact skipBlanks_cons rfl tail
    have enough : others.length < ('"' :: tail).length + 1 := by
      have least := Entry.length_le_length_joined layout.deeper (entry :: others)
      rw [← opening, List.length_append]
      simp only [List.length_cons] at least
      omega
    have members := @readMembers_entries room (('"' :: tail).length + 1) layout.deeper entry others
      read enough layout.lead (fun _ => Layout.isBlank_of_mem_lead) rest
    have names : ((entry :: others).map fun one => (one.name, one.read)).map Prod.fst =
        (entry :: others).map Entry.name := by
      simp
    rw [← names] at different
    rw [opening] at members
    rw [characters, readValue.eq_def]
    simp only [readDictionary, led]
    show ((readMembers (readValue room) (('"' :: tail).length + 1) ('"' :: tail)).map
      fun found => (Value.dict (Properties.ofEntries found.1), found.2)) = _
    rw [members]
    simp only [Except.map, Properties.ofEntries_named different]

/-- The document of a dictionary with entries that are read is read as the dictionary of what
they are read as. -/
theorem read_dict {entries : List Entry} (read : ∀ entry ∈ entries, entry.IsRead)
    (different : (entries.map Entry.name).Nodup) (layout : Layout) :
    Document.read (String.ofList (chars layout (.dict (Properties.named
        (entries.map fun entry => (entry.name, entry.written)))))) =
      .ok (.dict (Properties.named (entries.map fun entry => (entry.name, entry.read)))) := by
  have whole := readValue_dict read different layout 989 []
  rw [List.append_nil] at whole
  obtain ⟨tail, opening⟩ : ∃ tail, chars layout (.dict (Properties.named
      (entries.map fun entry => (entry.name, entry.written)))) = '\x7b' :: tail := by
    rw [chars, membersChars_map]
    cases entries <;> exact ⟨_, rfl⟩
  rw [Document.read, String.toList_ofList, readChars]
  rw [opening] at whole ⊢
  have noMark : ('\x7b' :: tail).head? ≠ some '\uFEFF' := by
    rw [List.head?_cons]
    decide
  rw [if_neg noMark, skipBlanks_cons rfl, maxDepth, whole]
  rfl

end Document

end ChunkCodecs
