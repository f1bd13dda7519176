import ChunkCodecs.Literal.Expression
import ChunkCodecs.Literal.Numeral
import ChunkCodecs.Literal.Text
import ChunkCodecs.Text.LineEnd

/-!
# Reading literals

The text of a literal is one expression on one line; only inside brackets and in
texts with three quotes may it run over several lines. Comments and lines without
content may precede and follow it. Brackets may be nested 200 deep.

Only what literals are made of is read here: constants, brackets, signs, sums, names of
ASCII letters and calls without arguments. An expression with any other part is refused
like a text that spells none, and so is one that names a character beyond the table of
names. A reading is therefore right where it succeeds, but a refusal is the right one
only for a text that spells no expression, or one whose evaluation comes to something
that is no literal before it fails in another way.
-/

namespace ChunkCodecs.Literal

/-- What a reader of some kind of thing makes of characters: the thing at their front
and what follows it, if there is such a thing. -/
abbrev Outcome (α : Type) := Option (α × List Char)

/-- Whether a character separates words on a line. -/
def isSpace (c : Char) : Bool := c = ' ' || c = '\t' || c = '\x0c'

/-- The characters without the spaces and joined lines that lead them. -/
def skipOnLine : List Char → List Char
  | [] => []
  | '\\' :: '\n' :: rest => skipOnLine rest
  | c :: rest => if isSpace c then skipOnLine rest else c :: rest

/-- The characters without the spaces, lines and comments that lead them. Inside a
comment everything up to the end of the line is left out. -/
def skipInside : (comment : Bool) → List Char → List Char
  | _, [] => []
  | true, c :: rest => skipInside (c != '\n') rest
  | false, '\\' :: '\n' :: rest => skipInside false rest
  | false, c :: rest =>
    if c = '#' then skipInside true rest
    else if isSpace c || c = '\n' then skipInside false rest
    else c :: rest

/-- What may be left out between the words of an expression. -/
inductive Surroundings where
  /-- The expression stands on a line of its own. -/
  | line
  /-- The expression stands inside brackets. -/
  | brackets
  deriving DecidableEq, Repr

/-- The characters from the next word on. -/
def Surroundings.skip : Surroundings → List Char → List Char
  | line => skipOnLine
  | brackets => skipInside false

/-- The words that are part of the grammar and therefore no names. -/
def reservedWords : List String :=
  ["and", "as", "assert", "async", "await", "break", "class", "continue", "def", "del", "elif",
    "else", "except", "finally", "for", "from", "global", "if", "import", "in", "is", "lambda",
    "nonlocal", "not", "or", "pass", "raise", "return", "try", "while", "with", "yield"]

/-- What a word spells. -/
def ofWord (word : List Char) : Option Expression :=
  match String.ofList word with
  | "None" => some (.constant .none)
  | "True" => some (.constant (.bool true))
  | "False" => some (.constant (.bool false))
  | other => if reservedWords.contains other then none else some (.name word)

/-- Read a word of ASCII characters. -/
def readWord (characters : List Char) : Outcome Expression :=
  let word := characters.takeWhile isWordChar
  if word.isEmpty || word.any fun c => 0x80 ≤ c.toNat then none
  else (ofWord word).map fun spelled => (spelled, characters.drop word.length)

/-- Continue a text with those that follow it, at most as many as given. -/
def readFurtherTexts (place : Surroundings) : (most : Nat) → Value → List Char → Outcome Value
  | 0, _, _ => none
  | most + 1, content, characters =>
    let next := place.skip characters
    if isQuotedNext next then
      match readQuoted? next with
      | some (more, rest) =>
        match join? content more with
        | some joined => readFurtherTexts place most joined rest
        | none => none
      | none => none
    else some (content, characters)

/-- Read texts that follow one another and are one text. -/
def readTexts (place : Surroundings) (characters : List Char) : Outcome Expression :=
  match readQuoted? characters with
  | none => none
  | some (content, rest) =>
    (readFurtherTexts place (rest.length + 1) content rest).map fun (joined, remaining) =>
      (.constant joined, remaining)

/-- Read a constant or a name. -/
def readConstant (place : Surroundings) (characters : List Char) : Outcome Expression :=
  if isQuotedNext characters then readTexts place characters
  else match characters with
    | '.' :: '.' :: '.' :: rest => some (.constant .ellipsis, rest)
    | c :: _ =>
      if c.isDigit || c = '.' then
        (readNumeral? characters).map fun (value, rest) => (.constant value, rest)
      else readWord characters
    | [] => none

/-- Read items between commas up to the closing bracket, at most as many as given,
and whether a comma follows the last one. -/
def readItems {α : Type} (readItem : List Char → Outcome α) (closing : Char) :
    (most : Nat) → List Char → Option (List α × Bool × List Char)
  | 0, _ => none
  | most + 1, characters =>
    match skipInside false characters with
    | [] => none
    | c :: rest =>
      if c = closing then some ([], true, rest)
      else
        match readItem (c :: rest) with
        | none => none
        | some (item, afterItem) =>
          match skipInside false afterItem with
          | ',' :: further =>
            (readItems readItem closing most further).map fun (items, trailing, remaining) =>
              (item :: items, trailing, remaining)
          | d :: remaining => if d = closing then some ([item], false, remaining) else none
          | [] => none

/-- Read an expression, and another one if a colon stands between them. -/
def readEntry (readItem : List Char → Outcome Expression) (characters : List Char) :
    Outcome (Expression × Option Expression) :=
  match readItem characters with
  | none => none
  | some (key, afterKey) =>
    match skipInside false afterKey with
    | ':' :: rest => (readItem (skipInside false rest)).map fun (value, remaining) =>
        ((key, some value), remaining)
    | _ => some ((key, none), afterKey)

/-- What entries in braces spell: a dictionary if each has a value, a set if none has. -/
def ofEntries (entries : List (Expression × Option Expression)) : Option Expression :=
  if entries.all fun entry => entry.2.isSome then
    some (.dict (entries.filterMap fun entry => entry.2.map fun value => (entry.1, value)))
  else if entries.all fun entry => entry.2.isNone then some (.set (entries.map Prod.fst))
  else none

/-- What items in parentheses spell: a single item without a comma is itself. -/
def ofParenthesized : List Expression → (trailing : Bool) → Expression
  | [item], false => item
  | items, _ => .tuple items

/-- Read what brackets hold, after the opening one. -/
def readBracketed (readItem : List Char → Outcome Expression) (opening : Char)
    (inside : List Char) : Outcome Expression :=
  let most := inside.length + 1
  if opening = '(' then
    (readItems readItem ')' most inside).map fun (items, trailing, rest) =>
      (ofParenthesized items trailing, rest)
  else if opening = '[' then
    (readItems readItem ']' most inside).map fun (items, _, rest) => (.list items, rest)
  else
    match readItems (readEntry readItem) '\x7d' most inside with
    | some (entries, _, rest) => (ofEntries entries).map fun spelled => (spelled, rest)
    | none => none

/-- A call without arguments, if parentheses that hold nothing follow. -/
def readCall (place : Surroundings) (callee : Expression) (rest : List Char) :
    Outcome Expression :=
  match place.skip rest with
  | '(' :: inside =>
    match skipInside false inside with
    | ')' :: remaining => some (.call callee, remaining)
    | _ => none
  | _ => some (callee, rest)

/-- Read an operand after any number of signs, at most as many as given. -/
def readSigned (place : Surroundings) (readAtom : List Char → Outcome Expression) :
    (most : Nat) → List Char → Outcome Expression
  | 0, _ => none
  | most + 1, characters =>
    let sign (negative : Bool) (rest : List Char) : Outcome Expression :=
      (readSigned place readAtom most (place.skip rest)).map fun (operand, remaining) =>
        (.signed negative operand, remaining)
    match characters with
    | '+' :: rest => sign false rest
    | '-' :: rest => sign true rest
    | other => readAtom other

/-- Continue a sum with further operands, at most as many as given. -/
def readFurtherOperands (place : Surroundings) (readOperand : List Char → Outcome Expression) :
    (most : Nat) → Expression → List Char → Outcome Expression
  | 0, _, _ => none
  | most + 1, left, characters =>
    let add (negative : Bool) (rest : List Char) : Outcome Expression :=
      match readOperand (place.skip rest) with
      | some (right, remaining) =>
        readFurtherOperands place readOperand most (.sum negative left right) remaining
      | none => none
    match place.skip characters with
    | '+' :: rest => add false rest
    | '-' :: rest => add true rest
    | _ => some (left, characters)

/-- Read a sum of operands with signs. -/
def readSum (place : Surroundings) (readAtom : List Char → Outcome Expression)
    (characters : List Char) : Outcome Expression :=
  let most := characters.length + 1
  let readOperand := readSigned place readAtom most
  match readOperand characters with
  | some (first, rest) => readFurtherOperands place readOperand most first rest
  | none => none

/-- Read a constant, a name or brackets, inside which brackets may be nested so deep. -/
def readAtom : (room : Nat) → (place : Surroundings) → List Char → Outcome Expression
  | 0, place, characters => readConstant place characters
  | room + 1, place, characters =>
    let found := match characters with
      | c :: inside =>
        if c = '(' || c = '[' || c = '\x7b' then
          readBracketed (readSum .brackets (readAtom room .brackets)) c inside
        else readConstant place characters
      | [] => none
    match found with
    | some (spelled, rest) => readCall place spelled rest
    | none => none

/-- How deep brackets may be nested. -/
def maxDepth : Nat := 200

/-- Read an expression on a line. -/
def readOnLine : List Char → Outcome Expression := readSum .line (readAtom maxDepth .line)

/-- Read expressions between commas, at most as many as given, and whether there is a
comma at all. -/
def readRow : (most : Nat) → List Char → Option (List Expression × Bool × List Char)
  | 0, _ => none
  | most + 1, characters =>
    match readOnLine characters with
    | none => none
    | some (item, afterItem) =>
      match skipOnLine afterItem with
      | ',' :: rest =>
        match skipOnLine rest with
        | [] => some ([item], true, [])
        | c :: further =>
          if c = '\n' || c = '#' then some ([item], true, c :: further)
          else (readRow most (c :: further)).map fun (items, _, remaining) =>
            (item :: items, true, remaining)
      | remaining => some ([item], false, remaining)

/-- The characters from the first line with content on. Inside a comment everything up
to the end of the line is left out; `indented` says whether spaces came on the line.
The first line with content must not be indented. -/
def skipEmptyLines : (comment indented : Bool) → List Char → Option (List Char)
  | _, _, [] => none
  | true, _, c :: rest => skipEmptyLines (c != '\n') false rest
  | false, indented, '\\' :: '\n' :: rest => skipEmptyLines false indented rest
  | false, indented, c :: rest =>
    if c = '\n' then skipEmptyLines false false rest
    else if c = '#' then skipEmptyLines true false rest
    else if c = '\x0c' then skipEmptyLines false false rest
    else if isSpace c then skipEmptyLines false true rest
    else if indented then none
    else some (c :: rest)

/-- Whether nothing follows but empty lines and comments. -/
def isEnd (characters : List Char) : Bool :=
  match skipOnLine characters with
  | [] => true
  | c :: rest => (c = '\n' || c = '#') && (skipInside false (c :: rest)).isEmpty

/-- The expression that a text spells. -/
def readExpression? (characters : List Char) : Option Expression :=
  if characters.contains '\x00' then none
  else
    let unified := Text.unifyLineEnds characters
    match skipEmptyLines false false (unified.dropWhile fun c => c = ' ' || c = '\t') with
    | none => none
    | some line =>
      match readRow (line.length + 1) (skipOnLine line) with
      | some (items, trailing, rest) =>
        if isEnd rest then some (ofParenthesized items trailing) else none
      | none => none

/-- The parser of expressions of these kinds. It refuses a text that spells an expression
with a part of any other kind, and it never runs out of anything, however long a chain
of signs or sums is. -/
def parse : Parser := fun characters =>
  match readExpression? characters with
  | some expression => .spells expression
  | none => .refused

/-- The value of the literal that a text is. -/
def read (text : String) : Except Refusal Value := readBy parse text

end ChunkCodecs.Literal
