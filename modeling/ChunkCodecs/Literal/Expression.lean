import ChunkCodecs.Properties

/-!
# Expressions of literals

An option text that is no document may be a literal as it is printed for a value: a
constant, or a tuple, a list, a set or a dictionary of literals. Numbers may have a
sign, and a real number and an imaginary one may be added or subtracted. The empty
set has no braces of its own and is written as a call.

A text may also spell an expression that is no literal, alone or as a part: of these
no more is kept than where they stand. So every expression of the language is one of
the expressions here.

The expression that a text spells is evaluated from left to right. Evaluation meets
three kinds of obstacles: an expression that is no literal, a list, a set or a
dictionary where a key or a member has to be, which none of them can be, and a sum
with a whole number that no double is near to.

Which expression a text spells is for a parser to say. A parser refuses a text that
spells none. It may also run out of something on a long chain of operations; how long
a chain it bears depends on the circumstances in which it is called.
-/

namespace ChunkCodecs.Literal

/-- What the text of a literal spells. -/
inductive Expression where
  /-- A constant. -/
  | constant (value : Value)
  /-- A name, which is no constant. -/
  | name (word : List Char)
  /-- Items in parentheses. -/
  | tuple (items : List Expression)
  /-- Items in brackets. -/
  | list (items : List Expression)
  /-- Items in braces. -/
  | set (items : List Expression)
  /-- Keys and values in braces. -/
  | dict (entries : List (Expression × Expression))
  /-- An operand with a sign. -/
  | signed (negative : Bool) (operand : Expression)
  /-- A sum or a difference. -/
  | sum (negative : Bool) (left right : Expression)
  /-- A call without arguments. -/
  | call (callee : Expression)
  /-- Anything else, which is no part of a literal: another operation, a comparison, a call
  with arguments, an item that is spread over others, and so on. -/
  | nonliteral
  deriving Inhabited

/-- What a parser makes of the characters of a text. -/
inductive Parsing where
  /-- They spell an expression. -/
  | spells (expression : Expression)
  /-- They spell none. -/
  | refused
  /-- The parser runs out of something before it can tell. -/
  | exhausted (shortage : Shortage)

/-- A parser of expressions. -/
abbrev Parser := List Char → Parsing

/-- Why an expression has no value. -/
inductive Refusal where
  /-- It is no literal. -/
  | notLiteral
  /-- Its evaluation fails. -/
  | fault (cause : ForeignFault)

/-- The value of a constant number: truth values are none. -/
def number? : Expression → Option Value
  | .constant (.int number) => some (.int number)
  | .constant (.float number) => some (.float number)
  | .constant (.complex real imaginary) => some (.complex real imaginary)
  | _ => none

/-- A number with the opposite sign. -/
def negate : Value → Value
  | .int number => .int (-number)
  | .float number => .float number.negate
  | .complex real imaginary => .complex real.negate imaginary.negate
  | other => other

/-- The value of a constant number with at most one sign. -/
def signedNumber? : Expression → Option Value
  | .signed negative operand =>
    (number? operand).map fun value => if negative then negate value else value
  | other => number? other

/-- The double of a real number. A whole number beyond all doubles is refused. -/
def toDouble : Value → Except Refusal Double
  | .int number =>
    let nearest := Double.ofInt number
    if nearest.isFinite then .ok nearest else .error (.fault .integerTooLarge)
  | .float number => .ok number
  | _ => .error .notLiteral

/-- A real number plus or minus an imaginary one. -/
def addImaginary (negative : Bool) (left : Value) (real imaginary : Double) :
    Except Refusal Value :=
  (toDouble left).map fun whole =>
    if negative then
      .complex (whole.addZero real.negate) ((Double.zero false).addZero imaginary.negate)
    else .complex (whole.addZero real) ((Double.zero false).addZero imaginary)

/-- The value of a sum or a difference: of a real number, signed or not, and an
imaginary one. -/
def evaluateSum (negative : Bool) (left right : Expression) : Except Refusal Value :=
  match signedNumber? left, number? right with
  | some whole, some (.complex real imaginary) => addImaginary negative whole real imaginary
  | _, _ => .error .notLiteral

/-- The word by which the empty set is called. -/
def setWord : List Char := "set".toList

/-- A value that may be a key or a member. -/
def requireHashable (value : Value) : Except Refusal Value :=
  match value.unhashable? with
  | some found => .error (.fault (.unhashable found.typeName))
  | none => .ok value

/-- A set with a further member, unless it has an equal one. -/
def addMember (members : List Value) (member : Value) : List Value :=
  if members.any fun present => present.sameKey member then members else members ++ [member]

mutual

/-- The value of an expression. -/
def evaluate : Expression → Except Refusal Value
  | .constant value => .ok value
  | .name _ => .error .notLiteral
  | .tuple items => (evaluateItems items).map .tuple
  | .list items => (evaluateItems items).map .list
  | .set items => (evaluateMembers [] items).map .set
  | .dict entries => (evaluateEntries [] entries).map .dict
  | .signed negative operand =>
    match signedNumber? (.signed negative operand) with
    | some value => .ok value
    | none => .error .notLiteral
  | .sum negative left right => evaluateSum negative left right
  | .call (.name word) => if word = setWord then .ok (.set []) else .error .notLiteral
  | .call _ => .error .notLiteral
  | .nonliteral => .error .notLiteral

/-- The values of several expressions. -/
def evaluateItems : List Expression → Except Refusal (List Value)
  | [] => .ok []
  | item :: rest =>
    match evaluate item with
    | .error refusal => .error refusal
    | .ok value => (evaluateItems rest).map (value :: ·)

/-- The values of several expressions added to a set one after another. -/
def evaluateMembers (members : List Value) : List Expression → Except Refusal (List Value)
  | [] => .ok members
  | item :: rest =>
    match (evaluate item).bind requireHashable with
    | .error refusal => .error refusal
    | .ok value => evaluateMembers (addMember members value) rest

/-- The values of keys and values bound in a dictionary one after another. -/
def evaluateEntries (bound : Properties) :
    List (Expression × Expression) → Except Refusal Properties
  | [] => .ok bound
  | (key, value) :: rest =>
    match evaluate key, evaluate value with
    | .error refusal, _ => .error refusal
    | .ok _, .error refusal => .error refusal
    | .ok keyValue, .ok content =>
      match requireHashable keyValue with
      | .error refusal => .error refusal
      | .ok hashed => evaluateEntries (bound.insert hashed content) rest

end

/-- The value of the literal that a text is to a parser. -/
def readBy (parse : Parser) (text : String) : Except Refusal Value :=
  match parse text.toList with
  | .spells expression => evaluate expression
  | .refused => .error .notLiteral
  | .exhausted shortage => .error (.fault (.exhausted shortage))

end ChunkCodecs.Literal
