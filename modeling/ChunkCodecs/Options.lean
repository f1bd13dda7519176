import ChunkCodecs.Codec.Create
import ChunkCodecs.Document.Reader
import ChunkCodecs.Literal.Reader

/-!
# Options as text

The options of a codec may be given as one text: that of a document or, failing that,
that of a literal; either has to be that of a dictionary. The text is trimmed first,
and nothing at all stands for no options.

What goes wrong is the fault of the text, with five exceptions that are reported as
they are: a numeral in a document with too many digits, a document that is nested too
deeply, and, in a literal, an unhashable key or member, a whole number that cannot be
rounded to a double, or a chain of operations that exhausts the parser.

Reading takes a parser of expressions: which texts spell an expression is the matter of
a whole language, and what exhausts its parser depends on the circumstances in which
options are read.
-/

namespace ChunkCodecs.Options

section

variable (parse : Literal.Parser)

/-- The value of the literal that a text is, which is no document. -/
def readLiteral (text : String) : Except Fault Value :=
  match Literal.readBy parse text with
  | .ok value => .ok value
  | .error .notLiteral => .error (.configuration (.unreadableOptions text))
  | .error (.fault cause) => .error (.foreign cause)

/-- The value of a trimmed text: of the document that it is, or else of the literal. -/
def readValue (text : String) : Except Fault Value :=
  match Document.read text with
  | .ok value => .ok value
  | .error (.defective _ _) => readLiteral parse text
  | .error failure => .error (failure.toFault text)

/-- The dictionary that a value is. -/
def requireDictionary (text : String) : Value → Except Fault Properties
  | .dict entries => .ok entries
  | _ => .error (.configuration (.optionsNotDictionary text))

/-- The options that a text gives to a parser of expressions. -/
def readBy (text : String) : Except Fault Properties :=
  let trimmed := Text.trim text
  if trimmed = "" then .ok []
  else (readValue parse trimmed).bind (requireDictionary trimmed)

end

/-- The options that a text gives. -/
def read (text : String) : Except Fault Properties := readBy Literal.parse text

end ChunkCodecs.Options
