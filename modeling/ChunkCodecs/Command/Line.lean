import ChunkCodecs.Command.Settings
import ChunkCodecs.Document.Reader

/-!
# Command lines

A command line is a command and its settings. A setting is given by its name, after
two hyphens, and the text that follows it, or in one with an equals sign between; the
files may also be given without names, in their order. Flags stand alone and are
cleared by the name with a negation. An option of the compressor is named after the
setting for options, with a point between, or all of them are given as a document.

A text that begins with a hyphen is a name unless it is a number; after two hyphens
alone all texts are files. A line is refused if it names what the command does not
have, if it gives a setting twice or in two ways, or a value that is not among those
allowed, or if a file is missing or left over.
-/

namespace ChunkCodecs

/-- A command. -/
inductive Command where
  /-- Compress a file. -/
  | compress (input : String) (output : Option String) (choice : CodecChoice)
      (reporting : Reporting)
  /-- Uncompress a file. -/
  | decompress (input : String) (output : Option String) (choice : CodecChoice)
      (reporting : Reporting)
  /-- Show the header of a blosc frame. -/
  | info (input : String) (reporting : Reporting)
  /-- List the codecs, as a table or as a document. -/
  | codecs (asDocument : Bool)

namespace CommandLine

/-- What can be set on a command line. -/
inductive Setting where
  /-- The file that is read. -/
  | input
  /-- The file that is written. -/
  | output
  /-- The name of the compressor. -/
  | compressor
  /-- The options of the compressor. -/
  | options
  /-- The least level that is recorded. -/
  | level
  /-- The file to which records are written. -/
  | logFile
  /-- Whether everything is recorded. -/
  | verbose
  /-- Whether a document is shown. -/
  | document
  deriving DecidableEq, Repr

namespace Setting

/-- The name of a setting, after the hyphens. -/
def name : Setting → String
  | input => "inp"
  | output => "out"
  | compressor => "compressor"
  | options => "compressor-opt"
  | level => "log-level"
  | logFile => "log-file"
  | verbose => "verbose"
  | document => "json"

/-- Whether a setting is a flag. -/
def isFlag : Setting → Bool
  | verbose | document => true
  | _ => false

/-- The settings of reporting. -/
def reporting : List Setting := [level, logFile, verbose]

/-- The settings of the commands that use a codec. -/
def transfer : List Setting := [input, output, compressor, options] ++ reporting

end Setting

/-- One thing that a command line gives. -/
inductive Given where
  /-- The text of a setting. -/
  | text (setting : Setting) (content : String)
  /-- The text of one option of the compressor. -/
  | entry (key content : String)
  /-- A flag, set or cleared. -/
  | flag (setting : Setting) (truth : Bool)
  /-- A text without a name. -/
  | free (content : String)
  deriving DecidableEq, Repr

/-- What a name stands for. -/
inductive Meaning where
  /-- A setting that takes a text. -/
  | setting (setting : Setting)
  /-- One option of the compressor. -/
  | entry (key : String)
  /-- A flag, set or cleared. -/
  | flag (setting : Setting) (truth : Bool)
  deriving DecidableEq, Repr

/-- The characters after a lead, if they begin with it. -/
def after? (lead : String) (characters : List Char) : Option (List Char) :=
  if lead.toList.isPrefixOf characters then some (characters.drop lead.length) else none

/-- What a name stands for as the name of a setting. -/
def meaningAs? (name : List Char) (setting : Setting) : Option Meaning :=
  let long := "--" ++ setting.name
  if setting.isFlag then
    if name = long.toList then some (.flag setting true)
    else if name = ("--no-" ++ setting.name).toList then some (.flag setting false)
    else if setting = .verbose && name = ['-', 'v'] then some (.flag setting true)
    else none
  else if name = long.toList then some (.setting setting)
  else if setting = .options then
    (after? (long ++ ".") name).map fun key => .entry (String.ofList key)
  else none

/-- What a name stands for among the settings of a command. -/
def meaning? (settings : List Setting) (name : List Char) : Option Meaning :=
  settings.findSome? (meaningAs? name)

/-- The name and, if there is an equals sign, the text after it. -/
def splitAtEquals (token : List Char) : List Char × Option (List Char) :=
  let name := token.takeWhile (· != '=')
  match token.drop name.length with
  | _ :: content => (name, some content)
  | [] => (name, none)

/-- Whether characters are a sign or a number, which may stand before the mark of an
imaginary number. -/
def isCoefficient (characters : List Char) : Bool :=
  characters = ['+'] || characters = ['-'] || (Numeral.readDouble? characters).isSome

/-- Whether characters are an imaginary number, alone or after a real one with a sign
between. -/
def isImaginary (characters : List Char) : Bool :=
  match characters.reverse with
  | mark :: backwards =>
    let body := backwards.reverse
    (mark = 'j' || mark = 'J') &&
      (isCoefficient body || (List.range body.length).any fun place =>
        let second := body.drop place
        (second.head? = some '+' || second.head? = some '-') && isCoefficient second &&
          (Numeral.readDouble? (body.take place)).isSome)
  | [] => false

/-- Whether a text is a number, real or complex. -/
def isNumber (token : String) : Bool :=
  let characters := Text.trimChars token.toList
  (Numeral.readDouble? characters).isSome || isImaginary characters

/-- Whether a text looks like a name: it begins with a hyphen and is no number. -/
def looksLikeName (token : String) : Bool :=
  token.toList.head? = some '-' && !isNumber token

/-- The truth value of a word. -/
def truth? (word : List Char) : Option Bool :=
  let lower := String.ofList (word.map Char.toLower)
  if ["yes", "y", "1", "true", "t"].contains lower then some true
  else if ["no", "n", "0", "false", "f"].contains lower then some false
  else none

/-- What a name with a text gives; a flag takes a truth value. -/
def giveText (meaning : Meaning) (content : List Char) : Option Given :=
  match meaning with
  | .setting setting => some (.text setting (String.ofList content))
  | .entry key => some (.entry key (String.ofList content))
  | .flag setting truth => (truth? content).map fun given => .flag setting (given == truth)

/-- What the texts of a command line give. -/
def scan (settings : List Setting) : List String → Option (List Given)
  | [] => some []
  | "--" :: files => some (files.map .free)
  | token :: rest =>
    if token.toList.head? != some '-' then (scan settings rest).map (.free token :: ·)
    else
      let (name, inline) := splitAtEquals token.toList
      match meaning? settings name, inline with
      | none, _ => if isNumber token then (scan settings rest).map (.free token :: ·) else none
      | some meaning, some content =>
        (giveText meaning content).bind fun given => (scan settings rest).map (given :: ·)
      | some (.flag setting truth), none => (scan settings rest).map (.flag setting truth :: ·)
      | some meaning, none =>
        match rest with
        | next :: further =>
          if looksLikeName next then none
          else
            (giveText meaning next.toList).bind fun given =>
              (scan settings further).map (given :: ·)
        | [] => none

/-- The texts of a setting. -/
def textsOf (given : List Given) (setting : Setting) : List String :=
  given.filterMap fun
    | .text present content => if present = setting then some content else none
    | _ => none

/-- The states of a flag. -/
def flagsOf (given : List Given) (setting : Setting) : List Bool :=
  given.filterMap fun
    | .flag present truth => if present = setting then some truth else none
    | _ => none

/-- The options of the compressor that are given one by one. -/
def entriesOf (given : List Given) : List (String × String) :=
  given.filterMap fun
    | .entry key content => some (key, content)
    | _ => none

/-- The texts without a name. -/
def freeOf (given : List Given) : List String :=
  given.filterMap fun
    | .free content => some content
    | _ => none

/-- What is given at most once; nothing if it is given more often. -/
def atMostOnce {α : Type} : List α → Option (Option α)
  | [] => some none
  | [single] => some (some single)
  | _ => none

/-- Give free texts to the settings that have no text yet, in their order. A free text
is refused after a setting that has one, and if no setting is left. -/
def fill : (passed : Bool) → List (Option String) → List String → Option (List (Option String))
  | _, texts, [] => some texts
  | _, [], _ :: _ => none
  | _, some text :: others, free => (fill true others free).map (some text :: ·)
  | passed, none :: others, text :: free =>
    if passed then none else (fill passed others free).map (some text :: ·)

/-- The texts of the given settings, by name or by order. -/
def filesOf (given : List Given) (settings : List Setting) : Option (List (Option String)) :=
  (settings.mapM fun setting => atMostOnce (textsOf given setting)).bind fun named =>
    fill false named (freeOf given)

/-- The value of an option: a number if its text is one, else the text. -/
def optionValue (content : String) : Value :=
  match Numeral.readDouble? (Text.trimChars content.toList) with
  | some number => .float number
  | none => .text content

/-- The options that a document gives. -/
def optionsOfDocument (text : String) : Option Properties :=
  if (Text.trimChars text.toList).head? != some '\x7b' then none
  else match Document.read text with
    | .ok (.dict entries) => some entries
    | _ => none

/-- The options of the compressor: one by one with different keys, or as one document,
but not both. -/
def optionsOf (given : List Given) : Option Properties :=
  let entries := entriesOf given
  match textsOf given .options with
  | [] =>
    if (entries.map Prod.fst).Nodup then
      some (Properties.ofEntries (entries.map fun entry => (.text entry.1, optionValue entry.2)))
    else none
  | [document] => if entries.isEmpty then optionsOfDocument document else none
  | _ => none

/-- A text that is among those allowed, or the standard one if none is given. -/
def choose (given : List Given) (setting : Setting) (allowed : List String) (standard : String) :
    Option String :=
  match atMostOnce (textsOf given setting) with
  | some none => some standard
  | some (some text) => if allowed.contains text then some text else none
  | none => none

/-- Which codec to use. -/
def choiceOf (given : List Given) : Option CodecChoice := do
  let compressor ← choose given .compressor (CodecId.all.map CodecId.name) CodecId.standard.name
  let options ← optionsOf given
  return ⟨.text compressor, .dict options⟩

/-- What to record, and where. -/
def reportingOf (given : List Given) : Option Reporting := do
  let level ← choose given .level (Level.all.map Level.name) Level.info.name
  let file ← atMostOnce (textsOf given .logFile)
  let verbose ← atMostOnce (flagsOf given .verbose)
  return Reporting.settle ⟨.text level, (file.map Value.text).getD .none,
    .bool (verbose.getD false)⟩

/-- The settings of a command that moves a chunk from file to file. -/
def readTransfer (make : String → Option String → CodecChoice → Reporting → Command)
    (tokens : List String) : Option Command := do
  let given ← scan Setting.transfer tokens
  let choice ← choiceOf given
  let reporting ← reportingOf given
  match ← filesOf given [.input, .output] with
  | [some input, output] => return make input output choice reporting
  | _ => none

/-- The settings of the command that shows a header. -/
def readInfo (tokens : List String) : Option Command := do
  let given ← scan (.input :: Setting.reporting) tokens
  let reporting ← reportingOf given
  match ← filesOf given [.input] with
  | [some input] => return .info input reporting
  | _ => none

/-- The settings of the command that lists the codecs. -/
def readCodecs (tokens : List String) : Option Command := do
  let given ← scan [.document] tokens
  let asDocument ← atMostOnce (flagsOf given .document)
  let _ ← filesOf given []
  return .codecs (asDocument.getD false)

end CommandLine

/-- The command that a command line asks for. -/
def Command.ofTokens? : List String → Option Command
  | "compress" :: tokens => CommandLine.readTransfer .compress tokens
  | "decompress" :: tokens => CommandLine.readTransfer .decompress tokens
  | "info" :: tokens => CommandLine.readInfo tokens
  | "codecs" :: tokens => CommandLine.readCodecs tokens
  | _ => none

end ChunkCodecs
