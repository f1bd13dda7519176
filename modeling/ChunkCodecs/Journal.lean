/-!
# The journal

What happens is recorded under the part of the program that reports it and with
a level. The records of an operation are part of its result, in the order in
which they were made; which of them are kept, and where, is decided by whoever
asked for the operation.
-/

namespace ChunkCodecs

/-- How weighty a record is. -/
inductive Level where
  /-- For tracing. -/
  | debug
  /-- For following the course of a command. -/
  | info
  /-- For what deserves attention. -/
  | warning
  /-- For failures. -/
  | error
  /-- For failures that end the program. -/
  | critical
  deriving DecidableEq, Repr, Inhabited

namespace Level

/-- All levels, the least weighty first. -/
def all : List Level := [debug, info, warning, error, critical]

/-- The place of a level among all levels. -/
def rank : Level → Nat
  | debug => 0
  | info => 1
  | warning => 2
  | error => 3
  | critical => 4

/-- The name by which a level is asked for. -/
def name : Level → String
  | debug => "debug"
  | info => "info"
  | warning => "warning"
  | error => "error"
  | critical => "critical"

/-- The name of a level in a journal. -/
def label : Level → String
  | debug => "DEBUG"
  | info => "INFO"
  | warning => "WARNING"
  | error => "ERROR"
  | critical => "CRITICAL"

end Level

/-- The part of the program that reports. -/
inductive Reporter where
  /-- The reading of parameters. -/
  | parameters
  /-- The building of codecs. -/
  | factory
  /-- The deflate codec. -/
  | zlib
  /-- The binding to the blosc library. -/
  | bloscLibrary
  /-- The command line. -/
  | commandLine
  deriving DecidableEq, Repr

/-- The name of a reporter in a journal. -/
def Reporter.name : Reporter → String
  | parameters => "linc_codecs.utils.params"
  | factory => "linc_codecs.codecs.factory"
  | zlib => "linc_codecs.codecs.zlib"
  | bloscLibrary => "linc_codecs.utils.blosc_native"
  | commandLine => "linc_codecs.cli"

/-- One entry of a journal. -/
structure Record where
  /-- How weighty the entry is. -/
  level : Level
  /-- Who reports it. -/
  reporter : Reporter
  /-- What is reported. -/
  text : String
  deriving DecidableEq, Repr

/-- A list of records, the first one made first. -/
abbrev Journal := List Record

namespace Journal

/-- The records of at least the given level. -/
def atLeast (journal : Journal) (least : Level) : Journal :=
  journal.filter fun record => least.rank ≤ record.level.rank

/-- The records that deserve attention. -/
def warnings (journal : Journal) : Journal := journal.atLeast .warning

end Journal

end ChunkCodecs
