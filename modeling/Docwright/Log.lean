/-!
# Diagnostic log

Beside what a build shows on its console it keeps a diagnostic log.  An entry has a level and the
channel of the part that wrote it; a channel is written from its own level on.
-/

namespace Docwright.Log

/-- How important an entry is. -/
inductive Level
  | debug
  | info
  | warning
  deriving DecidableEq, Repr

/-- The rank of a level, on the scale on which a threshold may be any number. -/
def Level.rank : Level → Nat
  | debug => 10
  | info => 20
  | warning => 30

/-- The name of a level. -/
def Level.name : Level → String
  | debug => "DEBUG"
  | info => "INFO"
  | warning => "WARNING"

/-- The part that wrote an entry. -/
inductive Channel
  | check
  | cache
  | discovery
  | exchange
  | console
  | build
  | commandLine
  deriving DecidableEq, Repr

/-- The name of a channel. -/
def Channel.name : Channel → String
  | check => "docpipe.analyzers.python"
  | cache => "docpipe.database.sqlite"
  | discovery => "docpipe.discovery"
  | exchange => "docpipe.events"
  | console => "docpipe.logging_subscriber"
  | build => "docpipe.pipeline"
  | commandLine => "cli.docpipe_cli"

/-- An entry of the log. -/
structure Entry where
  level : Level
  channel : Channel
  text : String
  deriving DecidableEq, Repr

/-- Whether an entry is written.  The command line's own channel follows the threshold of the whole
log, all others are open to every entry in a detailed log. -/
def Entry.isWritten (threshold : Nat) (detailed : Bool) (e : Entry) : Bool :=
  threshold ≤ e.level.rank || (detailed && e.channel != .commandLine)

end Docwright.Log
