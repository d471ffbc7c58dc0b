import Docwright.Record

/-!
# Events

What a build announces: that the record of a file was found in the cache, that a file was examined,
and messages for the log.
-/

namespace Docwright

/-- An announcement. -/
inductive Event
  | cached (record : FileRecord)
  | analyzed (record : FileRecord)
  | log (severity : Severity) (message : Message)

namespace Event

/-- The name under which records from the cache are announced. -/
def cachedName : String := "file.is_cached"

/-- The name under which examined files are announced. -/
def analyzedName : String := "file.analyzed"

/-- The name under which messages are announced. -/
def logName : String := "system.log"

/-- The name of an event. -/
def name : Event → String
  | cached _ => cachedName
  | analyzed _ => analyzedName
  | log .. => logName

/-- The record an event is about. -/
def record? : Event → Option FileRecord
  | cached r | analyzed r => some r
  | log .. => none

/-- What a failure calls the kind of an event. -/
def kindName : Event → String
  | cached _ => "FileCachedEvent"
  | analyzed _ => "FileAnalyzedEvent"
  | log .. => "LogEvent"

/-- The announcement of a problem. -/
def ofProblem (p : Problem) : Event :=
  log p.severity p.message

end Event

end Docwright
