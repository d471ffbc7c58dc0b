import Docwright.Cache.Fault
import Docwright.Disk
import Docwright.Json.Reader
import Docwright.Record
import Docwright.Time.Reader

/-!
# What ends an operation

`Failure` lists what can end a lookup, a publication or a build.  Only a rejected file can be passed
over; every other failure ends the build.
-/

namespace Docwright

/-- A file that could not be examined, and why. -/
structure Rejection where
  path : String
  detail : String
  deriving DecidableEq, Repr

/-- The text of a rejection. -/
def Rejection.message (r : Rejection) : String :=
  r.path ++ ": " ++ r.detail

/-- What a value is that has no elements. -/
inductive Atom
  | int
  | float
  | bool
  | null
  deriving DecidableEq, Repr

/-- The word for the kind of an atom. -/
def Atom.word : Atom → String
  | int => "int"
  | float => "float"
  | bool => "bool"
  | null => "NoneType"

/-- Why a stored row is no record. -/
inductive RowFault
  | timestamp (fault : Timestamp.Fault)
  | severity (number : Int)
  | json (error : Json.Error)
  | atom (kind : Atom)
  | problem (fault : Problem.Fault)
  deriving DecidableEq, Repr

/-- The words for a fault of a row. -/
def RowFault.message : RowFault → String
  | timestamp fault => fault.message
  | severity number => s!"{number} is not a valid Severity"
  | json error => error.message
  | atom kind => s!"'{kind.word}' object is not iterable"
  | problem fault => fault.message

/-- What ends an operation. -/
inductive Failure
  | rejected (rejection : Rejection)
  | cache (fault : Cache.Fault)
  | row (fault : RowFault)
  | integerRange
  | unprintable
  | message (failure : Message.Failure)
  | blankName
  | listener (text : String)
  | misdirected (kind lacking : String)
  | markup (tag : String) (position : Nat)
  | tooDeep
  | nullByte
  | disk (fault : Disk.Fault) (path : Path)
  deriving DecidableEq, Repr

/-- The words for a failure. -/
def Failure.text : Failure → String
  | rejected rejection => rejection.message
  | cache fault => fault.reason.message
  | row fault => fault.message
  | integerRange => "Python int too large to convert to SQLite INTEGER"
  | unprintable => Message.unprintableMessage
  | message failure => failure.message
  | blankName => "event_name must be a non-empty string."
  | listener text => text
  | misdirected kind lacking => s!"'{kind}' object has no attribute '{lacking}'"
  | markup tag position => s!"closing tag '{tag}' at position {position} doesn't match any open tag"
  | tooDeep => "maximum recursion depth exceeded"
  | nullByte => "embedded null byte"
  | disk fault path => fault.describe path

end Docwright
