import Docwright.Datum
import Docwright.Message
import Docwright.Severity
import Docwright.Time.Timestamp

/-!
# Problems and the records of files

A `Problem` is one thing that was found wrong in a file; a `FileRecord` is what is kept of a file
that was examined.  The values in a problem's words are scalars, so that a record that was stored
and read back is shown like a fresh one: `Problem.ofData` refuses any other value and names it.
A member of an enumeration that counts as a scalar is let in, though it is stored as that scalar.

Records are compared by value (`FileRecord.same`): numbers as numbers, timestamps as points in time.
-/

namespace Docwright

/-- One thing that was found wrong in a file, in words and with the line it was found at if there is
one.  The words are a template with values for it. -/
structure Problem where
  severity : Severity
  template : String
  context : List ContextValue
  line : Option Int
  deriving DecidableEq, Repr

namespace Problem

/-- The scalars that the values of a problem count as. -/
def values (p : Problem) : List Scalar :=
  p.context.map ContextValue.base

/-- Why values make no message: some are no scalars, or those that are none cannot be shown. -/
inductive Fault
  | notScalars (template : String) (shown : List Char)
  | unprintable
  deriving DecidableEq, Repr

/-- The words for a fault. -/
def Fault.message : Fault → String
  | notScalars template shown =>
    "Error context values must be JSON scalars (code=" ++
      String.ofList (Text.quoted template.toList) ++ " invalid=" ++ String.ofList shown ++ ")"
  | unprintable => Message.unprintableMessage

/-- The fault for values that are no scalars. -/
def Fault.ofData (template : String) (invalid : List Datum) : Fault :=
  match (Datum.list invalid).literal? with
  | some shown => notScalars template shown
  | none => unprintable

/-- A problem with the given values, all of which have to count as scalars. -/
def ofData (severity : Severity) (template : String) (data : List Datum) (line : Option Int) :
    Except Fault Problem :=
  match data.filter (·.inContext?.isNone) with
  | [] => .ok ⟨severity, template, data.filterMap Datum.inContext?, line⟩
  | invalid => .error (Fault.ofData template invalid)

/-- The message of a problem. -/
def message (p : Problem) : Message :=
  ⟨p.template, p.context.map .ofContext⟩

/-- The text of a problem. -/
def render (p : Problem) : Except Message.Failure String :=
  p.message.render

/-- Whether two lists of scalars are equal, value by value. -/
def sameValues : List Scalar → List Scalar → Bool
  | [], [] => true
  | a :: as, b :: bs => a.valueEq b && sameValues as bs
  | _, _ => false

/-- Equality by value. -/
def same (a b : Problem) : Bool :=
  a.severity == b.severity && a.template == b.template && sameValues a.values b.values &&
    a.line == b.line

end Problem

/-- What is kept of a file that was examined: the fingerprint of its content, the time of the
examination, and the problems in the order they were found in. -/
structure FileRecord where
  path : String
  fingerprint : String
  analyzed : Timestamp
  problems : List Problem
  deriving DecidableEq, Repr

namespace FileRecord

/-- The gravest severity among problems. -/
def gravest? : List Problem → Option Severity
  | [] => none
  | p :: rest => some (rest.foldl (fun worst q => worst.max q.severity) p.severity)

/-- The gravest severity of a record, if it has a problem. -/
def maxSeverity? (r : FileRecord) : Option Severity :=
  gravest? r.problems

/-- Whether two lists of problems are equal, problem by problem. -/
def sameProblems : List Problem → List Problem → Bool
  | [], [] => true
  | a :: as, b :: bs => a.same b && sameProblems as bs
  | _, _ => false

/-- Equality by value. -/
def same (a b : FileRecord) : Bool :=
  a.path == b.path && a.fingerprint == b.fingerprint && a.analyzed.sameInstant b.analyzed &&
    sameProblems a.problems b.problems

/-- Equality between all pairs of records.  A record equals itself, even where a number in it does
not equal itself. -/
def equalities (records : List FileRecord) : List (List Bool) :=
  let numbered := records.zipIdx
  numbered.map fun (a, i) => numbered.map fun (b, j) => i == j || a.same b

end FileRecord

end Docwright
