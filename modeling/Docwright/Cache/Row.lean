import Docwright.Cache.Tables
import Docwright.Failure

/-!
# From rows back to a record

`recordOf` reads what is kept of a file.  The time of the examination is read first, then the rows
one by one: of each row the severity, the values, and at last whether the values make a problem.
-/

namespace Docwright.Cache

/-- The elements of a scalar: the characters of a text. -/
def elementsOf : Scalar → Except Atom (List Datum)
  | .text s => .ok (s.toList.map fun c => Datum.text c.toString)
  | .int _ => .error .int
  | .float _ => .error .float
  | .bool _ => .error .bool
  | .null => .error .null

/-- The elements of a value: those of a list, the characters of a text, the names in an object. -/
def elements : Datum → Except Atom (List Datum)
  | .list items | .tuple items => .ok items
  | .dict entries => .ok (entries.map Prod.fst)
  | .bytes data => .ok (data.map fun b => .int b.toNat)
  | .scalar s => elementsOf s
  | .member m => elementsOf m.base

/-- The values of a row. -/
def valuesOf (text : String) : Except RowFault (List Datum) :=
  match Json.parse text.toList with
  | .error e => .error (.json e)
  | .ok d =>
    match elements d with
    | .ok items => .ok items
    | .error kind => .error (.atom kind)

/-- The severity of a row. -/
def severityOf (number : Int) : Except RowFault Severity :=
  match Severity.ofInt? number with
  | some s => .ok s
  | none => .error (.severity number)

/-- The problem of a row. -/
def problemOf (row : ProblemRow) : Except RowFault Problem := do
  let severity ← severityOf row.severity
  let values ← valuesOf row.values
  match Problem.ofData severity row.template values row.line with
  | .ok p => .ok p
  | .error fault => .error (.problem fault)

/-- The time of a row. -/
def timeOf (text : String) : Except RowFault Timestamp :=
  match Timestamp.parse text with
  | .ok t => .ok t
  | .error fault => .error (.timestamp fault)

/-- The record that is kept under a path. -/
def recordOf (path : String) (row : FileRow) (problems : List ProblemRow) :
    Except RowFault FileRecord := do
  let analyzed ← timeOf row.analyzed
  let problems ← problems.mapM problemOf
  .ok ⟨path, row.fingerprint, analyzed, problems⟩

/-- How many statements it takes to look a path up: the problems are asked for only if there is a row
of the file. -/
def Tables.selections (t : Tables) (path : String) : Nat :=
  if (t.file? path).isSome then 2 else 1

/-- The record that the tables hold for a path, if they hold one. -/
def Tables.record? (t : Tables) (path : String) : Except RowFault (Option FileRecord) :=
  match t.file? path with
  | none => .ok none
  | some row => (recordOf path row (t.problemsOf path)).map some

end Docwright.Cache
