import Docwright.Cache.Fault
import Docwright.Record
import Docwright.Json.Printer

/-!
# The tables of a cache

A database has two tables: one row for each file that is kept, and one row for each problem of such
a file, with its position among the problems of the file.

What happens to the tables are statements.  A `Session` is a connection to a database: between
`begin` and `commit` statements change a draft, and the tables get all of the changes at once, by
`commit`.  When a session is closed before that, nothing of the draft is left; a statement that the
database refuses has the draft rolled back before.

A guarded table of problems refuses rows with a certain template.  Beyond that any statement may
fail for a reason that lies outside the tables, such as a full disk: a `Trouble` says which ones do.
-/

namespace Docwright.Cache

/-- What is kept of a file, as text. -/
structure FileRow where
  path : String
  fingerprint : String
  analyzed : String
  deriving DecidableEq, Repr

/-- What is kept of a problem; the values are a list in JSON. -/
structure ProblemRow where
  path : String
  position : Int
  severity : Int
  template : String
  values : String
  line : Option Int
  deriving DecidableEq, Repr

/-- The tables, the rows of each in the order in which they were written. -/
structure Tables where
  files : List FileRow
  problems : List ProblemRow
  guarded : Bool
  deriving DecidableEq, Repr

namespace Tables

/-- Tables without rows. -/
def empty : Tables := ⟨[], [], false⟩

/-- Tables after the table of files was dropped and made anew. -/
def dropFiles (t : Tables) : Tables := { t with files := [] }

/-- Tables after the table of problems was dropped and made anew; a new table is not guarded. -/
def dropProblems (t : Tables) : Tables := { t with problems := [], guarded := false }

/-- The row of a file. -/
def file? (t : Tables) (path : String) : Option FileRow :=
  t.files.find? (·.path == path)

/-- The rows of the problems of a file, by position. -/
def problemsOf (t : Tables) (path : String) : List ProblemRow :=
  Sorting.sort (fun a b => a.position ≤ b.position) (t.problems.filter (·.path == path))

end Tables

/-- Why a statement failed: the database refused it, or its values cannot be handed over. -/
inductive StatementFault
  | refused (reason : Reason)
  | integerRange
  | unprintable
  deriving DecidableEq, Repr

/-- A statement.  `unwritable` is one whose values cannot be written. -/
inductive Statement
  | createFiles
  | createProblems
  | createIndex
  | begin
  | deleteProblemsOf (path : String)
  | deleteProblems
  | deleteFiles
  | replaceFile (row : FileRow)
  | insertProblem (row : ProblemRow)
  | unwritable
  | commit
  deriving DecidableEq, Repr

/-- The first number that is too great for a table. -/
def integerLimit : Nat := Nat.pow 2 63

/-- The numbers that a table can hold. -/
def fitsInteger (n : Int) : Bool :=
  -(integerLimit : Int) ≤ n && n < (integerLimit : Int)

/-- The template that a guarded table refuses. -/
def refusedTemplate : String := "rejected"

namespace ProblemRow

/-- Whether the numbers of a row fit into a table. -/
def fits (row : ProblemRow) : Bool :=
  fitsInteger row.position && fitsInteger row.severity && (row.line.map fitsInteger).getD true

end ProblemRow

namespace Tables

/-- The tables after a row for a file, which takes the place of the row it had. -/
def replaceFile (t : Tables) (row : FileRow) : Tables :=
  { t with files := t.files.filter (·.path != row.path) ++ [row] }

/-- The tables after a row for a problem.  Numbers are looked at first. -/
def insertProblem (t : Tables) (row : ProblemRow) : Except StatementFault Tables :=
  if !row.fits then .error .integerRange
  else if t.guarded && row.template == refusedTemplate then .error (.refused .rejected)
  else .ok { t with problems := t.problems ++ [row] }

/-- The tables after a statement that changes rows.  A table that is missing has no rows, so making it
changes none. -/
def change (t : Tables) : Statement → Except StatementFault Tables
  | .deleteProblemsOf path => .ok { t with problems := t.problems.filter (·.path != path) }
  | .deleteProblems => .ok { t with problems := [] }
  | .deleteFiles => .ok { t with files := [] }
  | .replaceFile row => .ok (t.replaceFile row)
  | .insertProblem row => t.insertProblem row
  | .unwritable => .error .unprintable
  | .createFiles | .createProblems | .createIndex | .begin | .commit => .ok t

end Tables

/-- What goes wrong during an operation for reasons outside the tables: the connection cannot be
made, or statements fail, which are counted from zero. -/
structure Trouble where
  connection : Option Reason
  statement : Nat → Option StatementFault

namespace Trouble

/-- No trouble at all. -/
def calm : Trouble := ⟨none, fun _ => none⟩

/-- The first fault among as many statements as given, from a number on. -/
def first? (trouble : Trouble) (number : Nat) : Nat → Option StatementFault
  | 0 => none
  | count + 1 => (trouble.statement number).or (trouble.first? (number + 1) count)

end Trouble

/-- A connection to a database: the tables as everyone sees them, and the draft of this connection,
if it has begun one. -/
structure Session where
  tables : Tables
  draft : Option Tables
  deriving DecidableEq, Repr

namespace Session

/-- A connection that has just been made. -/
def opened (t : Tables) : Session := ⟨t, none⟩

/-- A session after a statement.  Without a draft a change counts at once. -/
def execute (s : Session) : Statement → Except StatementFault Session
  | .begin => .ok ⟨s.tables, some s.tables⟩
  | .commit => .ok ⟨s.draft.getD s.tables, none⟩
  | statement =>
    match s.draft with
    | some draft => (draft.change statement).map fun t => ⟨s.tables, some t⟩
    | none => (s.tables.change statement).map fun t => ⟨t, none⟩

/-- A session after statements, the first of which has the given number, up to the one that fails. -/
def perform (trouble : Trouble) (s : Session) (number : Nat) :
    List Statement → Session × Option StatementFault
  | [] => (s, none)
  | statement :: rest =>
    match trouble.statement number with
    | some fault => (s, some fault)
    | none =>
      match s.execute statement with
      | .ok s => s.perform trouble (number + 1) rest
      | .error fault => (s, some fault)

/-- A session that has given up its draft. -/
def rolledBack (s : Session) : Session :=
  ⟨s.tables, none⟩

/-- What is left when a session is closed. -/
def closed (s : Session) : Tables := s.tables

/-- What is left of a session that ended with a fault or without one.  Only a refusal is answered by a
rollback; after any other fault the session is closed with its draft. -/
def settled (s : Session) : Option StatementFault → Tables
  | some (.refused _) => s.rolledBack.closed
  | some .integerRange | some .unprintable | none => s.closed

end Session

/-! ### The statements of the operations -/

/-- The statements that make the tables and their index, if they are missing. -/
def schema : List Statement :=
  [.createFiles, .createProblems, .createIndex]

/-- The row of a problem, unless its values cannot be written. -/
def problemRow? (path : String) (position : Nat) (p : Problem) : Option ProblemRow :=
  (Json.compact? p.values).map fun values =>
    ⟨path, position, p.severity.rank, p.template, String.ofList values, p.line⟩

/-- The rows of problems, from the given position on. -/
def problemRows? (path : String) (position : Nat) : List Problem → Option (List ProblemRow)
  | [] => some []
  | p :: rest => do
    some ((← problemRow? path position p) :: (← problemRows? path (position + 1) rest))

/-- The statements that write problems. -/
def writeProblems (path : String) (problems : List Problem) : List Statement :=
  match problemRows? path 0 problems with
  | some rows => rows.map .insertProblem
  | none => [.unwritable]

/-- The row of a record. -/
def fileRow (path : String) (record : FileRecord) : FileRow :=
  ⟨path, record.fingerprint, String.ofList record.analyzed.text⟩

/-- The statements that put a record in the place of the one that is kept under a path. -/
def storing (path : String) (record : FileRecord) : List Statement :=
  [.begin, .deleteProblemsOf path, .replaceFile (fileRow path record)] ++
    writeProblems path record.problems ++ [.commit]

/-- The statements that remove every record. -/
def clearing : List Statement :=
  [.begin, .deleteProblems, .deleteFiles, .commit]

end Docwright.Cache
