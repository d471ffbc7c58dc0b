import Docwright.Cache.Row
import Docwright.Disk
import Docwright.Failure

/-!
# Databases on a disk

A database is a file of the disk.  Every operation connects to it anew, which makes the file if it
is missing; an empty file is a database without rows, a file with anything else in it is none.  The
name `:memory:` stands for tables that last no longer than the connection.

`lookup`, `store` and `clear` are the operations of a cache, and `lookupAmid`, `storeAmid` and
`clearAmid` the same amid trouble; `change` and `tables` work on the rows themselves.
-/

namespace Docwright.Cache.Database

/-- What is done with a disk. -/
abbrev Act (α : Type) := EStateM Failure Disk α

/-- Where the tables of an open database are. -/
inductive Location
  | transient
  | stored (names : List String)

/-- The failure of an operation on a database. -/
def failure (db : Path) (operation : Operation) (reason : Reason) : Failure :=
  .cache ⟨reason, some (db.text, operation)⟩

/-- Connects to a database: finds its file, or makes an empty one. -/
def connect (trouble : Trouble) (db : Path) : Act Location := do
  if db.hasNull then throw .nullByte
  if let some reason := trouble.connection then throw (failure db .connect reason)
  if db.text == ":memory:" then return .transient
  let disk ← get
  match disk.fileForWriting db with
  | .error _ => throw (failure db .connect .cannotOpen)
  | .ok names =>
    if (disk.top.at? names).isNone then set (disk.put names (.file (.bytes [])))
    return .stored names

/-- The tables that a file holds. -/
def tablesOf : Content → Option Tables
  | .database t => some t
  | .bytes [] => some Tables.empty
  | .bytes _ => none

/-- The tables at a location. -/
def read (db : Path) (operation : Operation) : Location → Act Tables
  | .transient => pure Tables.empty
  | .stored names => do
    match (← get).top.at? names with
    | some (.file content) =>
      match tablesOf content with
      | some t => pure t
      | none => throw (failure db operation .notDatabase)
    | _ => throw (failure db operation .cannotOpen)

/-- Puts tables at a location. -/
def write (t : Tables) : Location → Act Unit
  | .transient => pure ()
  | .stored names => modify fun disk => disk.put names (.file (.database t))

/-- The failure that a fault of a statement is. -/
def failureOf (db : Path) (operation : Operation) : StatementFault → Failure
  | .refused reason => failure db operation reason
  | .integerRange => .integerRange
  | .unprintable => .unprintable

/-- Connects to a database, and makes its tables if they are missing. -/
def openTables (trouble : Trouble) (db : Path) (operation : Operation) : Act (Location × Tables) := do
  let location ← connect trouble db
  let t ← read db operation location
  match (Session.opened t).perform trouble 0 schema with
  | (session, none) =>
    write session.closed location
    return (location, session.closed)
  | (_, some fault) => throw (failureOf db operation fault)

/-- Carries out statements in a session of their own. -/
def perform (trouble : Trouble) (db : Path) (operation : Operation) (statements : List Statement) :
    Act Unit := do
  let (location, t) ← openTables trouble db operation
  let (session, fault) := (Session.opened t).perform trouble schema.length statements
  write (session.settled fault) location
  match fault with
  | none => pure ()
  | some fault => throw (failureOf db operation fault)

/-- The record that is kept for a path, amid trouble. -/
def lookupAmid (trouble : Trouble) (db : Path) (path : String) : Act (Option FileRecord) := do
  let (_, t) ← openTables trouble db (.lookup path)
  match trouble.first? schema.length (t.selections path) with
  | some fault => throw (failureOf db (.lookup path) fault)
  | none =>
    match t.record? path with
    | .ok record => pure record
    | .error fault => throw (.row fault)

/-- Keeps a record for a path, amid trouble. -/
def storeAmid (trouble : Trouble) (db : Path) (path : String) (record : FileRecord) : Act Unit :=
  perform trouble db (.store path) (storing path record)

/-- Removes every record, amid trouble. -/
def clearAmid (trouble : Trouble) (db : Path) : Act Unit :=
  perform trouble db .clear clearing

/-- The record that is kept for a path. -/
def lookup (db : Path) (path : String) : Act (Option FileRecord) :=
  lookupAmid .calm db path

/-- Keeps a record for a path. -/
def store (db : Path) (path : String) (record : FileRecord) : Act Unit :=
  storeAmid .calm db path record

/-- Removes every record. -/
def clear (db : Path) : Act Unit :=
  clearAmid .calm db

/-! ### The rows themselves -/

/-- The tables of a database. -/
def tables (db : Path) : Act Tables := do
  let (_, t) ← openTables .calm db .connect
  return t

/-- Carries out one statement. -/
def change (db : Path) (statement : Statement) : Act Unit :=
  perform .calm db .connect [statement]

/-- Puts other tables in the place of those of a database. -/
def replace (db : Path) (f : Tables → Tables) : Act Unit := do
  let (location, t) ← openTables .calm db .connect
  write (f t) location

/-- The rows of files, in the order of their paths. -/
def fileRows (t : Tables) : List FileRow :=
  Sorting.sort (fun a b => a.path ≤ b.path) t.files

/-- The rows of problems, in the order of paths, positions, and writing. -/
def problemRows (t : Tables) : List ProblemRow :=
  Sorting.sort (fun a b => a.path < b.path || (a.path == b.path && a.position ≤ b.position))
    t.problems

end Docwright.Cache.Database
