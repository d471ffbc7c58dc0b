import Docwright.Log

/-!
# When a cache fails

A cache can fail to keep what it is given.  A `Fault` says why (`Reason`), and, for a database,
during which operation on which one; the log gets an entry from that.
-/

namespace Docwright.Cache

/-- Why a cache failed. -/
inductive Reason
  | cannotOpen
  | notDatabase
  | rejected
  | disk
  deriving DecidableEq, Repr

/-- The words for a reason. -/
def Reason.message : Reason → String
  | cannotOpen => "unable to open database file"
  | notDatabase => "file is not a database"
  | rejected => "rejected by trigger"
  | disk => "disk I/O error"

/-- What a database was asked to do. -/
inductive Operation
  | connect
  | lookup (path : String)
  | store (path : String)
  | clear
  deriving DecidableEq, Repr

/-- A failure of a cache; `place` is the database and the operation, if it has a database. -/
structure Fault where
  reason : Reason
  place : Option (String × Operation)
  deriving DecidableEq, Repr

/-- What happened, in the words of the log. -/
def Operation.describe (database : String) (reason : Reason) : Operation → String
  | connect => s!"SQLite cache unavailable (db_path={database} error={reason.message})"
  | lookup path =>
    s!"SQLite cache lookup failed (db_path={database} path={path} error={reason.message})"
  | store path =>
    s!"SQLite cache store failed (db_path={database} path={path} error={reason.message})"
  | clear => s!"SQLite cache clear failed (db_path={database} error={reason.message})"

/-- The entry of the log for a fault, if there is one. -/
def Fault.log? (fault : Fault) : Option Log.Entry :=
  fault.place.map fun (database, operation) =>
    ⟨.warning, .cache, operation.describe database fault.reason⟩

end Docwright.Cache
