import Docwright.Failure

/-!
# The report of a build

What a build came to: the records of the files that went through, in order, the rejections, and how
many records came from the cache and how many from an examination.
-/

namespace Docwright

/-- The outcome of a build. -/
structure Report where
  records : List FileRecord
  failures : List Rejection
  cached : Nat
  analyzed : Nat
  deriving DecidableEq, Repr

/-- What a visit to a file comes to: its record, with whether the cache held it, or a rejection. -/
inductive Visit
  | accepted (record : FileRecord) (hit : Bool)
  | rejected (rejection : Rejection)
  deriving DecidableEq, Repr

namespace Report

/-- The report of a build that has not begun. -/
def empty : Report := ⟨[], [], 0, 0⟩

/-- A report with one record more. -/
def accept (report : Report) (record : FileRecord) (hit : Bool) : Report :=
  ⟨report.records ++ [record], report.failures,
    if hit then report.cached + 1 else report.cached,
    if hit then report.analyzed else report.analyzed + 1⟩

/-- A report with one rejection more. -/
def reject (report : Report) (rejection : Rejection) : Report :=
  { report with failures := report.failures ++ [rejection] }

/-- A report with one visit more. -/
def add (report : Report) : Visit → Report
  | .accepted record hit => report.accept record hit
  | .rejected rejection => report.reject rejection

/-- Whether a record has a problem that is an error or graver. -/
def isGrave (record : FileRecord) : Bool :=
  (record.maxSeverity?.map (·.reaches .error)).getD false

/-- Whether nothing was rejected and no record has a grave problem. -/
def isClean (report : Report) : Bool :=
  report.failures.isEmpty && !report.records.any isGrave

/-- The word for the outcome. -/
def status (report : Report) : String :=
  if report.isClean then "completed" else "completed_with_errors"

end Report

end Docwright
