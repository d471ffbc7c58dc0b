import Docwright.Build.Report
import Docwright.Json.Printer

/-!
# The summary of a build

A report as JSON: its status and counts, the records with the problems in words, and the rejections.
-/

namespace Docwright.CommandLine.Summary

open Json (Value)

/-- A text as JSON. -/
def text (s : String) : Value := .scalar (.text s)

/-- A whole number as JSON. -/
def int (n : Int) : Value := .scalar (.int n)

/-- A problem in words. -/
def ofProblem (p : Problem) : Except Failure Value :=
  match p.render with
  | .error failure => .error (.message failure)
  | .ok words =>
    .ok (.object [("severity", text p.severity.name),
      ("line", (p.line.map int).getD (.scalar .null)), ("message", text words)])

/-- A record. -/
def ofRecord (r : FileRecord) : Except Failure Value := do
  let problems ← r.problems.mapM ofProblem
  .ok (.object [("path", text r.path), ("fingerprint", text r.fingerprint),
    ("last_analyzed", text (String.ofList r.analyzed.text)), ("errors", .array problems)])

/-- A rejection. -/
def ofRejection (r : Rejection) : Value :=
  .object [("file_path", text r.path), ("message", text r.detail)]

/-- A report. -/
def ofReport (report : Report) : Except Failure Value := do
  let records ← report.records.mapM ofRecord
  .ok (.object [("status", text report.status), ("cached_count", int report.cached),
    ("analyzed_count", int report.analyzed), ("records", .array records),
    ("failures", .array (report.failures.map ofRejection))])

/-- The summary of a report. -/
def render (report : Report) : Except Failure (List Char) := do
  match Json.pretty? 0 (← ofReport report) with
  | some summary => .ok summary
  | none => .error .unprintable

end Docwright.CommandLine.Summary
