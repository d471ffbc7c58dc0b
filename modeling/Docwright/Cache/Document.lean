import Docwright.Cache.Tables
import Docwright.Json.Reader

/-!
# Tables as text

The form in which tables outlast a run: a line that marks it, then one line for each row.  The line
of a row is a list in JSON that begins with the kind of the row; a guard on the table of problems
has a line of its own.  JSON writes a line break within a text as an escape, so no text ends a line
early.

`read?` gives nothing for a text that `write?` does not produce, as far as the rows show it.
-/

namespace Docwright.Cache.Document

/-- The line that every document begins with. -/
def mark : String := "docwright cache"

/-- The values in the line of a file. -/
def fileValues (row : FileRow) : List Scalar :=
  [.text "file", .text row.path, .text row.fingerprint, .text row.analyzed]

/-- The values in the line of a problem. -/
def problemValues (row : ProblemRow) : List Scalar :=
  [.text "problem", .text row.path, .int row.position, .int row.severity, .text row.template,
    .text row.values, (row.line.map Scalar.int).getD .null]

/-- The values in the line of a guard, if there is one. -/
def guardValues (t : Tables) : List (List Scalar) :=
  if t.guarded then [[.text "guard"]] else []

/-- A document, unless a number in it has too many digits. -/
def write? (t : Tables) : Option (List Char) :=
  let lines := t.files.map fileValues ++ t.problems.map problemValues ++ guardValues t
  (lines.mapM Json.compact?).map fun texts =>
    (mark.toList :: texts).flatMap (· ++ ['\n'])

/-! ### Reading -/

/-- The line of a problem; a problem need not have one. -/
def lineOf : Scalar → Option (Option Int)
  | .int n => some (some n)
  | .null => some none
  | _ => none

/-- Tables with the row that the values of a line give. -/
def addRow (t : Tables) : List Scalar → Option Tables
  | [.text "file", .text path, .text fingerprint, .text analyzed] =>
    some { t with files := t.files ++ [⟨path, fingerprint, analyzed⟩] }
  | [.text "problem", .text path, .int position, .int severity, .text template, .text values,
      line] =>
    (lineOf line).map fun line =>
      { t with problems := t.problems ++ [⟨path, position, severity, template, values, line⟩] }
  | [.text "guard"] => some { t with guarded := true }
  | _ => none

/-- The values in a line. -/
def valuesIn (line : List Char) : Option (List Scalar) :=
  match Json.parse line with
  | .ok (.list items) => items.mapM Datum.toScalar?
  | _ => none

/-- The lines of a text; what comes after the last line break is no line. -/
def lines (text : List Char) : List (List Char) :=
  (text.foldl (fun (whole, line) c =>
    if c == '\n' then (line.reverse :: whole, []) else (whole, c :: line)) ([], [])).1.reverse

/-- The tables in a document. -/
def read? (text : List Char) : Option Tables :=
  match lines text with
  | first :: rows =>
    if first = mark.toList then
      rows.foldlM (fun t line => valuesIn line >>= addRow t) Tables.empty
    else none
  | [] => none

end Docwright.Cache.Document
