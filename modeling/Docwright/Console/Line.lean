import Docwright.Console.Markup
import Docwright.Severity

/-!
# The lines of a build

The two kinds of line that a build shows: one for a file, with its path in the style `info`, and one
for a log event, indented and in the style of its severity.  Paths and messages are escaped, so no
tag in them counts.
-/

namespace Docwright.Console

/-- A text between the tags of a style. -/
def styled (name text : List Char) : List Char :=
  '[' :: name ++ ']' :: text ++ '[' :: '/' :: name ++ [']']

/-- The style of a log event, for the severities that have one. -/
def styleName? : Severity → Option (List Char)
  | .debug | .notice | .info => none
  | .warning => some "comment".toList
  | .error | .alert | .critical | .emergency => some "error".toList

/-- The line of a log event. -/
def logLine (severity : Severity) (message : List Char) : List Char :=
  ' ' :: ' ' :: match styleName? severity with
    | none => escape message
    | some name => styled name (escape message)

/-- Whether the record of a file was found or made. -/
inductive Origin
  | cached
  | analyzed
  deriving DecidableEq, Repr

/-- What the line of a file begins with. -/
def Origin.heading : Origin → List Char
  | cached => "Found cached file ".toList
  | analyzed => "Parsed modified file ".toList

/-- The line of a file. -/
def fileLine (origin : Origin) (path : List Char) : List Char :=
  origin.heading ++ styled "info".toList (escape path)

end Docwright.Console
