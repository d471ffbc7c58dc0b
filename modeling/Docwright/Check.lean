import Docwright.Log
import Docwright.Record
import Docwright.Source.Parser
import Docwright.Text.Word

/-!
# Checking the summaries of a file

A module, a class and a function have a summary: a bare text as the first statement of their body.
A summary that is missing is a problem, and so is a parameter that the summary of its function does
not mention; the receiver of a method (`self`, `cls`) needs no mention.

Definitions are looked for in the bodies of modules, classes and functions, and come in the order of
the text: first the problems of a definition, then those of the definitions within it.
-/

namespace Docwright.Check

open Source (Stmt Parameters)

/-- What a definition is. -/
inductive Kind
  | ofClass
  | method
  | function
  deriving DecidableEq, Repr

/-- The word for a kind. -/
def Kind.word : Kind → String
  | ofClass => "class"
  | method => "method"
  | function => "function"

/-- Whose body a statement stands in. -/
inductive Scope
  | module
  | ofClass
  | function
  deriving DecidableEq, Repr

/-- What a function in the body is: one directly in the body of a class is a method. -/
def Scope.functionKind : Scope → Kind
  | ofClass => .method
  | module | function => .function

/-- The summary of a body. -/
def summary? : List Stmt → Option String
  | .text value :: _ => some value
  | _ => none

/-- The names of all parameters: those by position, those by name only, then the two that gather
what is left. -/
def parameterNames (p : Parameters) : List String :=
  p.positionalOnly ++ p.positional ++ p.keywordOnly ++ p.variadic.toList ++
    p.keywordVariadic.toList

/-- Whether a parameter stands for the receiver. -/
def isReceiver (name : String) : Bool :=
  name == "self" || name == "cls"

/-- Whether a summary mentions a name. -/
def mentions (summary name : String) : Bool :=
  Text.occursAsWord name.toList summary.toList

/-- A line of the text; rows count from zero. -/
def lineOf (row : Nat) : Option Int :=
  some (row + 1 : Nat)

/-- The severity of a missing summary: names that begin with an underscore are for internal use. -/
def missingSeverity (name : String) : Severity :=
  if name.toList.head? = some '_' then .notice else .error

/-- The template for a missing summary. -/
def missingTemplate (kind : Kind) : String :=
  "No summary for " ++ kind.word ++ " %s"

/-- The problem of a definition without a summary. -/
def missingSummary (kind : Kind) (qualified name : String) (row : Nat) : Problem :=
  ⟨missingSeverity name, missingTemplate kind, [.text qualified], lineOf row⟩

/-- The problem of a parameter that is not mentioned. -/
def missingMention (parameter qualified : String) (row : Nat) : Problem :=
  ⟨.warning, "Argument %s is missing from the docstring of %s", [.text parameter, .text qualified],
    lineOf row⟩

/-- The parameters of a function that its summary fails to mention. -/
def unmentioned (p : Parameters) (summary : String) : List String :=
  (parameterNames p).filter fun name => !isReceiver name && !mentions summary name

/-- The problems of a class itself. -/
def classProblems (qualified name : String) (row : Nat) (body : List Stmt) : List Problem :=
  match summary? body with
  | none => [missingSummary .ofClass qualified name row]
  | some _ => []

/-- The problems of a function itself. -/
def functionProblems (kind : Kind) (qualified name : String) (row : Nat) (p : Parameters)
    (body : List Stmt) : List Problem :=
  match summary? body with
  | none => [missingSummary kind qualified name row]
  | some summary =>
    (unmentioned p summary).map fun parameter => missingMention parameter qualified row

/-- What stands in front of the names within a definition. -/
def within (qualified : String) : String :=
  qualified ++ "."

mutual

/-- The problems of the definition that a statement is; `above` stands in front of its name. -/
def ofStmt (scope : Scope) (above : String) : Stmt → List Problem
  | .classDef row name body =>
    classProblems (above ++ name) name row body ++ ofBody .ofClass (within (above ++ name)) body
  | .functionDef row name p body =>
    functionProblems scope.functionKind (above ++ name) name row p body ++
      ofBody .function (within (above ++ name)) body
  | .block _ | .text _ | .simple => []

/-- The problems of the definitions in a body. -/
def ofBody (scope : Scope) (above : String) : List Stmt → List Problem
  | [] => []
  | s :: rest => ofStmt scope above s ++ ofBody scope above rest

end

/-- The problems of the file itself. -/
def fileProblems (path : String) (body : List Stmt) : List Problem :=
  match summary? body with
  | none => [⟨.error, "No summary was found for file %s", [.text path], lineOf 0⟩]
  | some _ => []

/-- The problem of a file without a statement. -/
def emptyFile (path : String) : Problem :=
  ⟨.info, "File %s is empty", [.text path], lineOf 0⟩

/-- The problems of a file with the given statements. -/
def ofTree (path : String) : List Stmt → List Problem
  | [] => [emptyFile path]
  | body => fileProblems path body ++ ofBody .module "" body

/-! ### From the text of a file -/

/-- What is behind the last slash of a path. -/
def fileName (path : String) : String :=
  String.ofList (path.toList.reverse.takeWhile (· != '/')).reverse

/-- The tree of a file.  A path with a null character is refused before the text is read. -/
def tree (path source : String) : Except Source.Fault (List Stmt) :=
  if path.toList.contains '\x00' then .error ⟨.nullInPath, 0⟩
  else Source.parse source.toList

/-- What examining a file came to: problems, or the reason for which it could not be examined, and
the entries of the log. -/
structure Diagnosis where
  result : Except String (List Problem)
  logs : List Log.Entry

/-- The diagnosis for a file that cannot be read as a program. -/
def refused (path detail : String) : Diagnosis :=
  ⟨.error detail,
    [⟨.warning, .check, s!"Failed to parse file (file_path={path} error={detail})"⟩]⟩

/-- The diagnosis for a file with the given problems; that a file is empty is not logged. -/
def examined (path : String) (body : List Stmt) (problems : List Problem) : Diagnosis :=
  ⟨.ok problems,
    if body.isEmpty then []
    else [⟨.debug, .check, s!"Analyzed file (file_path={path} errors={problems.length})"⟩]⟩

/-- Examines a file. -/
def run (path source : String) : Diagnosis :=
  match tree path source with
  | .error fault => refused path (fault.describe (fileName path))
  | .ok body => examined path body (ofTree path body)

end Docwright.Check
