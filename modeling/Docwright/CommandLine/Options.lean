import Docwright.Severity
import Docwright.Text.Digit

/-!
# The command line

The one command is `build`, with options behind it.  `Options.parse` reads the words of a command
line; a line it does not accept has no options at all.

An option may be shortened as long as no other one begins the same way.  Its value is the next word,
or follows an equals sign.  The next word is no value if it looks like an option: it begins with a
hyphen, and is neither a hyphen alone, nor a negative number, nor a text with a blank that begins no
option.  Of an option that is given twice the last value counts, except that extensions add up.
-/

namespace Docwright.CommandLine

/-- An option of the command. -/
inductive Switch
  | help
  | path
  | cacheDb
  | rebuild
  | extension
  | verbosity
  | continueOnError
  | summaryOutput
  deriving DecidableEq, Repr

namespace Switch

/-- All options. -/
def all : List Switch :=
  [help, path, cacheDb, rebuild, extension, verbosity, continueOnError, summaryOutput]

/-- The name of an option. -/
def name : Switch → String
  | help => "--help"
  | path => "--path"
  | cacheDb => "--cache-db"
  | rebuild => "--rebuild"
  | extension => "--extension"
  | verbosity => "--verbosity"
  | continueOnError => "--continue-on-error"
  | summaryOutput => "--summary-output"

/-- The option that a text is the whole name of. -/
def ofName? (text : List Char) : Option Switch :=
  if text = ['-', 'h'] then some help else all.find? fun s => s.name.toList == text

/-- The options whose names begin with a text. -/
def ofBeginning (text : List Char) : List Switch :=
  all.filter fun s => text.isPrefixOf s.name.toList

end Switch

/-- What a word of a command line is. -/
inductive Word
  | argument (text : String)
  | option (switch : Switch) (value : Option String)
  | unknown
  deriving DecidableEq, Repr

namespace Word

/-- Whether a text is a negative number; a line end may follow. -/
def isNegativeNumber (text : List Char) : Bool :=
  match text with
  | '-' :: rest =>
    let rest := if rest.getLast? = some '\n' then rest.dropLast else rest
    let whole := rest.takeWhile Text.isDecimalDigit
    match rest.dropWhile Text.isDecimalDigit with
    | [] => !whole.isEmpty
    | '.' :: fraction => !fraction.isEmpty && fraction.all Text.isDecimalDigit
    | _ => false
  | _ => false

/-- The part of a text in front of its first equals sign, and the part behind it. -/
def split (text : List Char) : List Char × Option String :=
  match text.dropWhile (· != '=') with
  | _ :: value => (text.takeWhile (· != '='), some (String.ofList value))
  | [] => (text, none)

/-- The options that a text may be short for, with a value that is joined to it. -/
def candidates (text : List Char) : List Word :=
  match text with
  | '-' :: '-' :: _ =>
    let (beginning, value) := split text
    (Switch.ofBeginning beginning).map (option · value)
  | '-' :: 'h' :: value => [option .help (some (String.ofList value))]
  | _ => []

/-- A word that begins with a hyphen and is no option. -/
def other (text : List Char) : Word :=
  if isNegativeNumber text || text.contains ' ' then argument (String.ofList text) else unknown

/-- A word that begins with a hyphen. -/
def ofHyphen (text : List Char) : Word :=
  let (front, value) := split text
  match Switch.ofName? text, Switch.ofName? front, candidates text with
  | some s, _, _ => option s none
  | none, some s, _ => option s value
  | none, none, [w] => w
  | none, none, [] => other text
  | none, none, _ => unknown

/-- What a word is.  Two hyphens alone are nothing that a command line may have. -/
def ofText (text : String) : Word :=
  match text.toList with
  | ['-'] => argument text
  | ['-', '-'] => unknown
  | '-' :: rest => ofHyphen ('-' :: rest)
  | _ => argument text

end Word

/-- What a command line asks for. -/
structure Options where
  path : String
  cacheDb : Option String
  rebuild : Bool
  extensions : List String
  verbosity : Verbosity
  continueOnError : Bool
  summaryOutput : Option String
  deriving DecidableEq, Repr

namespace Options

/-- What was read of a command line; the path may still be missing. -/
structure Draft where
  path : Option String := none
  cacheDb : Option String := none
  rebuild : Bool := false
  extensions : List String := []
  verbosity : Verbosity := .normal
  continueOnError : Bool := false
  summaryOutput : Option String := none

namespace Draft

/-- Takes a value in. -/
def take (d : Draft) (value : String) : Switch → Option Draft
  | .path => some { d with path := some value }
  | .cacheDb => some { d with cacheDb := some value }
  | .extension => some { d with extensions := d.extensions ++ [value] }
  | .verbosity => (Verbosity.ofName? value).map fun v => { d with verbosity := v }
  | .summaryOutput => some { d with summaryOutput := some value }
  | .help | .rebuild | .continueOnError => none

/-- Takes an option without a value in. -/
def turnOn (d : Draft) : Switch → Option Draft
  | .rebuild => some { d with rebuild := true }
  | .continueOnError => some { d with continueOnError := true }
  | _ => none

/-- Takes words in. -/
def read (d : Draft) : List Word → Option Draft
  | [] => some d
  | .option s (some value) :: rest => (d.take value s).bind (read · rest)
  | .option s none :: .argument value :: rest =>
    match d.take value s with
    | some d => d.read rest
    | none => none
  | .option s none :: rest => (d.turnOn s).bind (read · rest)
  | .argument _ :: _ | .unknown :: _ => none

/-- The options, if the path is there. -/
def finish (d : Draft) : Option Options :=
  d.path.map fun path =>
    ⟨path, d.cacheDb, d.rebuild, d.extensions, d.verbosity, d.continueOnError, d.summaryOutput⟩

end Draft

/-- Reads the words of a command line. -/
def parse : List String → Option Options
  | command :: words =>
    if command = "build" then (Draft.read {} (words.map Word.ofText)).bind Draft.finish else none
  | [] => none

end Options

end Docwright.CommandLine
