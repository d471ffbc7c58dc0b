import Docwright.Build
import Docwright.CommandLine.Options
import Docwright.CommandLine.Summary
import Docwright.Discovery

/-!
# Running a command line

`run` carries out a command line on a disk and says what comes of it (`Outcome`): how it ends, what
is written to the two output streams, the diagnostic log, and the disk afterwards.

The exit code is 2 where the command line is not accepted, the project or the place of the cache is
missing, the cache fails, or the summary cannot be written.  Otherwise it is 1 if a file was
rejected, and 0 if none was.  A failure that is neither a rejection nor one of the cache has no exit
code.
-/

namespace Docwright.CommandLine

/-- What comes of a command line. -/
structure Outcome where
  ending : Except Failure Nat
  stdout : List Char
  stderr : String
  logs : List Log.Entry
  detailed : Bool
  disk : Disk

namespace Outcome

/-- The entries of the log that are written from a threshold on. -/
def writtenLogs (o : Outcome) (threshold : Nat) : List Log.Entry :=
  o.logs.filter (·.isWritten threshold o.detailed)

end Outcome

/-- A warning of the command line itself. -/
def warning (text : String) : Log.Entry :=
  ⟨.warning, .commandLine, text⟩

/-- The outcome of a command line that comes to nothing. -/
def refused (disk : Disk) (words stderr : String) : Outcome :=
  ⟨.ok 2, [], stderr, [warning words], false, disk⟩

/-- The words of a command line, so that each can be told. -/
def wordsText (argv : List String) : String :=
  String.ofList (((Datum.list (argv.map Datum.text)).literal?).getD [])

/-- The database that options name, if they name one. -/
def Options.database? (o : Options) : Option Path :=
  (o.cacheDb.filter (· != "")).map Path.ofText

/-- The extensions of the files to build. -/
def Options.suffixes (o : Options) : List String :=
  if o.extensions.isEmpty then [".py"] else o.extensions

/-- The cache of a build. -/
def Options.cache (o : Options) : FileCache Storage :=
  match o.database? with
  | some db => .database db
  | none => .memory

/-! ### The build -/

/-- Empties the database before the build, if that is asked for. -/
def discard (o : Options) : Build.Step Storage Unit :=
  match o.database? with
  | some db =>
    if o.rebuild then do
      let shown := o.cacheDb.getD ""
      Build.log ⟨.info, .commandLine, s!"Clearing cache before build (cache_db={shown})"⟩
      Build.onCache (Storage.onDisk (Cache.Database.clear db))
    else pure ()
  | none => pure ()

/-- A clock, by how many timestamps were taken before. -/
abbrev Clock := Nat → Timestamp

/-- The project that options name, with files as they are on a disk. -/
def project (o : Options) (clock : Clock) (disk : Disk) : Build.Project Storage :=
  ⟨Build.readWithin disk (Path.ofText o.path), Check.run, o.cache, 0, clock⟩

/-- The build that options ask for. -/
def build (o : Options) (clock : Clock) : Build.Step Storage Report := do
  Build.onExchange (Exchange.connect 0 0)
  let root := Path.ofText o.path
  let disk := (← get).store.disk
  let paths := Discovery.discover disk root o.suffixes
  Build.log (Discovery.entry root paths)
  discard o
  Build.run (project o clock disk) o.continueOnError paths

/-- The world that a build begins in. -/
def world (o : Options) (disk : Disk) : Build.World Storage :=
  ⟨⟨disk, []⟩, Exchange.new 1 [o.verbosity.threshold], 0, []⟩

/-- What was printed. -/
def printed (trace : List Effect) : List Char :=
  trace.flatMap fun
    | .printed _ text => text
    | _ => []

/-- What was logged. -/
def logged (trace : List Effect) : List Log.Entry :=
  trace.filterMap fun
    | .logged entry => some entry
    | _ => none

/-- The outcome of a build that ended in the given world. -/
def outcome (o : Options) (w : Build.World Storage) (ending : Except Failure Nat) (stderr : String)
    (more : List Log.Entry) : Outcome :=
  ⟨ending, printed w.exchange.trace, stderr, logged w.exchange.trace ++ more,
    o.verbosity == .debug, w.store.disk⟩

/-- The outcome of a build that a failure ended. -/
def failed (o : Options) (w : Build.World Storage) : Failure → Outcome
  | .rejected r =>
    outcome o w (.ok 1) s!"Unable to analyze file {r.path}: {r.detail}\n"
      [warning s!"Build aborted (file_path={r.path} error={r.detail})"]
  | .cache fault =>
    outcome o w (.ok 2) s!"Cache storage failed: {fault.reason.message}\n"
      [warning s!"Build aborted by cache failure (error={fault.reason.message})"]
  | failure => outcome o w (.error failure) "" []

/-! ### The summary -/

/-- A disk and what kept the summary from it, if anything did. -/
structure Delivery where
  disk : Disk
  problem : Option (Except Failure String)

/-- The delivery that a fault of the disk ends. -/
def Delivery.faulty (disk : Disk) (fault : Disk.Fault) (path : Path) : Delivery :=
  ⟨disk, some (.ok (fault.describe path))⟩

/-- Writes a summary to a file in a directory that is there. -/
def writeSummary (disk : Disk) (path : Path) (report : Report) : Delivery :=
  match Summary.render report with
  | .error failure => ⟨disk, some (.error failure)⟩
  | .ok summary =>
    if path.hasNull then ⟨disk, some (.error .nullByte)⟩
    else
      match disk.write path (.bytes (String.ofList summary).toUTF8.toList) with
      | .ok disk => ⟨disk, none⟩
      | .error fault => .faulty disk fault path

/-- Writes a summary, with the directories above it; those are made first, and stay where the summary
cannot be written. -/
def deliver (disk : Disk) (path : Path) (report : Report) : Delivery :=
  if path.parent.hasNull then ⟨disk, some (.error .nullByte)⟩
  else
    match disk.ensureDirectories path.parent path.parent.names.length with
    | ⟨disk, some (fault, place)⟩ => .faulty disk fault place
    | ⟨disk, none⟩ => writeSummary disk path report

/-- The exit code of a build that came to its end. -/
def exitCode (report : Report) : Nat :=
  if report.failures.isEmpty then 0 else 1

/-- The outcome of a build that came to its end. -/
def finished (o : Options) (w : Build.World Storage) (report : Report) : Outcome :=
  match o.summaryOutput.filter (· != "") with
  | none => outcome o w (.ok (exitCode report)) "" []
  | some output =>
    let delivery := deliver w.store.disk (Path.ofText output) report
    let w := { w with store := { w.store with disk := delivery.disk } }
    match delivery.problem with
    | none => outcome o w (.ok (exitCode report)) "" []
    | some (.error failure) => outcome o w (.error failure) "" []
    | some (.ok detail) =>
      outcome o w (.ok 2) s!"Failed to write summary file: {output}\n"
        [warning s!"Failed to write summary file (output_path={output} error={detail})"]

/-! ### The whole -/

/-- Builds what options ask for. -/
def runBuild (o : Options) (clock : Clock) (disk : Disk) : Outcome :=
  match build o clock (world o disk) with
  | .ok report w => finished o w report
  | .error failure w => failed o w failure

/-- The outcome where something in the project cannot be asked about.  The console is connected by then. -/
def unsought (o : Options) (disk : Disk) (failure : Failure) : Outcome :=
  match Build.onExchange (Exchange.connect 0 0) (world o disk) with
  | .ok () w => failed o w failure
  | .error failure w => failed o w failure

/-- Builds what options ask for, if the files of the project can be told. -/
def runProject (o : Options) (clock : Clock) (disk : Disk) : Outcome :=
  match Discovery.run disk (Path.ofText o.path) o.suffixes with
  | .ok _ => runBuild o clock disk
  | .error failure => unsought o disk failure

/-- The outcome where the disk cannot even be asked. -/
def stuck (disk : Disk) (fault : Disk.Fault) (path : Path) : Outcome :=
  ⟨.error (.disk fault path), [], "", [], false, disk⟩

/-- Builds what options ask for, if the place of the cache is there. -/
def runWithCache (o : Options) (clock : Clock) (disk : Disk) : Outcome :=
  match o.database? with
  | none => runProject o clock disk
  | some db =>
    match disk.ask db.parent fun _ => true with
    | .error fault => stuck disk fault db.parent
    | .ok true => runProject o clock disk
    | .ok false =>
      refused disk s!"Cache directory does not exist (cache_db={db.text})"
        s!"Cache directory does not exist: {db.parent.text}\n"

/-- Builds what options ask for, if the project is there. -/
def runOptions (o : Options) (clock : Clock) (disk : Disk) : Outcome :=
  let root := Path.ofText o.path
  match disk.ask root Node.isDirectory with
  | .error fault => stuck disk fault root
  | .ok true => runWithCache o clock disk
  | .ok false =>
    refused disk s!"Path is not a directory (path={root.text})"
      s!"Path is not a directory: {root.text}\n"

/-- Carries out a command line. -/
def run (argv : List String) (clock : Clock) (disk : Disk) : Outcome :=
  match Options.parse argv with
  | some o => runOptions o clock disk
  | none => refused disk s!"Argument parsing failed (argv={wordsText argv})" ""

end Docwright.CommandLine
