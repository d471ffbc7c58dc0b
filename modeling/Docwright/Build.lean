import Docwright.Build.Report
import Docwright.Cache
import Docwright.Check
import Docwright.Digest.Md5
import Docwright.Exchange
import Docwright.Text.Utf8

/-!
# Building

A build takes the files of a project one by one (`process`).  Where the cache holds a record with
the fingerprint of the content, that record is announced as it is.  Otherwise the content is
examined, the new record is kept in the cache, and after that it is announced.  A file that cannot
be read, decoded or examined is rejected: nothing is kept and nothing is announced.

`run` goes through a list of paths and sums up.  If it is to continue after a rejection, that is
announced as a message of its own; every other failure ends the run.

`Project` is what a build is about, `World` what it changes.
-/

namespace Docwright.Build

/-- Why a file cannot be read. -/
inductive ReadFault
  | null
  | disk (fault : Disk.Fault) (path : Path)
  deriving DecidableEq, Repr

/-- What a build is about: the contents of files, how a file is examined, where records are kept,
the bus on which the outcome is announced, and the clock, by how many timestamps it has given. -/
structure Project (σ : Type) where
  read : String → Except ReadFault (List UInt8)
  examine : String → String → Check.Diagnosis
  cache : FileCache σ
  bus : Nat
  clock : Nat → Timestamp

/-- What a build changes: the state of the cache, the exchange, the count of timestamps taken, and
the paths that were examined. -/
structure World (σ : Type) where
  store : σ
  exchange : Exchange
  ticks : Nat
  examined : List String

/-- A step of a build; a failure keeps what was done before. -/
abbrev Step (σ α : Type) := EStateM Failure (World σ) α

variable {σ α : Type}

/-- Something done with the exchange, as a step. -/
def onExchange (act : Exchange.Act α) : Step σ α := fun w =>
  match act w.exchange with
  | .ok a exchange => .ok a { w with exchange }
  | .error failure exchange => .error failure { w with exchange }

/-- Writes an entry of the log. -/
def log (entry : Log.Entry) : Step σ Unit :=
  onExchange (Exchange.emit (.logged entry))

/-- Writes what a failure of a cache adds to the log. -/
def logFailure (failure : Failure) (x : Exchange) : Exchange :=
  match failure with
  | .cache fault =>
    match fault.log? with
    | some entry => x.observe (.logged entry)
    | none => x
  | _ => x

/-- Something done with the cache, as a step. -/
def onCache (act : EStateM Failure σ α) : Step σ α := fun w =>
  match act w.store with
  | .ok a store => .ok a { w with store }
  | .error failure store =>
    .error failure { w with store, exchange := logFailure failure w.exchange }

/-- Takes a timestamp. -/
def now (project : Project σ) : Step σ Timestamp := fun w =>
  .ok (project.clock w.ticks) { w with ticks := w.ticks + 1 }

/-- Rejects a file. -/
def reject (path detail : String) : Step σ α :=
  throw (.rejected ⟨path, detail⟩)

/-- The content of a file. -/
def content (project : Project σ) (path : String) : Step σ (List UInt8) :=
  match project.read path with
  | .ok data => pure data
  | .error .null => throw .nullByte
  | .error (.disk fault place) => do
    let detail := fault.describe place
    log ⟨.warning, .build, s!"Failed to read file (file_path={path} error={detail})"⟩
    reject path detail

/-- The text of a file. -/
def decoded (path : String) (data : List UInt8) : Step σ String :=
  match Text.Utf8.decode data with
  | .ok text => pure (String.ofList text)
  | .error fault => do
    log ⟨.warning, .build, s!"Failed to decode file (file_path={path} error={fault.message})"⟩
    reject path fault.message

/-- The problems of a file. -/
def examine (project : Project σ) (path source : String) : Step σ (List Problem) := do
  modify fun w => { w with examined := w.examined ++ [path] }
  let diagnosis := project.examine path source
  diagnosis.logs.forM log
  match diagnosis.result with
  | .ok problems => pure problems
  | .error detail => reject path detail

/-- Makes the record of a file, and keeps it. -/
def renew (project : Project σ) (path fingerprint : String) (data : List UInt8) :
    Step σ FileRecord := do
  let source ← decoded path data
  let problems ← examine project path source
  let record : FileRecord := ⟨path, fingerprint, ← now project, problems⟩
  onCache (project.cache.store path record)
  return record

/-- The record in the cache, if it has the fingerprint. -/
def current? (fingerprint : String) (found : Option FileRecord) : Option FileRecord :=
  found.filter (·.fingerprint == fingerprint)

/-- Settles what the record of a file is, and whether the cache held it.  Nothing is announced yet. -/
def settle (project : Project σ) (path : String) : Step σ (FileRecord × Bool) := do
  let data ← content project path
  let fingerprint := Digest.fingerprint data
  match current? fingerprint (← onCache (project.cache.lookup path)) with
  | some record => return (record, true)
  | none => return (← renew project path fingerprint data, false)

/-- The entry of the log for a record that the cache held. -/
def hitEntry (path : String) (record : FileRecord) : Log.Entry :=
  ⟨.debug, .build, s!"Cache hit (file_path={path} fingerprint={record.fingerprint})"⟩

/-- The entry of the log for a record that was made. -/
def missEntry (path : String) (record : FileRecord) : Log.Entry :=
  ⟨.debug, .build,
    s!"Cache miss; file analyzed (file_path={path} fingerprint={record.fingerprint} " ++
      s!"errors={record.problems.length})"⟩

/-- The announcement of a record. -/
def announcement (record : FileRecord) (hit : Bool) : Event :=
  if hit then .cached record else .analyzed record

/-- Announces a record. -/
def announce (project : Project σ) (path : String) (record : FileRecord) (hit : Bool) :
    Step σ Unit := do
  log (if hit then hitEntry path record else missEntry path record)
  let event := announcement record hit
  onExchange (Exchange.publish project.bus event.name event)

/-- Takes a file through the build: its record, and whether the cache held it. -/
def process (project : Project σ) (path : String) : Step σ (FileRecord × Bool) := do
  let (record, hit) ← settle project path
  announce project path record hit
  return (record, hit)

/-! ### A whole run -/

/-- The message for a rejection. -/
def rejectionEvent (r : Rejection) : Event :=
  .log .critical ⟨"Unable to analyze file %s: %s", [.text r.path, .text r.detail]⟩

/-- Takes a file through the build, with a rejection as an outcome. -/
def attempt (project : Project σ) (path : String) : Step σ Visit := fun w =>
  match process project path w with
  | .ok (record, hit) w => .ok (.accepted record hit) w
  | .error (.rejected r) w => .ok (.rejected r) w
  | .error failure w => .error failure w

/-- Visits a file.  A rejection is announced and passed over, or ends the run. -/
def visit (project : Project σ) (continueOnError : Bool) (path : String) : Step σ Visit := do
  let visit ← attempt project path
  match visit with
  | .accepted .. => return visit
  | .rejected r =>
    if continueOnError then
      onExchange (Exchange.publish project.bus Event.logName (rejectionEvent r))
      return visit
    else throw (.rejected r)

/-- Goes on with the report after a path. -/
def advance (project : Project σ) (continueOnError : Bool) (report : Report) (path : String) :
    Step σ Report := do
  return report.add (← visit project continueOnError path)

/-- The entry of the log for a run that came to its end. -/
def completed (report : Report) : Log.Entry :=
  ⟨.info, .build,
    s!"Build completed (files={report.records.length} cached={report.cached} " ++
      s!"analyzed={report.analyzed} failed={report.failures.length})"⟩

/-- Takes files through the build in the given order. -/
def run (project : Project σ) (continueOnError : Bool) (paths : List String) : Step σ Report := do
  let report ← paths.foldlM (advance project continueOnError) Report.empty
  log (completed report)
  return report

/-! ### Projects on a disk -/

/-- The content of the file at the end of a path from within a directory. -/
def readWithin (disk : Disk) (root : Path) (path : String) : Except ReadFault (List UInt8) :=
  let place : Path := root ++ Path.ofText path
  if place.hasNull then .error .null
  else
    match disk.read place with
    | .ok data => .ok data
    | .error fault => .error (.disk fault place)

end Docwright.Build
