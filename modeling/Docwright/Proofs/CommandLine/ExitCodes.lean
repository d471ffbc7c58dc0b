import Docwright.Proofs.CommandLine.Rebuilding
import Docwright.Proofs.CommandLine.Summaries

/-!
# Exit codes

A command line that is accepted ends with one of three exit codes.  It is 2 where the
build is `Thwarted`: there is nothing to build or no place for the database, the cache
reports a fault before anything else ends the build, or the summary cannot be written.
Otherwise it is 1 if a file is `Unfit`, and 0 if none is.  Neither depends on what the
cache holds, as long as that can be relied on (`Options.Proper`), and a build leaves
only what can be relied on again.

What comes of the parts is known before: emptying the database, the run over the files
(`Build.Ends`) and the delivery of the summary (`deliver_cases`).  Here they are put
together in the order in which they can fail.

The last clause of `Exits` is the one that needs most: the database must last, and the
summary must not be written over it or over the file.  `zero_without_record` collects
what happens otherwise, and where a name is no name of a file.
-/

namespace Docwright.CommandLine

open Build (World Faulty Ends Reports)
open Cache (Tables)
open Cache.Database (Confined Reliable ReliableThroughout Stands held clear)
open Check (Attested Ordinary)
open Exchange (Wired)
open Disk (Extends)

variable {o : Options} {db : Path} {clock : Clock} {disk : Disk} {occurs : List UInt8 → Prop} {path : String}
  {w w' : World Storage} {report : Report}

/-! ### What is asked of a command line -/

/-- The names that a command line deals with can be asked about and have no null character, and the files
can be told and are not too many to be counted. -/
structure Options.Regular (o : Options) (disk : Disk) : Prop where
  root : ∃ there, disk.ask (Path.ofText o.path) Node.isDirectory = .ok there
  sought : ∃ paths, Discovery.run disk (Path.ofText o.path) o.suffixes = .ok paths
  place : ∀ db ∈ o.database?, ∃ there, disk.ask db.parent (fun _ => true) = .ok there
  cache : ∀ db ∈ o.database?, db.hasNull = false
  summary : ∀ output ∈ o.summaryOutput.filter (· != ""), (Path.ofText output).hasNull = false
  files : ∀ path ∈ o.files disk, (Path.ofText path).hasNull = false
  few : o.Summarizes → (o.files disk).length < 10 ^ Scalar.digitLimit

/-- The files have contents that occur, the database can be relied on, and it is none of the files. -/
structure Options.Proper (o : Options) (clock : Clock) (disk : Disk) (occurs : List UInt8 → Prop) : Prop
    extends o.Regular disk where
  valid : clock.Valid
  ordinary : Ordinary occurs
  occur : ∀ path ∈ o.files disk, ∀ data,
    Build.readWithin disk (Path.ofText o.path) path = .ok data → occurs data
  reliable : ∀ db ∈ o.database?, Reliable (Attested occurs) db disk
  elsewhere : ∀ db ∈ o.database?, ∀ path ∈ o.files disk, ∀ names,
    disk.locate (Path.ofText o.path ++ Path.ofText path) = .ok names → disk.fileForWriting db ≠ .ok names

/-! ### What comes of one -/

/-- A file cannot be read, decoded or parsed. -/
inductive Unfit (disk : Disk) (root : Path) (path : String) : Prop
  | unread {fault : Disk.Fault} {place : Path}
      (unread : Build.readWithin disk root path = .error (.disk fault place))
  | undecoded {data : List UInt8} {fault : Text.Utf8.Fault}
      (read : Build.readWithin disk root path = .ok data) (undecoded : Text.Utf8.decode data = .error fault)
  | unparsed {data : List UInt8} {text : List Char} {detail : String}
      (read : Build.readWithin disk root path = .ok data) (decode : Text.Utf8.decode data = .ok text)
      (unparsed : (Check.run path (String.ofList text)).result = .error detail)

/-- A build begins and comes to its end with a report. -/
def Options.Finishes (o : Options) (clock : Clock) (disk : Disk) (report : Report) (w : World Storage) : Prop :=
  o.Begins disk ∧ build o clock (world o disk) = .ok report w

/-- What keeps a build from having an exit code that speaks of its files. -/
inductive Options.Thwarted (o : Options) (clock : Clock) (disk : Disk) : Prop
  /-- The root is no directory. -/
  | rootless (missing : disk.ask (Path.ofText o.path) Node.isDirectory = .ok false)
  /-- The directory of the database is not there. -/
  | placeless {db : Path} (named : o.database? = some db)
      (missing : disk.ask db.parent (fun _ => true) = .ok false)
  /-- The database cannot be emptied. -/
  | unemptied {fault : Cache.Fault} {w : World Storage} (begins : o.Begins disk)
      (discarded : discard o (ready o.verbosity.threshold o disk) = .error (.cache fault) w)
  /-- A lookup or a store fails at one of the files that are taken up. -/
  | faulty {w : World Storage} (begins : o.Begins disk)
      (discarded : discard o (ready o.verbosity.threshold o disk) = .ok () w)
      (faulty : Faulty (project o clock disk)
        (Build.visits (project o clock disk) o.continueOnError (o.files disk) w))
  /-- The build comes to its end, and its summary cannot be written. -/
  | undelivered {report : Report} {w : World Storage} {output : String}
      (finishes : o.Finishes clock disk report w) (wanted : output ∈ o.summaryOutput.filter (· != ""))
      (unwritable : Unwritable w.store.disk (Path.ofText output))

open Classical in
/-- The exit code of a command line. -/
noncomputable def Options.code (o : Options) (clock : Clock) (disk : Disk) : Nat :=
  if o.Thwarted clock disk then 2
  else if ∃ path ∈ o.files disk, Unfit disk (Path.ofText o.path) path then 1
  else 0

/-- The summary is not written over a file. -/
def Options.Spares (o : Options) (disk : Disk) (path : String) : Prop :=
  ∀ output ∈ o.summaryOutput.filter (· != ""), ∀ names,
    disk.locate (Path.ofText o.path ++ Path.ofText path) = .ok names →
      disk.fileForWriting (Path.ofText output) ≠ .ok names

/-- Everything that a command line says by its exit code and its summary. -/
structure Exits (o : Options) (clock : Clock) (disk : Disk) (occurs : List UInt8 → Prop)
    (outcome : Outcome) : Prop where
  code : outcome.ending = .ok (o.code clock disk)
  /-- A build that does not come to its end leaves every file alone but that of the database. -/
  aborted : (∀ report w, ¬ o.Finishes clock disk report w) → ∀ {names content},
    disk.top.at? names = some (.file content) → (∀ db ∈ o.database?, disk.fileForWriting db ≠ .ok names) →
      outcome.disk.top.at? names = some (.file content)
  /-- The records and the rejections of a report are those of the files, each of them once. -/
  covers : ∀ {report w}, o.Finishes clock disk report w →
    (report.records.map FileRecord.path ++ report.failures.map Rejection.path).Perm (o.files disk)
  status : ∀ {report w}, o.Finishes clock disk report w →
    (report.status = "completed_with_errors" ↔ report.failures ≠ [] ∨
      ∃ record ∈ report.records, ∃ p ∈ record.problems, p.severity.reaches .error = true)
  /-- The summary is in its file, unless it cannot be written. -/
  written : ∀ {report w output}, o.Finishes clock disk report w →
    output ∈ o.summaryOutput.filter (· != "") → ¬ Unwritable w.store.disk (Path.ofText output) →
      ∃ names summary, Summary.render report = .ok summary ∧
        outcome.disk.fileForWriting (Path.ofText output) = .ok names ∧
        outcome.disk.top.at? names = some (.file (Summary.content summary))
  /-- After exit code 0, a database that lasts holds a record of the content of every file. -/
  current : ∀ {db}, o.database? = some db → db.text ≠ ":memory:" → outcome.ending = .ok 0 →
    o.Apart outcome.disk → ∀ path ∈ o.files disk, o.Spares outcome.disk path → ∃ data record,
      Build.readWithin outcome.disk (Path.ofText o.path) path = .ok data ∧
      held db outcome.disk path = .ok (some record) ∧ record.fingerprint = Digest.fingerprint data
  /-- Where all databases could be relied on, they still can. -/
  reliable : ReliableThroughout (Attested occurs) disk → ReliableThroughout (Attested occurs) outcome.disk

/-! ### Files -/

/-- A file is rejected if it is unfit. -/
theorem rejection_iff : ((project o clock disk).rejection? path).isSome ↔ Unfit disk (Path.ofText o.path) path := by
  have reads := congrFun (read_project o clock disk) path
  rw [Option.isSome_iff_exists]
  simp only [Build.Project.rejection?_eq_some_iff]
  constructor
  · rintro ⟨r, judged⟩
    unfold Build.Project.judge at judged
    rw [reads] at judged
    split at judged
    · cases judged
    · next fault place unread => exact .unread unread
    · next data read =>
        split at judged
        · next fault undecoded => exact .undecoded read undecoded
        · next text decode =>
            split at judged
            · next detail unparsed => exact .unparsed read decode unparsed
            · cases judged
  · intro unfit
    cases unfit with
    | @unread fault place unread =>
        exact ⟨⟨path, fault.describe place⟩, by simp only [Build.Project.judge, reads, unread]⟩
    | @undecoded data fault read undecoded =>
        exact ⟨⟨path, fault.message⟩, by simp only [Build.Project.judge, reads, read, undecoded]⟩
    | @unparsed data text detail read decode unparsed =>
        have examines : ((project o clock disk).examine path (String.ofList text)).result = .error detail :=
          unparsed
        exact ⟨⟨path, detail⟩, by simp only [Build.Project.judge, reads, read, decode, examines]⟩

theorem append_hasNull {root place : Path} (clean : root.hasNull = false) (clean' : place.hasNull = false) :
    (root ++ place).hasNull = false := by
  show (root.append place).hasNull = false
  unfold Path.append
  split
  · rw [Path.hasNull] at clean clean' ⊢
    rw [List.any_append, clean, clean', Bool.or_self]
  · exact clean'

/-- The files of a proper command line can be read and judged. -/
theorem Options.Proper.sound (proper : o.Proper clock disk occurs) (begins : o.Begins disk) :
    ∀ path ∈ o.files disk, (project o clock disk).Sound (Attested occurs) path := by
  intro path member
  have occur : ∀ data, (project o clock disk).read path = .ok data → occurs data := by
    rw [read_project]
    exact proper.occur path member
  refine sound_of_ordinary proper.ordinary rfl proper.valid ?_ occur
  have root : (Path.ofText o.path).hasNull = false := by
    by_contra null
    have asked := begins.root
    rw [Disk.ask, if_pos (by simpa using null)] at asked
    cases asked
  rw [read_project, Build.readWithin, append_hasNull root (proper.files path member)]
  rw [if_neg Bool.false_ne_true]
  split <;> (intro named; cases named)

/-! ### The storage -/

/-- The records in the storage of a build are attested, as far as they can be looked up. -/
def Options.Relies (o : Options) (occurs : List UInt8 → Prop) (s : Storage) : Prop :=
  match o.database? with
  | some db => Reliable (Attested occurs) db s.disk
  | none => ∀ path record, s.memory.lookup path = some record → Attested occurs path record

/-- The cache of a proper command line is honest. -/
theorem honest_cache (ordinary : Ordinary occurs) (clean : ∀ db ∈ o.database?, db.hasNull = false) :
    o.cache.Honest (o.Relies occurs) (Attested occurs) := by
  unfold Options.cache Options.Relies
  cases named : o.database? with
  | none => exact FileCache.memory_honest
  | some db => exact FileCache.database_honest (keepable_attested ordinary) (clean db named)

/-- Nothing but the database has changed on the disk. -/
def Options.Confines (o : Options) (disk : Disk) (s : Storage) : Prop :=
  match o.database? with
  | some db => Confined db disk s.disk
  | none => s.disk = disk

theorem Options.Confines.cases {s : Storage} (confines : o.Confines disk s) :
    s.disk = disk ∨ ∃ db, o.database? = some db ∧ Confined db disk s.disk := by
  unfold Options.Confines at confines
  cases named : o.database? with
  | none =>
      rw [named] at confines
      exact .inl confines
  | some db =>
      rw [named] at confines
      exact .inr ⟨db, rfl, confines⟩

theorem Options.Confines.extends {s : Storage} (confines : o.Confines disk s) : Extends disk s.disk := by
  obtain same | ⟨db, -, confined⟩ := confines.cases
  · rw [same]
    exact .refl disk
  · exact Confined.extends confined

/-- A file stays that is not the database. -/
theorem Options.Confines.at? {s : Storage} {names : List String} {content : Content}
    (confines : o.Confines disk s) (there : disk.top.at? names = some (.file content))
    (other : ∀ db ∈ o.database?, disk.fileForWriting db ≠ .ok names) :
    s.disk.top.at? names = some (.file content) := by
  obtain same | ⟨db, named, confined⟩ := confines.cases
  · rw [same, there]
  · exact Confined.at? confined there (other db named)

/-- Before a build, a database is emptied or nothing is done. -/
theorem discard_cases (o : Options) (w : World Storage) :
    discard o w = .ok () w ∨ ∃ db, o.database? = some db ∧
      discard o w = Build.onCache (Storage.onDisk (clear db))
        { w with exchange := w.exchange.observe (.logged (emptying o)) } := by
  cases named : o.database? with
  | none =>
      refine .inl ?_
      rw [discard, named]
      rfl
  | some db =>
      by_cases anew : o.rebuild = true
      · exact .inr ⟨db, rfl, by rw [← discardAmid_calm, discardAmid_apply named anew]; rfl⟩
      · refine .inl ?_
        rw [discard, named]
        dsimp only
        rw [if_neg anew]
        rfl

/-- What fails before a build is the emptying of its database. -/
theorem clear_of_discard {failure : Failure} (failed : discard o w = .error failure w') :
    ∃ db, o.database? = some db ∧ answer (clear db w.store.disk) = .error failure := by
  obtain same | ⟨db, named, same⟩ := discard_cases o w
  · cases same.symm.trans failed
  · have coming := congrArg answer (same.symm.trans failed)
    rw [answer_error, Build.answer_onCache, Storage.answer_onDisk] at coming
    exact ⟨db, named, coming⟩

/-- Emptying a database fails by reporting a fault only. -/
theorem cache_of_discard (clean : ∀ db ∈ o.database?, db.hasNull = false) {failure : Failure}
    (failed : discard o w = .error failure w') : ∃ fault, failure = .cache fault := by
  obtain ⟨db, named, coming⟩ := clear_of_discard failed
  exact Cache.Database.cache_of_clearAmid (clean db named) Cache.Trouble.refuses_calm
    (eq_error_of_answer coming)

/-- What emptying leaves can be relied on. -/
theorem relies_discard (relies : o.Relies occurs w.store) :
    o.Relies occurs (endState (discard o w)).store := by
  obtain same | ⟨db, named, same⟩ := discard_cases o w
  · rw [same]
    exact relies
  · unfold Options.Relies at relies ⊢
    rw [named] at relies ⊢
    rw [same, Build.store_onCache, Storage.endState_onDisk]
    exact relies.clear

/-- Emptying a database changes no other file. -/
theorem confines_discard (o : Options) (w : World Storage) :
    o.Confines w.store.disk (endState (discard o w)).store := by
  unfold Options.Confines
  obtain same | ⟨db, named, same⟩ := discard_cases o w
  · rw [same]
    cases o.database? with
    | none => rfl
    | some db => exact .same
  · rw [named, same, Build.store_onCache, Storage.endState_onDisk]
    exact Cache.Database.confined_clear db w.store.disk

/-- A console stays wired where a database is emptied. -/
theorem wired_discard {threshold : Severity} (wired : Wired 0 0 threshold w.exchange)
    (done : discard o w = .ok () w') : Wired 0 0 threshold w'.exchange := by
  have logs := logs_discard o w
  rw [done] at logs
  have silent : Exchange.Shows 0 w.exchange w'.exchange [] := .logs logs
  exact wired.of_buses silent.buses

/-! ### A build -/

/-- The ways in which a build comes to something: its database cannot be emptied, or a run ends. -/
inductive Options.Builds (o : Options) (clock : Clock) (disk : Disk) :
    EStateM.Result Failure (World Storage) Report → Prop
  | unemptied {fault : Cache.Fault} {w : World Storage}
      (discarded : discard o (ready o.verbosity.threshold o disk) = .error (.cache fault) w) :
      Builds o clock disk (.error (.cache fault) w)
  | emptied {w : World Storage} {result : EStateM.Result Failure (World Storage) Report}
      (discarded : discard o (ready o.verbosity.threshold o disk) = .ok () w)
      (ran : Build.run (project o clock disk) o.continueOnError (o.files disk) w = result)
      (ends : Ends (project o clock disk) o.continueOnError (o.files disk)
        (Build.visits (project o clock disk) o.continueOnError (o.files disk) w) result) :
      Builds o clock disk result

theorem build_apply (o : Options) (clock : Clock) (disk : Disk) :
    build o clock (world o disk) =
      match discard o (ready o.verbosity.threshold o disk) with
      | .ok _ w => Build.run (project o clock disk) o.continueOnError (o.files disk) w
      | .error failure w => .error failure w := by
  have begun := build_ready o.verbosity.threshold o clock disk
  rw [bind_apply] at begun
  exact begun.trans (by cases discard o (ready o.verbosity.threshold o disk) <;> rfl)

/-- A build that comes to its end has emptied its database and run. -/
theorem run_of_built (built : build o clock (world o disk) = .ok report w') :
    ∃ w, discard o (ready o.verbosity.threshold o disk) = .ok () w ∧
      Build.run (project o clock disk) o.continueOnError (o.files disk) w = .ok report w' := by
  rw [build_apply] at built
  cases discarded : discard o (ready o.verbosity.threshold o disk) with
  | error failure w =>
      rw [discarded] at built
      cases built
  | ok _ w =>
      rw [discarded] at built
      exact ⟨w, rfl, built⟩

/-- A build leaves what emptying its database leaves and what runs keep. -/
theorem store_build {P : Storage → Prop}
    (discarded : P (endState (discard o (ready o.verbosity.threshold o disk))).store)
    (kept : ∀ w, P w.store →
      P (endState (Build.run (project o clock disk) o.continueOnError (o.files disk) w)).store) :
    P (endState (build o clock (world o disk))).store := by
  rw [build_apply]
  cases emptied : discard o (ready o.verbosity.threshold o disk) with
  | error failure w =>
      rw [emptied] at discarded
      exact discarded
  | ok _ w =>
      rw [emptied] at discarded
      exact kept w discarded

/-- The storage that a proper command line begins with can be relied on. -/
theorem Options.Proper.relies (proper : o.Proper clock disk occurs) :
    o.Relies occurs (ready o.verbosity.threshold o disk).store := by
  have reliable := proper.reliable
  unfold Options.Relies
  cases named : o.database? with
  | none => exact fun path record found => nomatch found
  | some db => exact reliable db named

/-- **What comes of the build of a proper command line.** -/
theorem Options.Proper.builds (proper : o.Proper clock disk occurs) (begins : o.Begins disk) :
    o.Builds clock disk (build o clock (world o disk)) := by
  have relies := relies_discard (proper.relies)
  rw [build_apply]
  cases discarded : discard o (ready o.verbosity.threshold o disk) with
  | error failure w =>
      obtain ⟨fault, rfl⟩ := cache_of_discard proper.cache discarded
      exact .unemptied discarded
  | ok _ w =>
      rw [discarded] at relies
      have wired := wired_discard (wired_ready _ o disk) discarded
      exact .emptied discarded rfl (Build.run_ends (honest_cache proper.ordinary proper.cache)
        (proper.sound begins) relies wired Check.renders_run)

/-- A build leaves a storage that can be relied on. -/
theorem relies_build (proper : o.Proper clock disk occurs) (begins : o.Begins disk) :
    o.Relies occurs (endState (build o clock (world o disk))).store :=
  store_build (relies_discard proper.relies) fun _ =>
    Build.good_run (honest_cache proper.ordinary proper.cache) (proper.sound begins)

/-- Where there is no database nothing may change, and otherwise no other file. -/
theorem Options.Confines.next {s s' : Storage} (confines : o.Confines disk s)
    (still : o.database? = none → s'.disk = s.disk)
    (step : ∀ db, o.database? = some db → Confined db s.disk s'.disk) : o.Confines disk s' := by
  unfold Options.Confines at *
  cases named : o.database? with
  | none =>
      rw [named] at confines
      rw [still named]
      exact confines
  | some db =>
      rw [named] at confines
      exact confines.trans (step db named)

theorem Options.Confines.lookup {s : Storage} (confines : o.Confines disk s) (path : String) :
    o.Confines disk (endState (o.cache.lookup path s)) := by
  refine confines.next (fun named => by rw [Options.cache, named]; rfl) fun db named => ?_
  rw [cache_database named]
  show Confined db s.disk (endState (Storage.onDisk _ s)).disk
  rw [Storage.endState_onDisk]
  exact Cache.Database.confined_lookup db path s.disk

theorem Options.Confines.store {s : Storage} (confines : o.Confines disk s) (path : String)
    (record : FileRecord) : o.Confines disk (endState (o.cache.store path record s)) := by
  refine confines.next (fun named => by rw [Options.cache, named]; rfl) fun db named => ?_
  rw [cache_database named]
  show Confined db s.disk (endState (Storage.onDisk _ s)).disk
  rw [Storage.endState_onDisk]
  exact Cache.Database.confined_store db path record s.disk

/-- **A build changes no file but its database.** -/
theorem confines_build (o : Options) (clock : Clock) (disk : Disk) :
    o.Confines disk (endState (build o clock (world o disk))).store :=
  store_build (confines_discard o (ready o.verbosity.threshold o disk)) fun _ =>
    Build.store_run (P := o.Confines disk) (fun path _ held => held.lookup path)
      (fun path record _ held => held.store path record)

/-! ### The summary -/

/-- There is a summary of a report that gives the verdict on every file. -/
theorem Options.Proper.render (proper : o.Proper clock disk occurs)
    (reports : Reports (project o clock disk) (o.files disk) report) (countable : Summary.Countable report) :
    ∃ summary, Summary.render report = .ok summary := by
  refine Summary.render_ok countable fun record member p within => ?_
  have finding : record.finding ∈ (o.files disk).filterMap fun path =>
      ((project o clock disk).judge path).toOption := by
    rw [← reports.records]
    exact List.mem_map_of_mem member
  obtain ⟨path, taken, judged⟩ := List.mem_filterMap.mp finding
  have judged : (project o clock disk).judge path = .ok record.finding := by
    revert judged
    cases (project o clock disk).judge path with
    | error failure => nofun
    | ok found => exact fun same => congrArg Except.ok (Option.some.inj same)
  obtain ⟨-, data, text, read, decode, -, examined⟩ := Build.examined_of_judge judged
  rw [read_project] at read
  have modest := proper.ordinary.modest (proper.occur path taken data read) decode examined
  exact ⟨Check.renders_run examined p within, modest.lines p within⟩

/-- A build that comes to its end has its exit code from the summary or from its report. -/
theorem finished_cases (clean : ∀ output ∈ o.summaryOutput.filter (· != ""), (Path.ofText output).hasNull = false)
    (renders : o.Summarizes → ∃ summary, Summary.render report = .ok summary) (w : World Storage) :
    ((∃ output ∈ o.summaryOutput.filter (· != ""), Unwritable w.store.disk (Path.ofText output)) ∧
      (finished o w report).ending = .ok 2) ∨
    ((∀ output ∈ o.summaryOutput.filter (· != ""), ¬ Unwritable w.store.disk (Path.ofText output)) ∧
      (finished o w report).ending = .ok (exitCode report)) := by
  unfold Options.Summarizes at renders
  unfold finished
  cases wanted : o.summaryOutput.filter (· != "") with
  | none => exact .inr ⟨nofun, rfl⟩
  | some output =>
      rw [wanted] at renders clean
      obtain ⟨summary, rendered⟩ := renders rfl
      obtain ⟨unwritable, detail, problem⟩ | ⟨writable, problem, -⟩ :=
        @deliver_cases w.store.disk (Path.ofText output) report summary (clean output rfl) rendered
      · refine .inl ⟨⟨output, rfl, unwritable⟩, ?_⟩
        dsimp only
        rw [problem]
        rfl
      · refine .inr ⟨?_, ?_⟩
        · rintro _ ⟨⟩
          exact writable
        · dsimp only
          rw [problem]
          rfl

/-- A summary that can be written is in its file. -/
theorem written_finished {output : String} (clean : (Path.ofText output).hasNull = false)
    (wanted : output ∈ o.summaryOutput.filter (· != "")) {summary : List Char}
    (rendered : Summary.render report = .ok summary)
    (writable : ¬ Unwritable w.store.disk (Path.ofText output)) :
    ∃ names, (finished o w report).disk.fileForWriting (Path.ofText output) = .ok names ∧
      (finished o w report).disk.top.at? names = some (.file (Summary.content summary)) := by
  have left := disk_finished o w report
  rw [Option.mem_def.mp wanted] at left
  obtain ⟨unwritable, -⟩ | ⟨-, -, made, names, opened, delivered⟩ :=
    @deliver_cases w.store.disk (Path.ofText output) report summary clean rendered
  · exact absurd unwritable writable
  · dsimp only at left
    rw [left, delivered]
    exact ⟨names, Disk.fileForWriting_put opened _, (Disk.opened opened).at?_put _⟩

/-! ### The exit code -/

theorem code_of_unfit (free : ¬ o.Thwarted clock disk) (member : path ∈ o.files disk)
    (unfit : Unfit disk (Path.ofText o.path) path) : o.code clock disk = 1 := by
  rw [Options.code, if_neg free, if_pos ⟨path, member, unfit⟩]

theorem code_of_fit (free : ¬ o.Thwarted clock disk)
    (fit : ∀ path ∈ o.files disk, ¬ Unfit disk (Path.ofText o.path) path) : o.code clock disk = 0 := by
  rw [Options.code, if_neg free, if_neg]
  rintro ⟨path, member, unfit⟩
  exact fit path member unfit

/-- A build is not thwarted in which nothing fails but files. -/
theorem not_thwarted (begins : o.Begins disk)
    (discarded : discard o (ready o.verbosity.threshold o disk) = .ok () w)
    (healthy : ¬ Faulty (project o clock disk)
      (Build.visits (project o clock disk) o.continueOnError (o.files disk) w))
    (delivered : ∀ {report w'}, build o clock (world o disk) = .ok report w' →
      ∀ output ∈ o.summaryOutput.filter (· != ""), ¬ Unwritable w'.store.disk (Path.ofText output)) :
    ¬ o.Thwarted clock disk := by
  rintro (missing | ⟨named, missing⟩ | ⟨-, failed⟩ | ⟨-, discarded', faulty⟩ | ⟨finishes, wanted, unwritable⟩)
  · cases begins.root.symm.trans missing
  · cases (begins.place _ named).symm.trans missing
  · cases discarded.symm.trans failed
  · cases discarded.symm.trans discarded'
    exact healthy faulty
  · exact delivered finishes.2 _ wanted unwritable

/-- **The exit code of a build.** -/
theorem code_begun (proper : o.Proper clock disk occurs) (begins : o.Begins disk) :
    (runBuild o clock disk).ending = .ok (o.code clock disk) := by
  have concludes : runBuild o clock disk = concluded o (build o clock (world o disk)) := rfl
  have coming := proper.builds begins
  rw [concludes]
  generalize built : build o clock (world o disk) = result at coming
  cases coming with
  | unemptied discarded => exact congrArg Except.ok (if_pos (.unemptied begins discarded)).symm
  | @emptied w result discarded ran ends =>
      cases ends with
      | faulty faulty => exact congrArg Except.ok (if_pos (.faulty begins discarded faulty)).symm
      | @rejected path r w' healthy stops member judged =>
          have free := not_thwarted begins discarded healthy fun done => nomatch built.symm.trans done
          have unfit : Unfit disk (Path.ofText o.path) path :=
            rejection_iff.mp (Option.isSome_iff_exists.mpr ⟨r, Build.Project.rejection?_eq_some_iff.mpr judged⟩)
          exact congrArg Except.ok (code_of_unfit free member unfit).symm
      | @finished report w' healthy reports =>
          have renders : o.Summarizes → ∃ summary, Summary.render report = .ok summary :=
            fun asked => proper.render reports (countable_of_run (proper.few asked) ran).1
          obtain ⟨⟨output, wanted, unwritable⟩, ending⟩ | ⟨writable, ending⟩ :=
            finished_cases proper.summary renders w'
          · have thwarted : o.Thwarted clock disk := .undelivered ⟨begins, built⟩ wanted unwritable
            exact ending.trans (congrArg Except.ok (if_pos thwarted).symm)
          · have free := not_thwarted begins discarded healthy fun done => by
              cases built.symm.trans done
              exact writable
            refine ending.trans (congrArg Except.ok ?_)
            by_cases none_ : report.failures = []
            · have fit := reports.failures_eq_nil_iff.mp none_
              rw [exitCode, none_, code_of_fit free fun path member unfit => ?_]
              · rfl
              · rw [← @rejection_iff o clock, fit path member] at unfit
                cases unfit
            · have unfit : ∃ path ∈ o.files disk, Unfit disk (Path.ofText o.path) path := by
                by_contra other
                refine none_ (reports.failures_eq_nil_iff.mpr fun path member => ?_)
                rw [← Option.not_isSome_iff_eq_none, rejection_iff]
                exact fun unfit => other ⟨path, member, unfit⟩
              obtain ⟨path, member, unfit⟩ := unfit
              rw [exitCode, if_neg (by rwa [List.isEmpty_iff]), code_of_unfit free member unfit]

/-- A command line whose build does not begin says so, and changes nothing. -/
theorem runOptions_unbegun (regular : o.Regular disk) (unbegun : ¬ o.Begins disk) :
    o.Thwarted clock disk ∧ (runOptions o clock disk).ending = .ok 2 ∧ (runOptions o clock disk).disk = disk := by
  obtain ⟨there, asked⟩ := regular.root
  cases there with
  | false =>
      refine ⟨.rootless asked, ?_, ?_⟩ <;> rw [runOptions, asked] <;> rfl
  | true =>
      cases named : o.database? with
      | none =>
          refine absurd ⟨asked, fun db member => ?_, regular.sought⟩ unbegun
          cases named.symm.trans member
      | some db =>
          obtain ⟨there, placed⟩ := regular.place db named
          cases there with
          | false =>
              refine ⟨.placeless named placed, ?_, ?_⟩ <;>
                rw [runOptions_named named, asked, placed] <;> rfl
          | true =>
              refine absurd ⟨asked, fun db' member => ?_, regular.sought⟩ unbegun
              obtain rfl := Option.some.inj (named.symm.trans member)
              exact placed

/-! ### What is left -/

/-- A build with exit code 0 came to its end, and no file was rejected. -/
theorem clean_of_zero {result : EStateM.Result Failure (World Storage) Report}
    (zero : (concluded o result).ending = .ok 0) : ∃ report w, result = .ok report w ∧ report.failures = [] := by
  cases result with
  | error failure w => cases failure <;> cases zero
  | ok report w =>
      refine ⟨report, w, rfl, ?_⟩
      have clean : exitCode report = 0 → report.failures = [] := by
        unfold exitCode
        split
        · next empty => exact fun _ => List.isEmpty_iff.mp empty
        · nofun
      unfold concluded finished at zero
      revert zero
      cases o.summaryOutput.filter (· != "") with
      | none => exact fun zero => clean (Except.ok.inj zero)
      | some output =>
          dsimp only
          cases (deliver w.store.disk (Path.ofText output) report).problem with
          | none => exact fun zero => clean (Except.ok.inj zero)
          | some problem => cases problem <;> nofun

/-- A file is read as before after a build that came to its end, unless the summary is written over it. -/
theorem read_finished {data : List UInt8} (proper : o.Proper clock disk occurs) (member : path ∈ o.files disk)
    (confines : o.Confines disk w.store) (spared : o.Spares (finished o w report).disk path)
    (read : Build.readWithin disk (Path.ofText o.path) path = .ok data) :
    Build.readWithin (finished o w report).disk (Path.ofText o.path) path = .ok data := by
  have left := disk_finished o w report
  unfold Options.Spares at spared
  -- both the run and the delivery of the summary extend the tree and leave the file
  have grown : Extends disk (finished o w report).disk := by
    rw [left]
    split
    · exact confines.extends
    · exact confines.extends.trans (extends_deliver _ _ _)
  have kept : ∀ {names content}, disk.locate (Path.ofText o.path ++ Path.ofText path) = .ok names →
      disk.top.at? names = some (.file content) →
        (finished o w report).disk.top.at? names = some (.file content) := by
    intro names content located there
    have still := confines.at? there fun db named => proper.elsewhere db named path member names located
    have located' := Disk.locate_ok_extends grown located
    rw [left] at spared located' ⊢
    cases wanted : o.summaryOutput.filter (· != "") with
    | none => exact still
    | some output =>
        rw [wanted] at spared located'
        exact at?_deliver still (spared output rfl names located')
  simp only [Build.readWithin, Disk.read] at read ⊢
  split at read
  · cases read
  · next named =>
      cases found : disk.contentAt (Path.ofText o.path ++ Path.ofText path) with
      | error fault =>
          rw [found] at read
          cases read
      | ok content =>
          rw [found] at read
          rw [if_neg named, Disk.contentAt_of_kept grown found kept]
          exact read

/-- **After exit code 0 the database holds a record of the content of every file**, if it lasts, and the
summary is neither written over it nor over that file. -/
theorem current_of_zero (proper : o.Proper clock disk occurs) (named : o.database? = some db)
    (lasting : db.text ≠ ":memory:") (zero : (runBuild o clock disk).ending = .ok 0)
    (apart : o.Apart (runBuild o clock disk).disk) :
    ∀ path ∈ o.files disk, o.Spares (runBuild o clock disk).disk path → ∃ data record,
      Build.readWithin (runBuild o clock disk).disk (Path.ofText o.path) path = .ok data ∧
      held db (runBuild o clock disk).disk path = .ok (some record) ∧
      record.fingerprint = Digest.fingerprint data := by
  have concludes : runBuild o clock disk = concluded o (build o clock (world o disk)) := rfl
  have confines := confines_build o clock disk
  rw [concludes] at zero apart ⊢
  obtain ⟨report, w', built, clean⟩ := clean_of_zero zero
  rw [built] at apart confines ⊢
  change o.Apart (finished o w' report).disk at apart
  obtain ⟨w, discarded, ran⟩ := run_of_built built
  have faithful : (project o clock disk).cache.Faithful (Ledger.database db) :=
    faithful_project named lasting
  have steady : (project o clock disk).cache.Steady (Ledger.database db) (Outlook.database db) :=
    steady_project named lasting
  have fits : (project o clock disk).Fits (Ledger.database db) := fits_project proper.valid
  have legal : (Ledger.database db).legal w.store := trivial
  intro path member spared
  obtain ⟨data, record, read, kept, print⟩ :=
    Build.current_of_clean faithful fits legal ran clean path member
  have stands : Stands db w'.store.disk :=
    Build.stands_of_run faithful steady fits legal member read ran
  rw [read_project] at read
  have same := congrFun (stands_finished named stands apart).2 path
  refine ⟨data, record, read_finished proper member confines spared read, ?_, print⟩
  exact (Cache.Database.held_of_glimpse same).trans (Ledger.held_of_kept kept)

/-- A build that leaves a storage that can be relied on leaves no other databases either. -/
theorem reliable_of_relies (throughout : ReliableThroughout (Attested occurs) disk)
    (relies : o.Relies occurs (endState (build o clock (world o disk))).store) :
    ReliableThroughout (Attested occurs) (runBuild o clock disk).disk := by
  have concludes : runBuild o clock disk = concluded o (build o clock (world o disk)) := rfl
  have still : ReliableThroughout (Attested occurs) (endState (build o clock (world o disk))).store.disk := by
    have confines := confines_build o clock disk
    unfold Options.Relies at relies
    unfold Options.Confines at confines
    cases named : o.database? with
    | none =>
        rw [named] at confines
        rw [confines]
        exact throughout
    | some db =>
        rw [named] at relies confines
        exact throughout.confined confines relies
  rw [concludes]
  revert still
  cases build o clock (world o disk) with
  | error failure w =>
      intro still
      show ReliableThroughout _ (failed o w failure).disk
      rw [disk_failed]
      exact still
  | ok report w =>
      intro still
      show ReliableThroughout _ (finished o w report).disk
      rw [disk_finished]
      split
      · exact still
      · exact fun names t there => still names t (at?_of_deliver there)

/-- **Where all databases can be relied on, a build leaves only such.** -/
theorem reliable_runBuild (proper : o.Proper clock disk occurs) (begins : o.Begins disk)
    (throughout : ReliableThroughout (Attested occurs) disk) :
    ReliableThroughout (Attested occurs) (runBuild o clock disk).disk :=
  reliable_of_relies throughout (relies_build proper begins)

/-- The report of a proper command line gives the verdict on every file. -/
theorem reports_of_finishes (proper : o.Proper clock disk occurs) (finishes : o.Finishes clock disk report w) :
    Reports (project o clock disk) (o.files disk) report ∧
      (o.Summarizes → ∃ summary, Summary.render report = .ok summary) := by
  obtain ⟨begins, built⟩ := finishes
  have coming := proper.builds begins
  rw [built] at coming
  cases coming with
  | emptied discarded ran ends =>
      cases ends with
      | finished healthy reports =>
          exact ⟨reports, fun asked => proper.render reports (countable_of_run (proper.few asked) ran).1⟩

/-- **What comes of a proper command line.** -/
theorem Options.Proper.exits (proper : o.Proper clock disk occurs) :
    Exits o clock disk occurs (runOptions o clock disk) := by
  by_cases begins : o.Begins disk
  · have concludes : runBuild o clock disk = concluded o (build o clock (world o disk)) := rfl
    have same := @runOptions_begun o clock disk begins
    have confines := confines_build o clock disk
    rw [same]
    refine ⟨code_begun proper begins, ?_, fun finishes => ?_, fun _ => Report.status_iff _, ?_, ?_,
      reliable_runBuild proper begins⟩
    · intro unfinished names content there other
      rw [concludes]
      cases built : build o clock (world o disk) with
      | ok report w => exact absurd ⟨begins, built⟩ (unfinished report w)
      | error failure w =>
          rw [built] at confines
          show (failed o w failure).disk.top.at? names = _
          rw [disk_failed]
          exact confines.at? there other
    · exact (reports_of_finishes proper finishes).1.covers
    · intro report w output finishes wanted writable
      have asked : o.Summarizes := by
        rw [Options.Summarizes, Option.mem_def.mp wanted]
        rfl
      obtain ⟨summary, rendered⟩ := (reports_of_finishes proper finishes).2 asked
      rw [finishes.2] at confines
      obtain ⟨names, opened, there⟩ := written_finished (proper.summary output wanted) wanted rendered
        writable
      rw [concludes, finishes.2]
      exact ⟨names, summary, rendered, opened, there⟩
    · intro db named lasting zero apart
      exact current_of_zero proper named lasting zero apart
  · obtain ⟨thwarted, ending, left⟩ :=
      @runOptions_unbegun o clock disk proper.toRegular begins
    have code : o.code clock disk = 2 := if_pos thwarted
    refine ⟨ending.trans (congrArg Except.ok code.symm), ?_, fun finishes => absurd finishes.1 begins,
      fun finishes => absurd finishes.1 begins, fun finishes => absurd finishes.1 begins, ?_, ?_⟩
    · intro _ names content there _
      rw [left, there]
    · intro db _ _ zero
      cases ending.symm.trans zero
    · rw [left]
      exact id

/-! ### The command line -/

/-- **The exit code is exact.**  A command line that is accepted ends with the exit code that what it is
given settles: 2 where something is in the way, 1 where a file cannot be read, decoded or parsed, and 0
otherwise.  A build that does not come to its end changes no file but its database; otherwise the report
covers every file once, its status says whether anything in it is grave, and the summary is in its file,
unless it cannot be written.  After exit code 0 a database that lasts holds a record of the content of every
file, unless the summary is written over one or the other. -/
theorem exit_code_exact {argv : List String} (parsed : Options.parse argv = some o)
    (proper : o.Proper clock disk occurs) : Exits o clock disk occurs (run argv clock disk) := by
  rw [run_parsed parsed]
  exact proper.exits

/-! ### Two builds, the second with a file that cannot be decoded -/

/-- Contents of nothing and of a byte that begins no text. -/
def blank (data : List UInt8) : Prop := data = [] ∨ data = [0xff]

theorem ordinary_blank : Ordinary blank where
  distinguishes := by
    have apart : Digest.fingerprint [] ≠ Digest.fingerprint [0xff] := by decide +kernel
    rintro a b (rfl | rfl) (rfl | rfl) same
    · rfl
    · exact absurd same apart
    · exact absurd same.symm apart
    · rfl
  modest := by
    have undecoded : (Text.Utf8.decode [0xff]).toOption = none := by decide +kernel
    have parsed : (Source.parse []).toOption.map List.isEmpty = some true := by decide +kernel
    rintro path data text problems (rfl | rfl) decode examined
    · cases decode
      unfold Check.run Check.tree at examined
      rw [String.toList_ofList] at examined
      split at examined
      · cases examined
      · next body found =>
          split at found
          · cases found
          · have found : Source.parse [] = .ok body := found
            rw [found] at parsed
            obtain rfl := List.isEmpty_iff.mp (Option.some.inj parsed)
            obtain rfl := Except.ok.inj examined
            have least : 1 ≤ Cache.integerLimit := by decide
            refine ⟨least, fun p member n line => ?_⟩
            obtain rfl := List.mem_singleton.mp member
            obtain rfl := Option.some.inj line
            decide
    · rw [decode] at undecoded
      cases undecoded

/-- A disk after the project of one empty file was built. -/
def built : Disk := (runOptions (asked "db" "out") noon small).disk

/-- The same with another file, which cannot be decoded. -/
def spoilt : Disk := built.put ["work", "proj", "b.py"] (.file (.bytes [0xff]))

theorem files_spoilt : (asked "db" "out").files spoilt = ["a.py", "b.py"] := by decide +kernel

/-- There is no database yet. -/
theorem reliable_small : ReliableThroughout (Attested blank) small :=
  fun _ _ there => nomatch Disk.content_of_lone there

theorem proper_small : (asked "db" "out").Proper noon small blank where
  root := ⟨true, by decide +kernel⟩
  sought := ⟨["a.py"], by decide +kernel⟩
  place := by
    rintro db ⟨⟩
    exact ⟨true, by decide +kernel⟩
  cache := by
    rintro db ⟨⟩
    decide +kernel
  summary := by
    rintro output ⟨⟩
    decide +kernel
  files := by
    rw [files_small]
    decide +kernel
  few _ := by
    rw [files_small]
    decide +kernel
  valid := noon_valid
  ordinary := ordinary_blank
  occur := by
    have read : Build.readWithin small (Path.ofText "proj") "a.py" = .ok [] := by decide +kernel
    rw [files_small]
    intro path member data found
    obtain rfl := List.mem_singleton.mp member
    exact .inl (Except.ok.inj (read.symm.trans found)).symm
  reliable db _ := reliable_small.reliable db
  elsewhere := by
    have opened : small.fileForWriting (Path.ofText "db") = .ok ["work", "db"] := by decide +kernel
    have located : small.locate (Path.ofText "proj" ++ Path.ofText "a.py") =
        .ok ["work", "proj", "a.py"] := by
      decide +kernel
    rintro db ⟨⟩ path member names found same
    rw [files_small] at member
    obtain rfl := List.mem_singleton.mp member
    obtain rfl := Except.ok.inj (located.symm.trans found)
    exact absurd (Except.ok.inj (opened.symm.trans same)) (by decide)

/-- The database is as the first build has left it. -/
theorem reliable_spoilt : ReliableThroughout (Attested blank) spoilt := by
  intro names t there
  obtain before | ⟨-, other⟩ := Node.at?_of_put_file there
  · exact proper_small.exits.reliable reliable_small names t before
  · cases other

theorem proper_spoilt : (asked "db" "out").Proper noon spoilt blank where
  root := ⟨true, by decide +kernel⟩
  sought := ⟨["a.py", "b.py"], by decide +kernel⟩
  place := by
    rintro db ⟨⟩
    exact ⟨true, by decide +kernel⟩
  cache := proper_small.cache
  summary := proper_small.summary
  files := by
    rw [files_spoilt]
    decide +kernel
  few _ := by
    rw [files_spoilt]
    decide +kernel
  valid := noon_valid
  ordinary := ordinary_blank
  occur := by
    have read : Build.readWithin spoilt (Path.ofText "proj") "a.py" = .ok [] := by decide +kernel
    have read' : Build.readWithin spoilt (Path.ofText "proj") "b.py" = .ok [0xff] := by decide +kernel
    rw [files_spoilt]
    intro path member data found
    simp only [List.mem_cons, List.not_mem_nil, or_false] at member
    obtain rfl | rfl := member
    · exact .inl (Except.ok.inj (read.symm.trans found)).symm
    · exact .inr (Except.ok.inj (read'.symm.trans found)).symm
  reliable db _ := reliable_spoilt.reliable db
  elsewhere := by
    have opened : spoilt.fileForWriting (Path.ofText "db") = .ok ["work", "db"] := by decide +kernel
    have located : spoilt.locate (Path.ofText "proj" ++ Path.ofText "a.py") =
        .ok ["work", "proj", "a.py"] := by
      decide +kernel
    have located' : spoilt.locate (Path.ofText "proj" ++ Path.ofText "b.py") =
        .ok ["work", "proj", "b.py"] := by
      decide +kernel
    rintro db ⟨⟩ path member names found same
    rw [files_spoilt] at member
    simp only [List.mem_cons, List.not_mem_nil, or_false] at member
    obtain rfl | rfl := member
    · obtain rfl := Except.ok.inj (located.symm.trans found)
      exact absurd (Except.ok.inj (opened.symm.trans same)) (by decide)
    · obtain rfl := Except.ok.inj (located'.symm.trans found)
      exact absurd (Except.ok.inj (opened.symm.trans same)) (by decide)

/-- The second time a build ends at the new file, with the exit code for that, and leaves the summary that
the first one has written. -/
theorem exit_code_exact_spoilt :
    Exits (asked "db" "out") noon small blank (run (words "db" "out") noon small) ∧
    Exits (asked "db" "out") noon spoilt blank (run (words "db" "out") noon spoilt) ∧
    (run (words "db" "out") noon small).ending = .ok 0 ∧
    (run (words "db" "out") noon spoilt).ending = .ok 1 := by
  have parsed : Options.parse (words "db" "out") = some (asked "db" "out") := by decide +kernel
  exact ⟨exit_code_exact parsed proper_small, exit_code_exact parsed proper_spoilt, by decide +kernel,
    by decide +kernel⟩

/-- The fingerprint in the record of the file, if a database has one. -/
def kept (db : String) (disk : Disk) : Option String :=
  ((answer (Cache.Database.lookup (Path.ofText db) "a.py" disk)).toOption.join).map FileRecord.fingerprint

/-- Whether there is a database under a name. -/
def holdsDatabase (disk : Disk) (name : String) : Bool :=
  match disk.top.at? ["work", name] with
  | some (.file (.database _)) => true
  | _ => false

/-- The project with a second file, which cannot be decoded, and an empty file for a database. -/
def mixed : Disk :=
  (small.put ["work", "proj", "b.py"] (.file (.bytes [0xff]))).put ["work", "db"] (.file (.bytes []))

/-- **Where less comes of a command line.**  After exit code 0 there is no record if the database does not
last; there is no database if the summary is written over it; and there is a record of what the file is no
longer if the file is itself the database.  A build that is aborted changes the file of the summary if that
is the database.  There is no exit code if a name has a null character. -/
theorem zero_without_record :
    ((run (words ":memory:" "out") noon small).ending = .ok 0 ∧
      kept ":memory:" (run (words ":memory:" "out") noon small).disk = none) ∧
    ((run (words "db" "db") noon small).ending = .ok 0 ∧
      holdsDatabase (run (words "db" "db") noon small).disk "db" = false) ∧
    ((run (words "proj/a.py" "out") noon small).ending = .ok 0 ∧
      kept "proj/a.py" (run (words "proj/a.py" "out") noon small).disk = some (Digest.fingerprint []) ∧
      Build.readWithin (run (words "proj/a.py" "out") noon small).disk (Path.ofText "proj") "a.py" ≠ .ok []) ∧
    ((run (words "db" "db") noon mixed).ending = .ok 1 ∧
      (run (words "db" "db") noon mixed).disk.read (Path.ofText "db") ≠ mixed.read (Path.ofText "db")) ∧
    (run (words "d\x00b" "out") noon small).ending = .error .nullByte := by
  refine ⟨⟨?_, ?_⟩, ⟨?_, ?_⟩, ⟨?_, ?_, ?_⟩, ⟨?_, ?_⟩, ?_⟩ <;> decide +kernel

end Docwright.CommandLine
