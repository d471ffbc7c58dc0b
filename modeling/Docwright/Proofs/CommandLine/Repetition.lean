import Docwright.Proofs.Build.Repetition
import Docwright.Proofs.Cache.Glimpse
import Docwright.Proofs.Check.Texts
import Docwright.Proofs.CommandLine.Delivery
import Docwright.Proofs.CommandLine.Screens

/-!
# Repeating a command line

A command line that names a database is carried out again on the disk that it left.
`runOptions_again` says that it comes to the same end and shows the same lines, except
that every file is shown as a cached one.

The build itself repeats as any build does (`run_again`), for the database is a steady
cache and the exchange of a command line has one connected console.  What is left is
the disk: the first time only adds to it, so the project and the place of the database
are found again, and delivering the summary leaves a database that stands alone, unless
the summary is written over it.
-/

namespace Docwright.CommandLine

open Build (World Project)
open Cache.Database (Stands glimpse)
open Console (Shown screen?)
open Disk (Extends)

variable {o : Options} {db : Path} {clock clock' : Clock} {disk disk' : Disk}

/-! ### Where a build begins -/

/-- The files that a command line takes up. -/
def Options.files (o : Options) (disk : Disk) : List String :=
  Discovery.discover disk (Path.ofText o.path) o.suffixes

/-- An exchange with a bus and a console that is connected to it. -/
def connected (threshold : Severity) : Exchange :=
  endState (Exchange.connect 0 0 (Exchange.new 1 [threshold]))

theorem connect_new (threshold : Severity) :
    Exchange.connect 0 0 (Exchange.new 1 [threshold]) = .ok () (connected threshold) := rfl

/-- The world in which the first file is taken up. -/
def begun (o : Options) (disk : Disk) : World Storage :=
  ⟨⟨disk, []⟩, (connected o.verbosity.threshold).observe
    (.logged (Discovery.entry (Path.ofText o.path) (o.files disk))), 0, []⟩

/-- A build that empties no database is a run over the files that are there. -/
theorem build_eq (kept : o.rebuild = false) :
    build o clock (world o disk) =
      Build.run (project o clock disk) o.continueOnError (o.files disk) (begun o disk) := by
  have discarded : discard o = pure () := by
    unfold discard
    cases o.database? with
    | none => rfl
    | some db => simp only [kept, Bool.false_eq_true, if_false]
  have connecting : Build.onExchange (Exchange.connect 0 0) (world o disk) =
      .ok () ⟨⟨disk, []⟩, connected o.verbosity.threshold, 0, []⟩ := by
    rw [Build.onExchange, world, connect_new]
  unfold build
  rw [discarded, bind_ok connecting, bind_apply, get_apply]
  dsimp only
  rw [bind_apply, Build.log_apply]
  dsimp only
  rw [bind_apply, pure_apply]
  rfl

theorem mirrors_begun (o : Options) (disk disk' : Disk) :
    Mirrors o.verbosity.threshold (begun o disk).exchange (begun o disk').exchange where
  left := rfl
  right := rfl
  lines := ⟨[], rfl, rfl⟩

/-! ### The run and its repetition -/

/-- The files that a command line takes up are the same on two disks, with the same contents. -/
structure Options.Unchanged (o : Options) (disk disk' : Disk) : Prop where
  found : Discovery.run disk' (Path.ofText o.path) o.suffixes =
    Discovery.run disk (Path.ofText o.path) o.suffixes
  contents : ∀ path ∈ o.files disk, Build.readWithin disk' (Path.ofText o.path) path =
    Build.readWithin disk (Path.ofText o.path) path

theorem Options.Unchanged.files (unchanged : o.Unchanged disk disk') : o.files disk' = o.files disk := by
  rw [Options.files, Discovery.discover, unchanged.found]
  rfl

/-- The times of a clock can be read back. -/
def Clock.Valid (clock : Clock) : Prop := ∀ n, (clock n).Valid

theorem read_project (o : Options) (clock : Clock) (disk : Disk) :
    (project o clock disk).read = Build.readWithin disk (Path.ofText o.path) := rfl

/-- The cache of a command line that names a database. -/
theorem cache_database (named : o.database? = some db) : o.cache = .database db := by
  rw [Options.cache, named]

/-- The cache of a command line that names a database is faithful to it. -/
theorem faithful_project (named : o.database? = some db) (lasting : db.text ≠ ":memory:") :
    (project o clock disk).cache.Faithful (Ledger.database db) := by
  rw [show (project o clock disk).cache = .database db from cache_database named]
  exact FileCache.database_faithful lasting

/-- It is steady as well. -/
theorem steady_project (named : o.database? = some db) (lasting : db.text ≠ ":memory:") :
    (project o clock disk).cache.Steady (Ledger.database db) (Outlook.database db) := by
  rw [show (project o clock disk).cache = .database db from cache_database named]
  exact FileCache.database_steady lasting

/-- Whatever is made of a file can be written to a database and read back. -/
theorem fits_project (valid : clock.Valid) :
    (project o clock disk).Fits (Ledger.database db) :=
  fun _ ticks examined => Check.preserved_run (valid ticks) examined

/-- A run only adds to the disk. -/
theorem extends_run (named : o.database? = some db) (lasting : db.text ≠ ":memory:") :
    Extends disk (endState (Build.run (project o clock disk) o.continueOnError (o.files disk)
      (begun o disk))).store.disk := by
  have cached : (project o clock disk).cache = .database db := cache_database named
  have start : Extends disk (begun o disk).store.disk := .refl disk
  refine Build.store_run (w := begun o disk) (P := fun s => Extends disk s.disk) ?_ ?_ start
  · intro path s grown
    rw [cached]
    exact grown.trans (FileCache.database_extends lasting path s).1
  · intro path record s grown
    rw [cached]
    exact grown.trans ((FileCache.database_extends lasting path s).2 record)

/-! ### The disk in between -/

/-- The summary is not written over the database. -/
def Options.Apart (o : Options) (disk : Disk) : Prop :=
  ∀ output ∈ o.summaryOutput.filter (· != ""), ∀ db ∈ o.database?, ∀ names,
    disk.fileForWriting db = .ok names → disk.fileForWriting (Path.ofText output) ≠ .ok names

/-- A summary is asked for. -/
def Options.Summarizes (o : Options) : Prop := (o.summaryOutput.filter (· != "")).isSome

/-- A delivery elsewhere leaves a database that stands as it was. -/
theorem stands_deliver {path : Path} {report : Report} (stands : Stands db disk)
    (apart : ∀ names, (deliver disk path report).disk.fileForWriting db = .ok names →
      (deliver disk path report).disk.fileForWriting path ≠ .ok names) :
    Stands db (deliver disk path report).disk ∧
      glimpse db (deliver disk path report).disk = glimpse db disk := by
  obtain ⟨names, t, opened, there⟩ := stands
  have opened' := Disk.fileForWriting_extends opened there (extends_deliver disk path report)
  have there' := at?_deliver there (apart names opened')
  refine ⟨⟨names, t, opened', there'⟩, funext fun q => ?_⟩
  rw [glimpse, glimpse, Cache.Database.sight_opened opened', Cache.Database.sight_opened opened,
    there', there]

theorem stdout_failed (o : Options) (w : World Storage) (failure : Failure) :
    (failed o w failure).stdout = printed w.exchange.trace := by
  cases failure <;> rfl

theorem disk_failed (o : Options) (w : World Storage) (failure : Failure) :
    (failed o w failure).disk = w.store.disk := by
  cases failure <;> rfl

/-- The disk that a build leaves which came to its end. -/
theorem disk_finished (o : Options) (w : World Storage) (report : Report) :
    (finished o w report).disk =
      match o.summaryOutput.filter (· != "") with
      | none => w.store.disk
      | some output => (deliver w.store.disk (Path.ofText output) report).disk := by
  unfold finished
  cases o.summaryOutput.filter (· != "") with
  | none => rfl
  | some output =>
      dsimp only
      split <;> rfl

/-- A build that came to its end leaves a database that stands as it was. -/
theorem stands_finished {w : World Storage} {report : Report} (named : o.database? = some db)
    (stands : Stands db w.store.disk) (apart : o.Apart (finished o w report).disk) :
    Stands db (finished o w report).disk ∧
      glimpse db (finished o w report).disk = glimpse db w.store.disk := by
  have left := disk_finished o w report
  unfold Options.Apart at apart
  rw [left] at apart ⊢
  cases wanted : o.summaryOutput.filter (· != "") with
  | none => exact ⟨stands, rfl⟩
  | some output =>
      rw [wanted] at apart
      exact stands_deliver stands (apart output rfl db named)

/-! ### The end and its repetition -/

/-- A command line comes to the same end a second time, and shows the same lines, with every file as one
that the cache holds. -/
structure Outcome.Repeats (first second : Outcome) : Prop where
  ending : second.ending = first.ending
  stderr : second.stderr = first.stderr
  stdout : ∃ lines, screen? lines = some first.stdout ∧
    screen? (lines.map Shown.found) = some second.stdout

variable {threshold : Severity} {w w' : World Storage} {report : Report}

theorem failed_again (failure : Failure) (mirrors : Mirrors threshold w.exchange w'.exchange) :
    Outcome.Repeats (failed o w failure) (failed o w' failure) := by
  cases failure <;> exact ⟨rfl, rfl, mirrors.lines⟩

/-- A build that came to its end comes to it again, on the disk that it left. -/
theorem finished_again (mirrors : Mirrors threshold w.exchange w'.exchange)
    (countable : o.Summarizes → Summary.Countable report ∧ Summary.Countable report.found)
    (left : w'.store.disk = (finished o w report).disk) :
    Outcome.Repeats (finished o w report) (finished o w' report.found) := by
  rw [disk_finished] at left
  unfold finished
  unfold Options.Summarizes at countable
  revert left countable
  cases o.summaryOutput.filter (· != "") with
  | none => exact fun _ _ => ⟨rfl, rfl, mirrors.lines⟩
  | some output =>
      intro countable left
      obtain ⟨countable, countable'⟩ := countable rfl
      have again := @deliver_again w.store.disk (Path.ofText output) report report.found
        (Summary.outcome_congr countable countable' rfl rfl)
      dsimp only at left ⊢
      rw [left]
      revert again
      generalize deliver (deliver _ _ _).disk _ _ = second
      generalize deliver w.store.disk _ _ = first
      obtain ⟨disk, problem⟩ := first
      obtain ⟨disk', problem'⟩ := second
      intro again
      rcases problem with _ | failure | detail <;> rcases problem' with _ | failure' | detail' <;>
        cases again <;> exact ⟨rfl, rfl, mirrors.lines⟩

theorem runBuild_eq (kept : o.rebuild = false) :
    runBuild o clock disk =
      match Build.run (project o clock disk) o.continueOnError (o.files disk) (begun o disk) with
      | .ok report w => finished o w report
      | .error failure w => failed o w failure := by
  unfold runBuild
  rewrite [build_eq kept]
  cases Build.run (project o clock disk) o.continueOnError (o.files disk) (begun o disk) <;> rfl

/-- The counts of a report can be written if the files are not too many. -/
theorem countable_of_run {project : Project Storage} {continueOnError : Bool} {paths : List String}
    (few : paths.length < 10 ^ Scalar.digitLimit)
    (done : Build.run project continueOnError paths w = .ok report w') :
    Summary.Countable report ∧ Summary.Countable report.found := by
  obtain ⟨cached, analyzed, records⟩ := Build.counts_le done
  exact ⟨⟨cached.trans_lt few, analyzed.trans_lt few⟩,
    records.trans_lt few, (Nat.zero_le _).trans_lt few⟩

/-- What a build leaves looks as its run left it from every file that can be read, and stands if its run
left it standing. -/
structure Left (o : Options) (db : Path) (clock : Clock) (disk after : Disk) : Prop where
  seen : ∀ path ∈ o.files disk, Build.LooksSame (project o clock disk) (Outlook.database db) path
    (endState (Build.run (project o clock disk) o.continueOnError (o.files disk)
      (begun o disk))).store ⟨after, []⟩
  stands : Stands db (endState (Build.run (project o clock disk) o.continueOnError (o.files disk)
    (begun o disk))).store.disk → Stands db after

theorem left_runBuild (named : o.database? = some db) (lasting : db.text ≠ ":memory:")
    (kept : o.rebuild = false) (valid : clock.Valid)
    (apart : o.Apart (runBuild o clock disk).disk) :
    Left o db clock disk (runBuild o clock disk).disk := by
  have grown := @extends_run o db clock disk named lasting
  rw [runBuild_eq kept] at apart ⊢
  cases run : Build.run (project o clock disk) o.continueOnError (o.files disk) (begun o disk) with
  | error failure w =>
      rw [run, endState_error] at grown
      dsimp only
      rw [disk_failed]
      refine ⟨fun path _ data _ => ?_, fun stands => ?_⟩
      · rw [run]
        rfl
      · rw [run] at stands
        exact stands
  | ok report w =>
      rw [run, endState_ok] at grown
      rw [run] at apart
      dsimp only at apart ⊢
      refine ⟨fun path member data read => ?_, fun stands => ?_⟩
      · have fits : (project o clock disk).Fits (Ledger.database db) := fits_project valid
        have legal : (Ledger.database db).legal (begun o disk).store := trivial
        have stands : (Outlook.database db).stands w.store :=
          Build.stands_of_run (faithful_project named lasting) (steady_project named lasting)
            fits legal member read run
        have seen := congrFun (stands_finished named stands apart).2 path
        rw [run]
        exact seen
      · rw [run] at stands
        exact (stands_finished named stands apart).1

/-- **A build comes to the same when it is carried out again** on the disk that it left. -/
theorem runBuild_again (named : o.database? = some db) (lasting : db.text ≠ ":memory:")
    (kept : o.rebuild = false) (valid : clock.Valid) (valid' : clock'.Valid)
    (few : o.Summarizes → (o.files disk).length < 10 ^ Scalar.digitLimit)
    (unchanged : o.Unchanged disk (runBuild o clock disk).disk)
    (apart : o.Apart (runBuild o clock disk).disk) :
    Outcome.Repeats (runBuild o clock disk) (runBuild o clock' (runBuild o clock disk).disk) := by
  have faithful : (project o clock disk).cache.Faithful (Ledger.database db) :=
    faithful_project named lasting
  have steady : (project o clock disk).cache.Steady (Ledger.database db) (Outlook.database db) :=
    steady_project named lasting
  have left := left_runBuild named lasting kept valid apart
  have first := @runBuild_eq o clock disk kept
  generalize runBuild o clock disk = outcome at first left unchanged apart
  have files := unchanged.files
  have contents := unchanged.contents
  have fits : (project o clock disk).Fits (Ledger.database db) := fits_project valid
  have fits' : (project o clock' outcome.disk).Fits (Ledger.database db) := fits_project valid'
  have same : (project o clock disk).Alike (project o clock' outcome.disk) (o.files disk) := by
    refine ⟨?_, rfl, rfl, rfl⟩
    rw [read_project, read_project]
    exact contents
  have legal : (Ledger.database db).legal (begun o disk).store := trivial
  have legal' : (Ledger.database db).legal (begun o outcome.disk).store := trivial
  obtain ⟨repeats, still⟩ := Build.run_again o.continueOnError faithful steady fits fits'
    (parallel_mirrors o.verbosity.threshold) same legal legal' left.seen left.stands
    (mirrors_begun o disk outcome.disk)
  -- the second run goes through the same files, on the disk that the first one left
  rw [runBuild_eq kept, files]
  revert repeats still
  cases run : Build.run (project o clock disk) o.continueOnError (o.files disk) (begun o disk) with
  | error failure w =>
      rw [run] at first
      subst first
      generalize Build.run _ _ _ (begun o _) = second
      intro repeats _
      cases repeats with
      | error exchanges => exact failed_again failure exchanges
  | ok report w =>
      rw [run] at first
      subst first
      generalize Build.run _ _ _ (begun o _) = second
      intro repeats still
      cases repeats with
      | @ok _ _ w' exchanges =>
          have store : w'.store = ⟨(finished o w report).disk, []⟩ := still report w rfl
          exact finished_again exchanges (fun asked => countable_of_run (few asked) run)
            (by rw [store])

/-! ### The command line and its repetition -/

/-- A command line that comes to nothing does so again. -/
theorem Outcome.Repeats.silent {outcome : Outcome} (silent : outcome.stdout = []) :
    outcome.Repeats outcome :=
  ⟨rfl, rfl, [], by rw [silent]; rfl, by rw [silent]; rfl⟩

/-- A build only adds to the disk. -/
theorem extends_runBuild (named : o.database? = some db) (lasting : db.text ≠ ":memory:")
    (kept : o.rebuild = false) : Extends disk (runBuild o clock disk).disk := by
  have grown := @extends_run o db clock disk named lasting
  rw [runBuild_eq kept]
  revert grown
  cases Build.run (project o clock disk) o.continueOnError (o.files disk) (begun o disk) with
  | error failure w =>
      intro grown
      dsimp only
      rw [disk_failed]
      exact grown
  | ok report w =>
      intro grown
      dsimp only
      rw [disk_finished]
      split
      · exact grown
      · exact grown.trans (extends_deliver _ _ _)

/-- What is asked of a command line that is to be carried out again: it names a database that lasts, does
not empty it, and finds the same files again; a summary is not written over the database, and there are
not too many files to be counted in it. -/
structure Options.Repeatable (o : Options) (clock : Clock) (disk : Disk) (db : Path) : Prop where
  named : o.database? = some db
  lasting : db.text ≠ ":memory:"
  kept : o.rebuild = false
  few : o.Summarizes → (o.files disk).length < 10 ^ Scalar.digitLimit
  unchanged : o.Unchanged disk (runOptions o clock disk).disk
  apart : o.Apart (runOptions o clock disk).disk

theorem runProject_found {paths : List String}
    (found : Discovery.run disk (Path.ofText o.path) o.suffixes = .ok paths) :
    runProject o clock disk = runBuild o clock disk := by
  rw [runProject, found]

theorem runProject_unsought {failure : Failure}
    (failed : Discovery.run disk (Path.ofText o.path) o.suffixes = .error failure) :
    runProject o clock disk = unsought o disk failure := by
  rw [runProject, failed]

/-- Where the files of a project cannot be told, the build has just begun. -/
theorem unsought_eq (o : Options) (disk : Disk) (failure : Failure) :
    unsought o disk failure =
      failed o ⟨⟨disk, []⟩, connected o.verbosity.threshold, 0, []⟩ failure := by
  unfold unsought
  rw [Build.onExchange, world, connect_new]

/-- A command line that names a database builds, unless a directory is not there. -/
theorem runOptions_named (named : o.database? = some db) :
    runOptions o clock disk =
      match disk.ask (Path.ofText o.path) Node.isDirectory with
      | .error fault => stuck disk fault (Path.ofText o.path)
      | .ok true =>
        match disk.ask db.parent fun _ => true with
        | .error fault => stuck disk fault db.parent
        | .ok true => runProject o clock disk
        | .ok false =>
          refused disk s!"Cache directory does not exist (cache_db={db.text})"
            s!"Cache directory does not exist: {db.parent.text}\n"
      | .ok false =>
        refused disk s!"Path is not a directory (path={(Path.ofText o.path).text})"
          s!"Path is not a directory: {(Path.ofText o.path).text}\n" := by
  rewrite [runOptions, runWithCache, named]
  rfl

/-- **A command line comes to the same when it is carried out again** on the disk that it left, at
whatever time: it ends alike, and shows the same lines, with every file as one that the cache holds. -/
theorem runOptions_again (repeatable : o.Repeatable clock disk db) (valid : clock.Valid)
    (valid' : clock'.Valid) :
    Outcome.Repeats (runOptions o clock disk) (runOptions o clock' (runOptions o clock disk).disk) := by
  obtain ⟨named, lasting, kept, few, unchanged, apart⟩ := repeatable
  have once := fun clock disk => @runOptions_named o db clock disk named
  rw [once clock disk] at unchanged apart ⊢
  cases rooted : disk.ask (Path.ofText o.path) Node.isDirectory with
  | error fault =>
      dsimp only [stuck]
      rw [once clock' disk, rooted]
      exact .silent rfl
  | ok isRoot =>
      cases isRoot with
      | false =>
          dsimp only [refused]
          rw [once clock' disk, rooted]
          exact .silent rfl
      | true =>
          cases placed : disk.ask db.parent fun _ => true with
          | error fault =>
              dsimp only [stuck]
              rw [once clock' disk, rooted, placed]
              exact .silent rfl
          | ok isPlace =>
              cases isPlace with
              | false =>
                  dsimp only [refused]
                  rw [once clock' disk, rooted, placed]
                  exact .silent rfl
              | true =>
                  rw [rooted, placed] at unchanged apart
                  dsimp only at unchanged apart ⊢
                  cases found : Discovery.run disk (Path.ofText o.path) o.suffixes with
                  | error failure =>
                      rw [runProject_unsought found, unsought_eq, disk_failed]
                      dsimp only
                      rw [once clock' disk, rooted, placed]
                      dsimp only
                      rw [runProject_unsought found, unsought_eq]
                      exact .silent (stdout_failed _ _ _)
                  | ok paths =>
                      -- a build only adds to the disk, so what was asked before it is answered alike
                      have grown := @extends_runBuild o db clock disk named lasting kept
                      rw [runProject_found found] at unchanged apart ⊢
                      rw [once clock', Disk.ask_extends (fun _ _ same => Node.isDirectory_of_kind same)
                        rooted grown, Disk.ask_extends (fun _ _ _ => rfl) placed grown]
                      dsimp only
                      rw [runProject_found (unchanged.found.trans found)]
                      exact runBuild_again named lasting kept valid valid' few unchanged apart

end Docwright.CommandLine
