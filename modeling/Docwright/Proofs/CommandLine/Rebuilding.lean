import Docwright.Proofs.Build.Contents
import Docwright.Proofs.Build.Failing
import Docwright.Proofs.Cache.Emptying
import Docwright.Proofs.CommandLine.Thresholds
import Docwright.Proofs.Disk.Rewriting

/-!
# Rebuilding

A command line that rebuilds empties its database before the first file is taken up.
Emptying leaves one and the same file, whatever rows were in it, so from there on the
build is the one that a new database gets (`build_renewed`), to the last byte of the
disk.  What is left of the old database is settled by that alone: the database holds
the records that the build makes, and no row of any other path (`consists_rebuild`).

If the database cannot be emptied, nothing is built and every row is still there
(`runBuildAmid_unemptied`).
-/

namespace Docwright.CommandLine

open Build (World Made)
open Cache (Tables Trouble)
open Cache.Database (Stands Consists Unchanged clear clearAmid glimpse sightOf tablesOf)
open Exchange (Logs)
open Disk (Extends)

variable {o : Options} {db : Path} {clock : Clock} {disk disk' : Disk} {names : List String}
  {content : Content} {trouble : Trouble} {failure : Failure}

/-! ### Where a build begins -/

/-- The directories are there that a build needs, and its files can be told. -/
structure Options.Begins (o : Options) (disk : Disk) : Prop where
  root : disk.ask (Path.ofText o.path) Node.isDirectory = .ok true
  place : ∀ db ∈ o.database?, disk.ask db.parent (fun _ => true) = .ok true
  sought : ∃ paths, Discovery.run disk (Path.ofText o.path) o.suffixes = .ok paths

theorem Options.Begins.extends (begins : o.Begins disk) (grown : Extends disk disk')
    (unchanged : o.Unchanged disk disk') : o.Begins disk' where
  root := Disk.ask_extends (fun _ _ => Node.isDirectory_of_kind) begins.root grown
  place db named := Disk.ask_extends (fun _ _ _ => rfl) (begins.place db named) grown
  sought := begins.sought.imp fun _ found => unchanged.found.trans found

/-- A build begins if the directories are there and the files can be told. -/
theorem runOptions_begun (begins : o.Begins disk) : runOptions o clock disk = runBuild o clock disk := by
  obtain ⟨root, place, paths, found⟩ := begins
  rw [← runProject_found found]
  simp only [runOptions, root, runWithCache]
  cases named : o.database? with
  | none => rfl
  | some db => simp only [place db named]

/-! ### Emptying -/

/-- The entry of the log for a database that is emptied. -/
def emptying (o : Options) : Log.Entry :=
  let shown := o.cacheDb.getD ""
  ⟨.info, .commandLine, s!"Clearing cache before build (cache_db={shown})"⟩

/-- Empties the database before the build, amid trouble, if that is asked for. -/
def discardAmid (trouble : Trouble) (o : Options) : Build.Step Storage Unit :=
  match o.database? with
  | some db =>
    if o.rebuild then do
      Build.log (emptying o)
      Build.onCache (Storage.onDisk (clearAmid trouble db))
    else pure ()
  | none => pure ()

/-- What comes of a build whose database is emptied amid trouble. -/
def runBuildAmid (trouble : Trouble) (o : Options) (clock : Clock) (disk : Disk) : Outcome :=
  concluded o ((discardAmid trouble o >>= fun _ =>
    Build.run (project o clock disk) o.continueOnError (o.files disk)) (ready o.verbosity.threshold o disk))

theorem discardAmid_calm (o : Options) : discardAmid .calm o = discard o := rfl

/-- A build without trouble is the build that options ask for. -/
theorem runBuildAmid_calm (o : Options) (clock : Clock) (disk : Disk) :
    runBuildAmid .calm o clock disk = runBuild o clock disk := by
  rw [runBuildAmid, discardAmid_calm, runBuild_at, buildAt, build_ready]

theorem discardAmid_apply (named : o.database? = some db) (anew : o.rebuild = true) (w : World Storage) :
    discardAmid trouble o w = Build.onCache (Storage.onDisk (clearAmid trouble db))
      { w with exchange := w.exchange.observe (.logged (emptying o)) } := by
  rw [discardAmid, named]
  dsimp only
  rw [if_pos anew, bind_apply, Build.log_apply]

/-- The world in which the first file is taken up, after the database was emptied. -/
def emptied (o : Options) (disk cleared : Disk) : World Storage :=
  ⟨⟨cleared, []⟩, (ready o.verbosity.threshold o disk).exchange.observe (.logged (emptying o)), 0, []⟩

theorem discard_emptied (named : o.database? = some db) (anew : o.rebuild = true)
    (cleared : clear db disk = .ok () disk') :
    discard o (ready o.verbosity.threshold o disk) = .ok () (emptied o disk disk') := by
  have done : Storage.onDisk (clear db) ⟨disk, []⟩ = .ok () ⟨disk', []⟩ := by
    rw [Storage.onDisk, cleared]
  rw [← discardAmid_calm, discardAmid_apply named anew]
  exact Build.onCache_ok done

/-- What comes of a build whose database was emptied. -/
theorem runBuild_emptied (named : o.database? = some db) (anew : o.rebuild = true)
    (cleared : clear db disk = .ok () disk') :
    runBuild o clock disk = concluded o
      (Build.run (project o clock disk) o.continueOnError (o.files disk) (emptied o disk disk')) := by
  rw [runBuild_at, buildAt, build_ready, bind_ok (discard_emptied named anew cleared)]

/-! ### An old database and a new one -/

/-- A database that is new or empty on a disk, what it held in its place, and options that rebuild it.  It
is none of the files that are taken up, whether it is there or not. -/
structure Options.Renews (o : Options) (db : Path) (disk : Disk) (names : List String) (content : Content) :
    Prop where
  named : o.database? = some db
  anew : o.rebuild = true
  clean : db.hasNull = false
  lasting : db.text ≠ ":memory:"
  opened : disk.fileForWriting db = .ok names
  empty : sightOf (disk.top.at? names) = .rows Tables.empty
  held : ∃ t, tablesOf content = some t ∧ t.guarded = false
  aside : ∀ path ∈ o.files disk, disk.locate (Path.ofText o.path ++ Path.ofText path) ≠ .ok names
  missing : disk.top.at? names = none → o.Unchanged disk (disk.put names (.file content))

namespace Options.Renews

variable (renews : o.Renews db disk names content)

include renews

/-- With the old database everything is there that is there with the new one. -/
theorem extends_old : Extends disk (disk.put names (.file content)) :=
  (Disk.opened renews.opened).extends_put content

/-- The same files are taken up with the old database and with the new one. -/
theorem unchanged : o.Unchanged disk (disk.put names (.file content)) := by
  cases at_ : disk.top.at? names with
  | none => exact renews.missing at_
  | some node =>
      have empty := renews.empty
      rw [at_] at empty
      cases node with
      | directory entries => cases empty
      | link target => cases empty
      | file fresh =>
          constructor
          · exact Discovery.run_rewritten at_ content _ _
          · intro path member
            exact Build.readWithin_rewritten at_ content (renews.aside path member)

/-- The new database is emptied. -/
theorem clear_new :
    clear db disk = .ok () (disk.put names (.file (.database Tables.empty))) :=
  Cache.Database.clear_rows renews.clean renews.lasting renews.opened renews.empty rfl

/-- The old database is emptied, and nothing of it is left. -/
theorem clear_old :
    clear db (disk.put names (.file content)) =
      .ok () (disk.put names (.file (.database Tables.empty))) := by
  obtain ⟨t, tables, unguarded⟩ := renews.held
  have opened := renews.opened
  have there := (Disk.opened opened).at?_put content
  have seen : sightOf ((disk.put names (.file content)).top.at? names) = .rows t := by
    rw [there, sightOf, tables]
  rw [Cache.Database.clear_rows renews.clean renews.lasting (Disk.fileForWriting_put opened content) seen
    unguarded, Disk.put_put]

/-- **The build with the old database is the build with the new one.** -/
theorem build_renewed :
    runBuild o clock (disk.put names (.file content)) = runBuild o clock disk := by
  have unchanged := renews.unchanged
  have agrees : (project o clock disk).Agrees (project o clock (disk.put names (.file content)))
      (o.files disk) :=
    ⟨by simpa only [read_project] using unchanged.contents, fun _ _ => rfl, rfl, rfl, rfl⟩
  have begun : emptied o (disk.put names (.file content)) (disk.put names (.file (.database Tables.empty))) =
      emptied o disk (disk.put names (.file (.database Tables.empty))) := by
    simp only [emptied, ready, unchanged.files]
  rw [runBuild_emptied renews.named renews.anew renews.clear_old,
    runBuild_emptied renews.named renews.anew renews.clear_new, unchanged.files, begun, Build.run_eq,
    Build.run_eq, Build.foldlM_agrees agrees]

end Options.Renews

/-! ### What is left -/

/-- What a build leaves of a database that its run left standing. -/
theorem consists_concluded {records : String → FileRecord → Prop}
    {result : EStateM.Result Failure (World Storage) Report} (named : o.database? = some db)
    (stands : Stands db (endState result).store.disk) (apart : o.Apart (concluded o result).disk)
    (consists : Consists db (endState result).store.disk records) :
    Consists db (concluded o result).disk records := by
  cases result with
  | error failure w =>
      show Consists db (failed o w failure).disk records
      rw [disk_failed]
      exact consists
  | ok report w => exact consists.of_glimpse (stands_finished named stands apart).2

/-- A build makes a record of a file, from where it has emptied its database. -/
def Options.Makes (o : Options) (clock : Clock) (disk : Disk) (path : String) (record : FileRecord) : Prop :=
  ∃ w, discard o (ready o.verbosity.threshold o disk) = .ok () w ∧
    Made (project o clock disk) (Build.visits (project o clock disk) o.continueOnError (o.files disk) w)
      path record

theorem makes_emptied (named : o.database? = some db) (anew : o.rebuild = true)
    (cleared : clear db disk = .ok () disk') :
    o.Makes clock disk = Made (project o clock disk)
      (Build.visits (project o clock disk) o.continueOnError (o.files disk) (emptied o disk disk')) := by
  have discarded := discard_emptied named anew cleared
  funext path record
  apply propext
  constructor
  · rintro ⟨w, begun, made⟩
    rw [discarded] at begun
    cases begun
    exact made
  · intro made
    exact ⟨_, discarded, made⟩

/-- Records are made of files that are taken up. -/
theorem Options.Makes.mem {path : String} {record : FileRecord} (makes : o.Makes clock disk path record) :
    path ∈ o.files disk := by
  obtain ⟨w, -, visit, member, rfl, -⟩ := makes
  exact Build.path_of_visit member

/-- **A build that empties its database leaves the records that it makes**, and no row of another path. -/
theorem consists_rebuild (named : o.database? = some db) (anew : o.rebuild = true)
    (lasting : db.text ≠ ":memory:") (valid : clock.Valid) (opened : disk.fileForWriting db = .ok names)
    (cleared : clear db disk = .ok () (disk.put names (.file (.database Tables.empty))))
    (apart : o.Apart (runBuild o clock disk).disk) :
    Consists db (runBuild o clock disk).disk (o.Makes clock disk) := by
  have cached : (project o clock disk).cache = .database db := cache_database named
  have fits : (project o clock disk).Fits (Ledger.database db) := fits_project valid
  have steady : (project o clock disk).cache.Steady (Ledger.database db) (Outlook.database db) :=
    steady_project named lasting
  rw [makes_emptied named anew cleared]
  rw [runBuild_emptied named anew cleared] at apart ⊢
  generalize begun : emptied o disk (disk.put names (.file (.database Tables.empty))) = w at apart ⊢
  have start : w.store.disk = disk.put names (.file (.database Tables.empty)) := by rw [← begun, emptied]
  refine consists_concluded named ?_ apart (Build.consists_run cached lasting fits ?_)
  · refine Build.stands_run steady fits trivial ?_
    show Stands db w.store.disk
    rw [start]
    exact Cache.Database.stands_written opened Tables.empty
  · intro q
    rw [start, glimpse, Cache.Database.sight_written opened]
    rfl

/-! ### Databases that cannot be emptied -/

theorem printed_logs {x y : Exchange} (logs : Logs x y) : printed y.trace = printed x.trace := by
  obtain ⟨entries, rfl⟩ := logs
  rw [printed_append, printed_logged, List.append_nil]

/-- **A database that cannot be emptied ends the build** before anything is shown, and keeps its rows. -/
theorem runBuildAmid_unemptied (named : o.database? = some db) (anew : o.rebuild = true)
    (clean : db.hasNull = false) (refuses : trouble.Refuses)
    (failed : clearAmid trouble db disk = .error failure disk') :
    (runBuildAmid trouble o clock disk).ending = .ok 2 ∧ (runBuildAmid trouble o clock disk).stdout = [] ∧
      Unchanged db disk (runBuildAmid trouble o clock disk).disk := by
  obtain ⟨fault, rfl⟩ := Cache.Database.cache_of_clearAmid clean refuses failed
  have clearing : Storage.onDisk (clearAmid trouble db) ⟨disk, []⟩ = .error (.cache fault) ⟨disk', []⟩ := by
    rw [Storage.onDisk, failed]
  have logs := Build.logs_logFailure (.cache fault)
    ((ready o.verbosity.threshold o disk).exchange.observe (.logged (emptying o)))
  have stopped := (discardAmid_apply named anew (ready o.verbosity.threshold o disk)).trans
    (Build.onCache_error clearing)
  rw [runBuildAmid, bind_error stopped]
  exact ⟨rfl, printed_logs logs, Cache.Database.unchanged_of_clearAmid failed⟩

/-! ### The command line -/

/-- **A rebuild is a build with a new database.**  Where a database is new or empty, or has any rows that
builds can leave, a command line that empties it comes to one and the same, disk and summary included.
What is left in the database are the records that the build makes, and nothing of any other path, least of
all of one that is no file any more, unless the summary is written over it.  Where the database cannot be
emptied, the exit code is 2, nothing is shown, and every row is still there. -/
theorem rebuild_renews :
    (∀ {argv : List String} {o : Options} {db : Path} {clock : Clock} {disk : Disk} {names : List String}
      {content : Content}, Options.parse argv = some o → o.Renews db disk names content → o.Begins disk →
        run argv clock (disk.put names (.file content)) = run argv clock disk) ∧
    (∀ {argv : List String} {o : Options} {db : Path} {clock : Clock} {disk : Disk} {names : List String}
      {content : Content}, Options.parse argv = some o → o.Renews db disk names content → o.Begins disk →
      clock.Valid → o.Apart (run argv clock (disk.put names (.file content))).disk →
        Consists db (run argv clock (disk.put names (.file content))).disk
          (o.Makes clock (disk.put names (.file content))) ∧
        ∀ path ∉ o.files (disk.put names (.file content)),
          glimpse db (run argv clock (disk.put names (.file content))).disk path =
            .rows (none, []) false) ∧
    (∀ {trouble : Trouble} {o : Options} {db : Path} {clock : Clock} {disk disk' : Disk} {failure : Failure},
      o.database? = some db → o.rebuild = true → db.hasNull = false → trouble.Refuses →
      clearAmid trouble db disk = .error failure disk' →
        (runBuildAmid trouble o clock disk).ending = .ok 2 ∧
        (runBuildAmid trouble o clock disk).stdout = [] ∧
        Unchanged db disk (runBuildAmid trouble o clock disk).disk) ∧
    ∀ {argv : List String} {o : Options} {clock : Clock} {disk : Disk}, Options.parse argv = some o →
      o.Begins disk → run argv clock disk = runBuildAmid .calm o clock disk := by
  refine ⟨?_, ?_, runBuildAmid_unemptied, ?_⟩
  · intro argv o db clock disk names content parsed renews begins
    rw [run_parsed parsed, run_parsed parsed, runOptions_begun begins,
      runOptions_begun (begins.extends renews.extends_old renews.unchanged),
      renews.build_renewed]
  · intro argv o db clock disk names content parsed renews begins valid apart
    have begins' := begins.extends renews.extends_old renews.unchanged
    have opened' := Disk.fileForWriting_put renews.opened content
    have cleared : clear db (disk.put names (.file content)) =
        .ok () ((disk.put names (.file content)).put names (.file (.database Tables.empty))) := by
      rw [renews.clear_old, Disk.put_put]
    rw [run_parsed parsed, runOptions_begun begins'] at apart ⊢
    have consists := consists_rebuild renews.named renews.anew renews.lasting valid opened' cleared
      apart
    refine ⟨consists, fun path absent => consists.nothing fun record makes => ?_⟩
    exact absent makes.mem
  · intro argv o clock disk parsed begins
    rw [run_parsed parsed, runOptions_begun begins, runBuildAmid_calm]

/-! ### A database with rows of a file that is gone -/

/-- The words of a build that empties a database. -/
def rewords (summary : String) : List String :=
  ["build", "--path", "proj", "--cache-db", "db", "--rebuild", "--summary-output", summary]

/-- What those words ask for. -/
def reasked (summary : String) : Options :=
  { asked "db" summary with rebuild := true }

/-- The rows of a file that is gone and of a problem in it, and a problem of a file without a row. -/
def stale : Content :=
  .database ⟨[⟨"gone.py", "0", "2026-01-01T00:00:00"⟩],
    [⟨"gone.py", 0, 40, "%s is empty", "[\"file\"]", some 1⟩, ⟨"a.py", 0, 40, "%s is empty", "[]", none⟩],
    false⟩

theorem renews_small : (reasked "out").Renews (Path.ofText "db") small ["work", "db"] stale where
  named := rfl
  anew := rfl
  clean := by decide +kernel
  lasting := by decide +kernel
  opened := by decide +kernel
  empty := rfl
  held := ⟨_, rfl, rfl⟩
  aside := by
    have files : (reasked "out").files small = ["a.py"] := files_small
    rw [files]
    decide +kernel
  missing _ := by
    have files : (reasked "out").files small = ["a.py"] := files_small
    refine ⟨by decide +kernel, ?_⟩
    rw [files]
    decide +kernel

theorem begins_small : (reasked "out").Begins small where
  root := by decide +kernel
  place db named := by
    obtain rfl : Path.ofText "db" = db := Option.some.inj named
    decide +kernel
  sought := ⟨["a.py"], by decide +kernel⟩

/-- A disk with that database. -/
def littered : Disk := small.put ["work", "db"] (.file stale)

/-- The trouble of a disk that is full at the sixth statement. -/
def full : Trouble := ⟨none, fun number => if number = 5 then some (.refused .disk) else none⟩

theorem full_refuses : full.Refuses := by
  intro number fault faulty
  have refused : number = 5 ∧ .refused .disk = fault := by simpa [full] using faulty
  exact ⟨.disk, refused.2.symm⟩

/-- That database is rebuilt; and where the rows of files cannot be deleted, after those of problems have
been, it keeps them. -/
theorem rebuild_renews_littered :
    run (rewords "out") noon littered = run (rewords "out") noon small ∧
    Consists (Path.ofText "db") (run (rewords "out") noon littered).disk ((reasked "out").Makes noon littered) ∧
    glimpse (Path.ofText "db") (run (rewords "out") noon littered).disk "gone.py" = .rows (none, []) false ∧
    ∃ failure disk', clearAmid full (Path.ofText "db") littered = .error failure disk' ∧
      (runBuildAmid full (reasked "out") noon littered).ending = .ok 2 ∧
      Unchanged (Path.ofText "db") littered (runBuildAmid full (reasked "out") noon littered).disk ∧
    run (rewords "out") noon small = runBuildAmid .calm (reasked "out") noon small := by
  have parsed : Options.parse (rewords "out") = some (reasked "out") := by decide +kernel
  have apart : (reasked "out").Apart (run (rewords "out") noon littered).disk := by
    have kept : (run (rewords "out") noon littered).disk.fileForWriting (Path.ofText "db") =
        .ok ["work", "db"] := by
      decide +kernel
    have summed : (run (rewords "out") noon littered).disk.fileForWriting (Path.ofText "out") =
        .ok ["work", "out"] := by
      decide +kernel
    intro output wanted db named names opened
    obtain rfl : "out" = output := Option.some.inj wanted
    obtain rfl : Path.ofText "db" = db := Option.some.inj named
    rw [summed]
    rw [kept] at opened
    cases opened
    decide
  obtain ⟨consists, gone⟩ := rebuild_renews.2.1 parsed renews_small begins_small noon_valid apart
  have absent : "gone.py" ∉ (reasked "out").files littered := by decide +kernel
  have failed : answer (clearAmid full (Path.ofText "db") littered) =
      .error (.cache ⟨.disk, some ("db", .clear)⟩) := by
    decide +kernel
  have unemptied := eq_error_of_answer failed
  have clean : (Path.ofText "db").hasNull = false := by decide +kernel
  obtain ⟨ending, -, unchanged⟩ := @rebuild_renews.2.2.1 full (reasked "out") _ noon _ _ _ rfl rfl clean
    full_refuses unemptied
  exact ⟨rebuild_renews.1 parsed renews_small begins_small, consists, gone "gone.py" absent,
    _, _, unemptied, ending, unchanged, rebuild_renews.2.2.2 parsed begins_small⟩

/-- **A rebuild whose summary is written over the database leaves no record.**  The database of an earlier
build can be emptied, the file is examined, and the exit code is 0; but afterwards there is no database. -/
theorem rebuild_loses_records :
    let old := (run (words "db" "out") noon small).disk
    let new := (run (rewords "db") noon old).disk
    answer (clear (Path.ofText "db") old) = .ok () ∧
      (run (rewords "db") noon old).ending = .ok 0 ∧
      (run (rewords "db") noon old).stdout = "Parsed modified file \x1b[32ma.py\x1b[0m\n".toList ∧
      answer (Cache.Database.lookup (Path.ofText "db") "a.py" new) =
        .error (.cache ⟨.notDatabase, some ("db", .lookup "a.py")⟩) := by
  refine ⟨?_, ?_, ?_, ?_⟩ <;> decide +kernel

end Docwright.CommandLine
