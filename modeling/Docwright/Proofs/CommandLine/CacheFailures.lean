import Docwright.Proofs.Cache.Failures
import Docwright.Proofs.CommandLine.ExitCodes

/-!
# Failures of the cache, seen from the command line

A command line ends with exit code 2 where its cache reports a fault.  Whatever else the cache fails by
has no exit code and ends the program as it is (`ending_of_fails`), be it that the database is emptied, a
record is looked up, or a new one is stored (`Options.CacheFails`).

`Cache.Database.Failing` says what that can be, so both halves together say which contents of a database
and which records end a command line without an exit code.
-/

namespace Docwright

namespace Build

variable {σ : Type}

/-- At a file that can be read the cache fails: it is asked for the record, or given a new one. -/
inductive CacheFails (project : Project σ) (path : String) (w : World σ) (failure : Failure) : Prop
  | lookup {data : List UInt8} {s : σ} (read : project.read path = .ok data)
      (failed : project.cache.lookup path w.store = .error failure s)
  | store {data : List UInt8} {found : Option FileRecord} {s t : σ} {text : List Char}
      {problems : List Problem} (read : project.read path = .ok data)
      (lookup : project.cache.lookup path w.store = .ok found s)
      (stale : current? (Digest.fingerprint data) found = none)
      (decode : Text.Utf8.decode data = .ok text)
      (examine : (project.examine path (String.ofList text)).result = .ok problems)
      (failed : project.cache.store path (recordMade project path data w.ticks problems) s =
        .error failure t)

/-- A file at which the cache fails is not settled. -/
theorem settle_of_cacheFails {project : Project σ} {path : String} {w : World σ} {failure : Failure}
    (fails : CacheFails project path w failure) :
    ∃ w', settle project path w = .error failure w' := by
  have coming := settling project path w
  generalize settle project path w = result at coming
  cases fails with
  | lookup read failed => cases coming <;> simp_all
  | store read lookup stale decode examine failed =>
      cases coming with
      | hit read' lookup' same =>
          -- a record that is current is not made anew
          obtain rfl := Except.ok.inj (read.symm.trans read')
          cases lookup.symm.trans lookup'
          simp [current?, same] at stale
      | _ => simp_all

/-- A visit at which the cache fails ends the run. -/
theorem run_of_cacheFails {project : Project σ} {continueOnError : Bool} {paths : List String}
    {w u : World σ} {path : String} {failure : Failure}
    (member : (path, u) ∈ visits project continueOnError paths w)
    (fails : CacheFails project path u failure) (other : ∀ r, failure ≠ .rejected r) :
    ∃ w', run project continueOnError paths w = .error failure w' := by
  obtain ⟨w', settled⟩ := settle_of_cacheFails fails
  have visited : visit project continueOnError path u = .error failure w' :=
    visit_ended settled (.inr other)
  exact ⟨w', (run_of_visit_failed member visited).1⟩

end Build

namespace CommandLine

open Build (World)
open Cache.Database (Failing failing)

variable {o : Options} {clock : Clock} {disk : Disk} {failure : Failure} {path : String}

/-- The cache of a build fails: it is to be emptied, or at one of the files that are taken up. -/
inductive Options.CacheFails (o : Options) (clock : Clock) (disk : Disk) (failure : Failure) : Prop
  | emptied {w : World Storage}
      (discarded : discard o (ready o.verbosity.threshold o disk) = .error failure w)
  | file {w u : World Storage} {path : String}
      (discarded : discard o (ready o.verbosity.threshold o disk) = .ok () w)
      (member : (path, u) ∈
        Build.visits (project o clock disk) o.continueOnError (o.files disk) w)
      (fails : Build.CacheFails (project o clock disk) path u failure)

/-- Emptying a database rejects no file. -/
theorem discard_not_rejected {w w' : World Storage} (failed : discard o w = .error failure w')
    (r : Rejection) : failure ≠ .rejected r := by
  obtain ⟨db, -, ends⟩ := clear_of_discard failed
  obtain ⟨fault, rfl⟩ | rfl := (failing db w.store.disk).clear_cases ends <;> rintro ⟨⟩

/-- The cache of a command line is a memory, which never fails, or a database. -/
theorem cache_cases (o : Options) : o.cache = .memory ∨ ∃ db, o.cache = .database db := by
  unfold Options.cache
  cases o.database? with
  | none => exact .inl rfl
  | some db => exact .inr ⟨db, rfl⟩

theorem lookup_of_cache {s s' : Storage} (failed : o.cache.lookup path s = .error failure s') :
    ∃ db, answer (Cache.Database.lookup db path s.disk) = .error failure := by
  obtain cached | ⟨db, cached⟩ := cache_cases o
  · rw [cached] at failed
    cases failed
  · rw [cached] at failed
    exact ⟨db, (Storage.answer_onDisk _ s).symm.trans (congrArg answer failed)⟩

theorem store_of_cache {s s' : Storage} {record : FileRecord}
    (failed : o.cache.store path record s = .error failure s') :
    ∃ db, answer (Cache.Database.store db path record s.disk) = .error failure := by
  obtain cached | ⟨db, cached⟩ := cache_cases o
  · rw [cached] at failed
    cases failed
  · rw [cached] at failed
    exact ⟨db, (Storage.answer_onDisk _ s).symm.trans (congrArg answer failed)⟩

/-- A cache rejects no file. -/
theorem not_rejected_of_cacheFails {w : World Storage}
    (fails : Build.CacheFails (project o clock disk) path w failure) (r : Rejection) :
    failure ≠ .rejected r := by
  cases fails with
  | lookup read failed =>
      obtain ⟨db, ends⟩ := lookup_of_cache failed
      obtain ⟨fault, rfl⟩ | ⟨fault, rfl⟩ | rfl := (failing db _).lookup_cases ends <;> rintro ⟨⟩
  | store read lookup stale decode examine failed =>
      obtain ⟨db, ends⟩ := store_of_cache failed
      obtain ⟨fault, rfl⟩ | rfl | rfl | rfl := (failing db _).store_cases ends <;> rintro ⟨⟩

/-- The ending of a build that a failure ends. -/
theorem ending_failed (w : World Storage) (other : ∀ r, failure ≠ .rejected r) :
    (∀ fault, failure = .cache fault → (failed o w failure).ending = .ok 2) ∧
      ((∀ fault, failure ≠ .cache fault) → (failed o w failure).ending = .error failure) := by
  cases failure with
  | rejected r => exact absurd rfl (other r)
  | cache fault => exact ⟨fun _ _ => rfl, fun none_ => absurd rfl (none_ fault)⟩
  | _ => exact ⟨nofun, fun _ => rfl⟩

/-- **A command line whose cache fails** ends with exit code 2 if a fault is reported, and by the failure
itself if not. -/
theorem ending_of_fails {argv : List String} (parsed : Options.parse argv = some o)
    (begins : o.Begins disk) (fails : o.CacheFails clock disk failure) :
    (∀ fault, failure = .cache fault → (run argv clock disk).ending = .ok 2) ∧
      ((∀ fault, failure ≠ .cache fault) → (run argv clock disk).ending = .error failure) := by
  have concludes : runBuild o clock disk = concluded o (build o clock (world o disk)) := rfl
  rw [run_parsed parsed, runOptions_begun begins, concludes, build_apply]
  cases fails with
  | emptied discarded =>
      rw [discarded]
      exact ending_failed _ (discard_not_rejected discarded)
  | file discarded member fails =>
      have other := not_rejected_of_cacheFails fails
      obtain ⟨w', ran⟩ := Build.run_of_cacheFails member fails other
      rw [discarded]
      dsimp only
      rw [ran]
      exact ending_failed w' other

/-- **Which failures of a cache are faults, and what a command line makes of the others.**  What a
database fails by is listed exactly, for every content and every record; and where the cache of a command
line fails, its exit code is 2 for a fault, and any other failure leaves it without one. -/
theorem cache_failures (db : Path) (disk : Disk) :
    Failing db disk ∧
      ∀ {argv : List String} {o : Options} {clock : Clock} {failure : Failure},
        Options.parse argv = some o → o.Begins disk → o.CacheFails clock disk failure →
          (∀ fault, failure = .cache fault → (run argv clock disk).ending = .ok 2) ∧
            ((∀ fault, failure ≠ .cache fault) → (run argv clock disk).ending = .error failure) :=
  ⟨failing db disk, ending_of_fails⟩

/-! ### A time that is none -/

/-- A disk with the project and a database in which the time of its file is none. -/
def mistimed : Disk :=
  small.put ["work", "db"] (.file (.database ⟨[⟨"a.py", "0", "yesterday"⟩], [], false⟩))

/-- The failure to look the file up. -/
def untimely : Failure :=
  .row (.timestamp (.shape "yesterday"))

/-- What a build comes upon: the one file of the project can be read, and its record cannot. -/
theorem found_mistimed :
    Options.parse (words "db" "out") = some (asked "db" "out") ∧
    (asked "db" "out").files mistimed = ["a.py"] ∧
    (project (asked "db" "out") noon mistimed).read "a.py" = .ok [] ∧
    answer (Cache.Database.lookup (Path.ofText "db") "a.py" mistimed) = .error untimely := by
  refine ⟨?_, ?_, ?_, ?_⟩ <;> decide +kernel

theorem begins_mistimed : (asked "db" "out").Begins mistimed where
  root := by decide +kernel
  place := by
    rintro db ⟨⟩
    decide +kernel
  sought := ⟨["a.py"], by decide +kernel⟩

theorem fails_mistimed : (asked "db" "out").CacheFails noon mistimed untimely := by
  obtain ⟨-, files, read, looked⟩ := found_mistimed
  have failed : (asked "db" "out").cache.lookup "a.py"
      (ready (asked "db" "out").verbosity.threshold (asked "db" "out") mistimed).store =
        .error untimely ⟨endState (Cache.Database.lookup (Path.ofText "db") "a.py" mistimed), []⟩ := by
    show Storage.onDisk (Cache.Database.lookup (Path.ofText "db") "a.py") ⟨mistimed, []⟩ = _
    rw [Storage.onDisk, eq_error_of_answer looked]
    rfl
  refine .file rfl ?_ (.lookup read failed)
  rw [files, Build.visits]
  exact .head _

/-- A build of the project ends as the lookup does. -/
theorem cache_failures_mistimed :
    (Cache.Database.Failing (Path.ofText "db") mistimed) ∧
      (asked "db" "out").CacheFails noon mistimed untimely ∧
      (run (words "db" "out") noon mistimed).ending = .error untimely := by
  obtain ⟨listed, ends⟩ := cache_failures (Path.ofText "db") mistimed
  exact ⟨listed, fails_mistimed, (ends found_mistimed.1 begins_mistimed fails_mistimed).2 nofun⟩

/-- A disk with the project and a database in which the severity of a problem is none. -/
def misgraded : Disk :=
  small.put ["work", "db"] (.file (.database
    ⟨[⟨"a.py", "0", "2026-05-01T12:00:00"⟩], [⟨"a.py", 0, 9, "x", "[]", none⟩], false⟩))

/-- A record with a line that is too great for a table. -/
def overlong : FileRecord :=
  ⟨"a.py", "1", noon 0, [⟨.error, "x", [], some 9223372036854775808⟩]⟩

/-- **Not every failure of a cache is reported as a fault.**  A time or a severity that is none ends a
lookup, and a line that is too great ends a store; and a command line that comes upon such a row has no
exit code. -/
theorem failures_that_are_no_faults :
    answer (Cache.Database.lookup (Path.ofText "db") "a.py" mistimed) = .error untimely ∧
    answer (Cache.Database.lookup (Path.ofText "db") "a.py" misgraded) = .error (.row (.severity 9)) ∧
    answer (Cache.Database.store (Path.ofText "db") "a.py" overlong small) = .error .integerRange ∧
    (run (words "db" "out") noon mistimed).ending = .error untimely := by
  obtain ⟨parsed, -, -, looked⟩ := found_mistimed
  refine ⟨looked, by decide +kernel, by decide +kernel, ?_⟩
  exact (ending_of_fails parsed begins_mistimed fails_mistimed).2 nofun

end CommandLine

end Docwright
