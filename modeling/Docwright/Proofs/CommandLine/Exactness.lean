import Docwright.Proofs.Build.Exactness
import Docwright.Proofs.Build.Incremental
import Docwright.Proofs.CommandLine.Repetition

/-!
# Exact hits, seen from the command line

Two views of one fact.  Inside a build it is exact which visits hit the cache and what
follows from that (`Occasion.Exact`); from outside, a command line that is repeated
shows every file as a cached one and says the same otherwise (`Outcome.Repeats`).

Both need a cache that keeps what it is given.  Where a cache fails, where a database is
gone when the build ends, or where the summary of a build is written over the database,
the second time differs.
-/

namespace Docwright.CommandLine

open Build (Episode Occasion Stock stockAfter)

variable {argv : List String} {o : Options} {clock : Clock} {disk : Disk}

theorem run_parsed (parsed : Options.parse argv = some o) :
    run argv clock disk = runOptions o clock disk := by
  rw [run, parsed]

/-- **Builds hit exactly.**  After every history of builds and emptyings of a cache that was empty at first,
a further build is exact; and a command line that keeps its records in a database comes to the same when it
is carried out again, with every file shown as a cached one. -/
theorem builds_hit_exactly :
    (∀ {σ : Type} {ledger : Ledger σ} {history : List (Episode σ)} {last : Occasion σ} {first : σ},
      ledger.Empty first → (∀ episode ∈ history, episode.Uses ledger) → last.Uses ledger →
        last.Exact ledger (stockAfter history first Stock.empty) (Build.replay history first)) ∧
    ∀ {argv : List String} {o : Options} {clock clock' : Clock} {disk : Disk} {db : Path},
      Options.parse argv = some o → o.Repeatable clock disk db → clock.Valid → clock'.Valid →
        Outcome.Repeats (run argv clock disk) (run argv clock' (run argv clock disk).disk) := by
  refine ⟨fun empty uses uses_last => Build.exact_replay empty uses uses_last, ?_⟩
  intro argv o clock clock' disk db parsed repeatable valid valid'
  simp only [run_parsed parsed]
  exact runOptions_again repeatable valid valid'

/-! ### One command line, carried out twice -/

/-- A clock that stands still. -/
def noon : Clock := fun _ => ⟨⟨2026, 5, 1⟩, 12, 0, 0, 0, none⟩

/-- A disk with a project of one empty file. -/
def small : Disk := .directory [("proj", .directory [("a.py", .file (.bytes []))])]

/-- The words of a build of that project, with its records in a database and with a summary. -/
def words (db summary : String) : List String :=
  ["build", "--path", "proj", "--cache-db", db, "--summary-output", summary]

/-- What those words ask for. -/
def asked (db summary : String) : Options :=
  ⟨"proj", some db, false, [], .normal, false, some summary⟩

theorem noon_valid : noon.Valid := by
  have valid : Timestamp.Valid ⟨⟨2026, 5, 1⟩, 12, 0, 0, 0, none⟩ :=
    ⟨by decide, by decide, by decide, by decide, by decide, by decide, by decide, nofun⟩
  exact fun _ => valid

theorem files_small : (asked "db" "out").files small = ["a.py"] := by decide +kernel

theorem repeatable_small : (asked "db" "out").Repeatable noon small (Path.ofText "db") where
  named := rfl
  lasting := by decide +kernel
  kept := rfl
  few _ := by decide +kernel
  unchanged := by
    refine ⟨by decide +kernel, ?_⟩
    rw [files_small]
    decide +kernel
  apart := by
    have kept : (runOptions (asked "db" "out") noon small).disk.fileForWriting (Path.ofText "db") =
        .ok ["work", "db"] := by decide +kernel
    have summed : (runOptions (asked "db" "out") noon small).disk.fileForWriting (Path.ofText "out") =
        .ok ["work", "out"] := by decide +kernel
    intro output wanted db named names opened
    obtain rfl : "out" = output := Option.some.inj wanted
    obtain rfl : Path.ofText "db" = db := Option.some.inj named
    rw [summed]
    rw [kept] at opened
    cases opened
    decide

/-- A file that is edited into something that is no text, and back: the build after that is exact.  And a
project that is built twice. -/
theorem builds_hit_exactly_reverted :
    (Build.single [0x61]).Exact Ledger.memory
      (stockAfter [.build (Build.single [0x61]), .build (Build.single [0xff])] ⟨small, []⟩ Stock.empty)
      (Build.replay [.build (Build.single [0x61]), .build (Build.single [0xff])] ⟨small, []⟩) ∧
    Outcome.Repeats (run (words "db" "out") noon small)
      (run (words "db" "out") noon (run (words "db" "out") noon small).disk) := by
  have empty : Ledger.memory.Empty ⟨small, []⟩ := ⟨trivial, rfl⟩
  have uses : ∀ data, (Build.single data).Uses Ledger.memory :=
    fun _ => ⟨FileCache.memory_faithful, fun _ _ _ => trivial⟩
  refine ⟨builds_hit_exactly.1 empty ?_ (uses _), ?_⟩
  · simp only [List.mem_cons, List.not_mem_nil, or_false]
    rintro episode (rfl | rfl)
    · exact uses _
    · exact uses _
  · have parsed : Options.parse (words "db" "out") = some (asked "db" "out") := by decide +kernel
    exact builds_hit_exactly.2 parsed repeatable_small noon_valid noon_valid

/-! ### Where a repetition differs -/

/-- A build of an empty file, with a cache that fails to keep what it is given. -/
def unkept : Occasion Storage :=
  { Build.single [] with project := { (Build.single []).project with cache := .unavailable } }

/-- **A cache that does not keep its records is not hit again.**  A file whose examination succeeded is
examined again where the cache failed to keep its record; a command line whose database is gone when it
ends shows every file as an examined one again; and where the summary is written over the database, the
second time ends with another exit code. -/
theorem repetition_fails :
    ((unkept.visits ⟨small, []⟩).map Prod.fst = ["a.py"] ∧
        (unkept.project.examine "a.py" "").result.toOption.isSome ∧
        (endState (unkept.run (unkept.after ⟨small, []⟩))).examined = ["a.py"]) ∧
      ((run (words ":memory:" "out") noon small).stdout =
          "Parsed modified file \x1b[32ma.py\x1b[0m\n".toList ∧
        (run (words ":memory:" "out") noon (run (words ":memory:" "out") noon small).disk).stdout =
          "Parsed modified file \x1b[32ma.py\x1b[0m\n".toList) ∧
      (run (words "db" "db") noon small).ending = .ok 0 ∧
        (run (words "db" "db") noon (run (words "db" "db") noon small).disk).ending = .ok 2 := by
  refine ⟨⟨?_, ?_, ?_⟩, ⟨?_, ?_⟩, ?_, ?_⟩ <;> decide +kernel

end Docwright.CommandLine
