import Docwright.Proofs.Build.Truthful
import Docwright.Proofs.Cache.Failures
import Docwright.Proofs.Cache.RoundTrip

/-!
# Words that survive a database

What an examination finds can be said (`Check.said_run`).  A record of an examination comes
out of a database with the problems that it was stored with, if it comes out at all, and so
it can still be said (`found_after_store`).

A database of such records is truthful (`database_truthful`).  Its rows can be read, and
what it fails by is a fault, or the null character of its name, or a record with more
problems, or with greater lines, than a table has room for; no value in a record has too
many digits, for all of them are texts.
-/

namespace Docwright

open Check (Attested Modest)

/-- All problems of a record can be said. -/
def FileRecord.Spoken (record : FileRecord) : Prop := ∀ p ∈ record.problems, p.Spoken

theorem FileRecord.Spoken.renders {record : FileRecord} (spoken : record.Spoken) : record.Renders :=
  fun p member => p.render_text (spoken p member).rendered

namespace Check

variable {path source : String} {problems : List Problem}

theorem Attested.spoken {occurs : List UInt8 → Prop} {record : FileRecord}
    (attested : Attested occurs path record) : record.Spoken := by
  obtain ⟨-, -, data, text, -, -, -, examined⟩ := attested
  exact said_run examined

/-- The values of what an examination finds are stored as they are, and have no digits to count. -/
theorem canonical_run (examined : (run path source).result = .ok problems) :
    ∀ p ∈ problems, ∀ v ∈ p.values, v.Canonical := by
  intro p member v within
  obtain ⟨s, rfl⟩ := (worded_run examined p member).texts v within
  exact trivial

theorem not_lengthy_run (examined : (run path source).result = .ok problems) :
    ∀ p ∈ problems, ¬ p.Lengthy := by
  rintro p member ⟨n, within, -⟩
  obtain ⟨s, same⟩ := (worded_run examined p member).texts _ within
  cases same

end Check

namespace Cache

/-- A table has no room for problems where one of them has a place or a line that is too great. -/
theorem Overflows.not_modest {guarded : Bool} {problems : List Problem}
    (overflows : Overflows guarded 0 problems) : ¬ Modest problems := by
  obtain ⟨before, p, after, rfl, great, -⟩ := overflows
  rintro ⟨few, lines⟩
  rcases great with far | ⟨n, line, great⟩
  · rw [List.length_append, List.length_cons] at few
    omega
  · have fits := lines p (List.mem_append_right _ List.mem_cons_self) n line
    rw [great] at fits
    cases fits

namespace Database

variable {trouble trouble' : Trouble} {db : Path} {path : String} {record found : FileRecord}
  {disk disk' : Disk} {failure : Failure}

/-- What is found after a store has the problems that were stored, with scalars alone. -/
theorem found_after_store (canonical : ∀ p ∈ record.problems, ∀ v ∈ p.values, v.Canonical)
    (done : storeAmid trouble db path record disk = .ok () disk')
    (answered : answer (lookupAmid trouble' db path disk') = .ok (some found)) :
    found.problems = record.problems.map Problem.plain := by
  have lasting : db.text ≠ ":memory:" := by
    intro memory
    cases none_of_lookup_memory memory answered
  obtain ⟨time, rfl⟩ := found_with_time lasting lasting canonical done rfl answered
  rfl

/-- In a database that lasts something is found after a store. -/
theorem finds_after_store (lasting : db.text ≠ ":memory:") (clean : db.hasNull = false)
    (range : record.analyzed.InRange)
    (canonical : ∀ p ∈ record.problems, ∀ v ∈ p.values, v.Canonical)
    (done : storeAmid trouble db path record disk = .ok () disk') :
    ∃ found, answer (lookup db path disk') = .ok (some found) :=
  ⟨_, answer_lookup_of_store lasting lasting clean rfl range canonical done⟩

/-- What a database fails by that holds records of examinations, whatever it is given: a fault is reported,
or its name has a null character. -/
inductive Excuse (db : Path) : Failure → Prop
  | fault {fault : Fault} : Excuse db (.cache fault)
  | null (null : db.hasNull = true) : Excuse db .nullByte

/-- What a database fails by where it is given a record: a table has no room for it. -/
inductive Excess (record : FileRecord) : Failure → Prop
  | mk (immodest : ¬ Modest record.problems) : Excess record .integerRange

variable {occurs : List UInt8 → Prop}

theorem excuse_of_lookup (reliable : Reliable (Attested occurs) db disk)
    (failed : answer (lookup db path disk) = .error failure) : Excuse db failure := by
  cases clean : db.hasNull with
  | true =>
      obtain rfl := Except.error.inj (failed.symm.trans ((failing db disk).lookup_null.mpr clean))
      exact .null clean
  | false =>
      obtain ⟨fault, rfl⟩ := (reliable.lookup clean path).2.2 failure failed
      exact .fault

theorem excuse_of_clear (failed : answer (clear db disk) = .error failure) : Excuse db failure := by
  obtain ⟨fault, rfl⟩ | rfl := (failing db disk).clear_cases failed
  · exact .fault
  · exact .null ((failing db disk).clear_null.mp failed)

/-- A store of a record of an examination fails by an excuse, or the record is too much for a table. -/
theorem excuse_of_store (attested : Attested occurs path record)
    (failed : answer (store db path record disk) = .error failure) :
    Excuse db failure ∨ Excess record failure := by
  obtain ⟨-, -, data, text, -, -, -, examined⟩ := attested
  obtain ⟨fault, rfl⟩ | rfl | rfl | rfl := (failing db disk).store_cases failed
  · exact .inl .fault
  · obtain ⟨-, -, p, member, lengthy⟩ := (failing db disk).store_unprintable.mp failed
    exact absurd lengthy (Check.not_lengthy_run examined p member)
  · obtain ⟨-, t, -, -, overflows⟩ := (failing db disk).store_integerRange.mp failed
    exact .inr ⟨overflows.not_modest⟩
  · exact .inl (.null ((failing db disk).store_null.mp failed))

end Database

end Cache

/-! ### Truthful caches -/

namespace FileCache

open Cache Cache.Database

variable {occurs : List UInt8 → Prop}

/-- **A database of records of examinations is truthful**, whatever it is called. -/
theorem database_truthful (db : Path) :
    (database db).Truthful (fun s => Reliable (Attested occurs) db s.disk)
      (Attested occurs) (Excuse db) Excess where
  lookup_good := by
    intro path s reliable
    change Reliable _ _ (endState (Storage.onDisk _ s)).disk
    rw [Storage.endState_onDisk]
    exact reliable.alike (lookupAmid_opens .calm db path s.disk).1
  lookup_ok := by
    intro path s record reliable answered
    change answer (Storage.onDisk _ s) = _ at answered
    rw [Storage.answer_onDisk] at answered
    cases clean : db.hasNull with
    | true => cases answered.symm.trans ((failing db s.disk).lookup_null.mpr clean)
    | false => exact (reliable.lookup clean path).2.1 _ answered record rfl
  lookup_error := by
    intro path s failure reliable failed
    change answer (Storage.onDisk _ s) = _ at failed
    rw [Storage.answer_onDisk] at failed
    exact excuse_of_lookup reliable failed
  store_good := by
    intro path record s reliable attested
    change Reliable _ _ (endState (Storage.onDisk _ s)).disk
    rw [Storage.endState_onDisk]
    exact reliable.store attested attested.own attested.preserved
  store_error := by
    rintro path record s failure - attested failed
    change answer (Storage.onDisk _ s) = _ at failed
    rw [Storage.answer_onDisk] at failed
    exact excuse_of_store attested failed

/-- A memory is truthful, and never fails. -/
theorem memory_truthful {Q : String → FileRecord → Prop} {known : Failure → Prop}
    {refuses : FileRecord → Failure → Prop} :
    memory.Truthful (fun s => ∀ path record, s.memory.lookup path = some record → Q path record) Q known
      refuses where
  lookup_good := by
    rintro path s kept
    exact kept
  lookup_ok := by
    rintro path s record kept answered
    exact kept path record (Except.ok.inj answered)
  lookup_error := by
    rintro path s failure - ⟨⟩
  store_good := by
    rintro path record s kept kind q other found
    exact (memory_honest.store_ok kept kind rfl) q other found
  store_error := by
    rintro path record s failure - - ⟨⟩

end FileCache

end Docwright
