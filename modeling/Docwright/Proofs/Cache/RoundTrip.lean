import Docwright.Proofs.Cache.Failures
import Docwright.Proofs.Message.Members

/-!
# What was stored is read back

A record that was stored is found again with its fingerprint and its problems: each
problem has the scalars it was stored with, of the same kinds and in the same places.
If scalars are all that it has, it comes back as it was, and so it is rendered like
the one that was stored, or fails to be rendered as that one does
(`stored_problems_read_back`).

Equality by value would not do for that.  It takes a truth value for a number and a
negative zero for a positive one, which are rendered apart, and a number that is none for
different from itself.  So what is compared here is the problems, not their values as
numbers, and nothing is asked of the record but that its doubles are doubles
(`Scalar.Canonical`): not that the time of the examination survives, nor that the record
is stored under its own path.

What does not come back are members of enumerations, which a problem lets in where they
count as scalars.  They are written as these, and their own words are lost: a severity
or a verbosity is rendered one way before it is stored and another way after that
(`members_read_back_as_scalars`).  Words that are those of the scalar are not missed, and
these are all that are not (`FileRecord.ReadAs.reworded`); a scalar has no others
(`Problem.Scalars.plainspoken`).

Whether anything is found is the other half.  A database that lasts finds the record
again wherever the path to its file comes from, if the time in it is one of the
calendar.  What is stored under the name `:memory:` is gone with the connection, and
nothing is found there.
-/

namespace Docwright

/-- A record that was found agrees with one that was stored for a path in all that its problems are
rendered from, except that there are scalars in the places of members. -/
structure FileRecord.ReadAs (path : String) (stored found : FileRecord) : Prop where
  path : found.path = path
  fingerprint : found.fingerprint = stored.fingerprint
  problems : found.problems = stored.problems.map Problem.plain
  /-- A problem is found as it was stored exactly if all its values are scalars. -/
  kept : ∀ {i : Nat} {p : Problem}, stored.problems[i]? = some p →
    (found.problems[i]? = some p ↔ p.Scalars)
  rendered : ∀ {i : Nat} {p : Problem}, stored.problems[i]? = some p → p.Plainspoken →
    found.problems[i]?.map Problem.render = some p.render
  /-- With its values in any words a problem is rendered as it was exactly if they have the words of
  scalars. -/
  reworded : ∀ {i : Nat} {p : Problem}, stored.problems[i]? = some p →
    ((∀ template, found.problems[i]?.map (fun q => (q.reworded template).render) =
      some (p.reworded template).render) ↔ p.Plainspoken)

/-- A record that differs from a stored one in its path, its time and its members alone agrees with it. -/
theorem FileRecord.readAs_with {record : FileRecord} (short : ∀ p ∈ record.problems, ¬ p.Lengthy)
    (path : String) (time : Timestamp) :
    record.ReadAs path { record.plain with path := path, analyzed := time } := by
  have found : ∀ {i : Nat} {p : Problem}, record.problems[i]? = some p →
      (record.problems.map Problem.plain)[i]? = some p.plain := by
    intro i p there
    rw [List.getElem?_map, there, Option.map_some]
  have told : ∀ {i : Nat} {p : Problem}, record.problems[i]? = some p →
      ((∀ template, (p.plain.reworded template).render = (p.reworded template).render) ↔
        p.Plainspoken) := fun there =>
    Problem.plain_rendered_iff (Problem.not_lengthy_iff.mp (short _ (List.mem_of_getElem? there)))
  refine ⟨rfl, rfl, rfl, fun there => ?_, fun {i p} there plain => ?_, fun there => ?_⟩
  · change (record.problems.map Problem.plain)[_]? = _ ↔ _
    rw [found there, Option.some.injEq]
    exact Problem.plain_eq_self_iff
  · change ((record.problems.map Problem.plain)[_]?).map _ = _
    rw [found there, Option.map_some]
    exact congrArg some ((told there).mpr plain p.template)
  · change (∀ template, ((record.problems.map Problem.plain)[_]?).map _ = _) ↔ _
    simp only [found there, Option.map_some, Option.some.injEq]
    exact told there

/-- Problems that are equal by value can be rendered apart. -/
example :
    let stored : Problem := ⟨.error, "%s %s", [.bool true, .float (.finite true 0 (-1074))], none⟩
    let drifted : Problem := ⟨.error, "%s %s", [.int 1, .float (.finite false 0 (-1074))], none⟩
    stored.same drifted = true ∧ stored.render = .ok "True -0.0" ∧ drifted.render = .ok "1 0.0" := by
  decide +kernel

namespace Cache.Database

variable {trouble trouble' : Trouble} {db db' : Path} {path : String} {record : FileRecord}
  {disk disk' : Disk}

/-- In a database that does not last nothing is found. -/
theorem none_of_lookup_memory (memory : db.text = ":memory:") {found : Option FileRecord}
    (answered : answer (lookupAmid trouble db path disk) = .ok found) : found = none := by
  rw [(lookupAmid_opens trouble db path disk).2] at answered
  obtain ⟨failure, fails, -⟩ | ⟨t, seen, opens⟩ :=
    opening_cases trouble db (.lookup path) (sight db disk)
  · rw [fails] at answered
    cases answered
  · rw [memory, if_pos (beq_self_eq_true _)] at seen
    obtain rfl := Sight.rows.inj seen
    rw [opens] at answered
    change selecting trouble db path Tables.empty = .ok found at answered
    rw [selecting] at answered
    split at answered
    · cases answered
    · exact (Except.ok.inj answered).symm

/-- What is held after a store, for the path of the store: the record, with the time as it can be
read. -/
theorem held_after_store (lasting : db.text ≠ ":memory:")
    (canonical : ∀ p ∈ record.problems, ∀ v ∈ p.values, v.Canonical)
    (done : storeAmid trouble db path record disk = .ok () disk')
    (same : disk.fileForWriting db' = disk.fileForWriting db) :
    held db' disk' path = (timeOf (String.ofList record.analyzed.text)).map fun time =>
      some { record.plain with path := path, analyzed := time } := by
  obtain ⟨names, t, t', rows, opened, -, rfl, written, view⟩ := view_of_store lasting done
  rw [held, sight_written (same.trans opened)]
  change t'.record? path = _
  rw [Tables.record?_eq, view, Function.update_self]
  change (recordOf path (fileRow path record) rows).map some = _
  rw [recordOf_written canonical written]
  cases timeOf (String.ofList record.analyzed.text) <;> rfl

/-- No number in a record that is stored in a database that lasts has too many digits. -/
theorem not_lengthy_of_store (lasting : db.text ≠ ":memory:")
    (done : storeAmid trouble db path record disk = .ok () disk') :
    ∀ p ∈ record.problems, ¬ p.Lengthy := by
  obtain ⟨-, -, -, rows, -, -, -, written, -⟩ := view_of_store lasting done
  intro p member lengthy
  have unwritten := (@problemRows?_eq_none_iff path 0 record.problems).mpr ⟨p, member, lengthy⟩
  cases written.symm.trans unwritten

/-- What is found after a store is the record that was stored, but for its path, its time and members. -/
theorem found_with_time (lasting : db.text ≠ ":memory:") (lasting' : db'.text ≠ ":memory:")
    (canonical : ∀ p ∈ record.problems, ∀ v ∈ p.values, v.Canonical)
    (done : storeAmid trouble db path record disk = .ok () disk')
    (same : disk.fileForWriting db' = disk.fileForWriting db)
    (answered : answer (lookupAmid trouble' db' path disk') = .ok (some found)) :
    ∃ time, found = { record.plain with path := path, analyzed := time } := by
  have holds := held_of_lookup lasting' (eq_ok_of_answer answered)
  rw [held_after_store lasting canonical done same] at holds
  cases read : timeOf (String.ofList record.analyzed.text) with
  | error fault =>
      rw [read] at holds
      cases holds
  | ok time =>
      rw [read] at holds
      exact ⟨time, (Option.some.inj (Except.ok.inj holds)).symm⟩

/-- A lookup without trouble answers from what is held. -/
theorem answer_lookup_of_held (lasting : db.text ≠ ":memory:") (null : db.hasNull = false)
    {found : FileRecord} (holds : held db disk path = .ok (some found)) :
    answer (lookup db path disk) = .ok (some found) := by
  rw [lookup, (lookupAmid_opens .calm db path disk).2]
  rw [held] at holds
  cases seen : sight db disk with
  | closed | unreadable =>
      rw [seen] at holds
      cases holds
  | rows t =>
      rw [seen] at holds
      change t.record? path = .ok (some found) at holds
      rw [opening_calm (.lookup path) null lasting]
      change selecting .calm db path t = _
      rw [selecting, Trouble.first?_calm, holds]

/-- In a database that lasts the record is found after a store, with the time as it is read back, if that is
one of the calendar. -/
theorem answer_lookup_of_store (lasting : db.text ≠ ":memory:") (lasting' : db'.text ≠ ":memory:")
    (null : db'.hasNull = false) (same : disk.fileForWriting db' = disk.fileForWriting db)
    (range : record.analyzed.InRange)
    (canonical : ∀ p ∈ record.problems, ∀ v ∈ p.values, v.Canonical)
    (done : storeAmid trouble db path record disk = .ok () disk') :
    answer (lookup db' path disk') =
      .ok (some { record.plain with path := path, analyzed := record.analyzed.readBack }) := by
  have holds := held_after_store lasting canonical done same
  rw [timeOf, range.parse_text] at holds
  exact answer_lookup_of_held lasting' null holds

/-- **What was stored is read back**, with scalars in the places of members.  Whatever a lookup finds after
a store, through any path to the file and amid any trouble, is problem by problem what was stored, exactly
where a problem has scalars alone, and is rendered like it, exactly where the words of its values are those
of scalars; and in a database that lasts that record is found, with the time as it is read back. -/
theorem stored_problems_read_back
    (canonical : ∀ p ∈ record.problems, ∀ v ∈ p.values, v.Canonical)
    (done : storeAmid trouble db path record disk = .ok () disk') :
    (∀ {trouble' db' found}, db' = db ∨
        db.text ≠ ":memory:" ∧ disk.fileForWriting db' = disk.fileForWriting db →
      answer (lookupAmid trouble' db' path disk') = .ok (some found) → record.ReadAs path found) ∧
    (∀ {db'}, db.text ≠ ":memory:" → db'.text ≠ ":memory:" → db'.hasNull = false →
      disk.fileForWriting db' = disk.fileForWriting db → record.analyzed.InRange →
      ∃ found, answer (lookup db' path disk') = .ok (some found) ∧ record.ReadAs path found ∧
        found.analyzed = record.analyzed.readBack) := by
  constructor
  · intro trouble' db' found leads answered
    -- what finds something is a database that lasts, so the store went to a file
    have lasting' : db'.text ≠ ":memory:" := by
      intro memory
      cases none_of_lookup_memory memory answered
    obtain ⟨lasting, same⟩ : db.text ≠ ":memory:" ∧
        disk.fileForWriting db' = disk.fileForWriting db := by
      rcases leads with rfl | leads
      · exact ⟨lasting', rfl⟩
      · exact leads
    obtain ⟨time, rfl⟩ := found_with_time lasting lasting' canonical done same answered
    exact FileRecord.readAs_with (not_lengthy_of_store lasting done) path time
  · intro db' lasting lasting' null same range
    exact ⟨_, answer_lookup_of_store lasting lasting' null same range canonical done,
      FileRecord.readAs_with (not_lengthy_of_store lasting done) path _, rfl⟩

/-- A record with values of every kind, among them those that values are easily taken for. -/
def varied : FileRecord :=
  ⟨"a.py", "1", ⟨⟨2026, 1, 2⟩, 3, 4, 5, 6, some 1⟩,
    [⟨.error, "%s %r %d", [.bool true, .int 1, .bool false], some 1⟩,
      ⟨.alert, "%r %r %e", [.float (.finite false (2 ^ 52) (-52)), .float (.finite true 0 (-1074)),
        .float (.finite false 0 (-1074))], none⟩,
      ⟨.debug, "%s %s %s %s", [.float .nan, .float (.infinite false), .float (.infinite true), .null],
        some (-1)⟩,
      ⟨.notice, "%a", [.text "\"\\/\x00\n\x7f\u2028😀'"], none⟩,
      ⟨.info, "%d %d", [.int (10 ^ 40)], none⟩]⟩

theorem varied_canonical : ∀ p ∈ varied.problems, ∀ v ∈ p.values, v.Canonical := by
  have one : Double.Positive 4503599627370496 (-52) := by constructor <;> decide
  simp [varied, Problem.values, Scalar.Canonical, Double.Canonical, Double.leastExponent, one]

/-- A record of all kinds of values that replaces another one, read back through the same database: the
offset of its time is less than a second, and its last message does not fit its values. -/
theorem stored_problems_read_back_varied :
    ∃ disk', storeAmid .calm ⟨"", ["c"]⟩ "a.py" varied keeping = .ok () disk' ∧
      ∃ found, answer (lookup ⟨"", ["c"]⟩ "a.py" disk') = .ok (some found) ∧
        varied.ReadAs "a.py" found := by
  obtain ⟨disk', done⟩ : ∃ disk',
      storeAmid .calm ⟨"", ["c"]⟩ "a.py" varied keeping = .ok () disk' :=
    ⟨_, eq_ok_of_answer (by decide +kernel)⟩
  have lasting : (⟨"", ["c"]⟩ : Path).text ≠ ":memory:" := by decide +kernel
  obtain ⟨found, answers, reads, -⟩ := (stored_problems_read_back varied_canonical done).2
    lasting lasting (by decide +kernel) rfl (by constructor <;> decide)
  exact ⟨disk', done, found, answers, reads⟩

/-- A record with a severity and a verbosity in the words of its problems. -/
def enumerated : FileRecord :=
  ⟨"a.py", "1", ⟨⟨2026, 1, 2⟩, 3, 4, 5, 0, some 0⟩,
    [⟨.error, "%r", [.member Severity.error.member], some 1⟩,
      ⟨.error, "%s", [.member Verbosity.debug.member], some 2⟩]⟩

/-- **Members are not read back.**  They are stored as a number and as a text, and rendered as these when
they are found again. -/
theorem members_read_back_as_scalars :
    ∃ disk' found, storeAmid .calm ⟨"", ["c"]⟩ "a.py" enumerated keeping = .ok () disk' ∧
      answer (lookup ⟨"", ["c"]⟩ "a.py" disk') = .ok (some found) ∧
      enumerated.problems.map Problem.render = [.ok "<Severity.ERROR: 4>", .ok "Verbosity.DEBUG"] ∧
      found.problems.map Problem.render = [.ok "4", .ok "debug"] := by
  obtain ⟨disk', done⟩ : ∃ disk',
      storeAmid .calm ⟨"", ["c"]⟩ "a.py" enumerated keeping = .ok () disk' :=
    ⟨_, eq_ok_of_answer (by decide +kernel)⟩
  have lasting : (⟨"", ["c"]⟩ : Path).text ≠ ":memory:" := by decide +kernel
  have canonical : ∀ p ∈ enumerated.problems, ∀ v ∈ p.values, v.Canonical := by
    simp [enumerated, Problem.values, Scalar.Canonical, Member.base, Severity.member, Verbosity.member]
  have answers := answer_lookup_of_store lasting lasting (by decide +kernel) rfl
    (by constructor <;> decide) canonical done
  exact ⟨disk', _, done, answers, by decide +kernel, by decide +kernel⟩

end Cache.Database

end Docwright
