import Docwright.Proofs.Cache.Atomicity
import Docwright.Proofs.Cache.Faithful
import Docwright.Proofs.Cache.Rows

/-!
# The records that a database holds

`held db disk` reads what a disk holds of a database as a map from paths to
records.  A lookup that succeeds answers from it (`held_of_lookup`), a store that
succeeds changes it at one path (`held_store`), an emptying that succeeds leaves
nothing of it (`held_clear`), and whatever fails leaves an alike disk.

So the cache in a database is a faithful one (`database_faithful`), and what is
true of builds with a faithful cache is true of builds with a database.  The name
`:memory:` is excluded throughout: its tables do not outlast an operation.
-/

namespace Docwright.Cache.Database

variable {trouble : Trouble} {db db' : Path} {operation : Operation} {disk disk' : Disk}
  {path q : String} {record : FileRecord} {t : Tables}

/-- The record that is seen for a path. -/
def Sight.record? : Sight → String → Except RowFault (Option FileRecord)
  | .rows t, path => t.record? path
  | .closed, _ | .unreadable _, _ => .ok none

/-- The record that a disk holds in a database for a path. -/
def held (db : Path) (disk : Disk) (path : String) : Except RowFault (Option FileRecord) :=
  (sight db disk).record? path

/-! ### Lookups -/

/-- A lookup that succeeds answers from the record that is held. -/
theorem held_of_lookup (lasting : db.text ≠ ":memory:") {found : Option FileRecord}
    (answered : lookupAmid trouble db path disk = .ok found disk') :
    held db disk path = .ok found := by
  have coming := (lookupAmid_opens trouble db path disk).2
  rw [answered, answer_ok] at coming
  cases opened : opening trouble db (.lookup path) (sight db disk) with
  | error failure =>
      rw [opened] at coming
      exact nomatch coming
  | ok t =>
      rw [opened] at coming
      change Except.ok found = selecting trouble db path t at coming
      unfold selecting at coming
      rw [held, rows_of_opening lasting opened]
      change t.record? path = .ok found
      split at coming
      · exact nomatch coming
      · split at coming
        · next record kept => rw [kept, Except.ok.inj coming]
        · exact nomatch coming

/-- A lookup that fails is no rejection of a file. -/
theorem lookup_not_rejected {failure : Failure}
    (failed : lookupAmid trouble db path disk = .error failure disk') (r : Rejection) :
    failure ≠ .rejected r := by
  have coming := (lookupAmid_opens trouble db path disk).2
  rw [failed, answer_error] at coming
  cases opened : opening trouble db (.lookup path) (sight db disk) with
  | error failure' =>
      rw [opened] at coming
      rw [Except.error.inj coming]
      exact not_rejected_of_opening opened r
  | ok t =>
      rw [opened] at coming
      change Except.error failure = selecting trouble db path t at coming
      unfold selecting at coming
      split at coming
      · rw [Except.error.inj coming]
        exact failureOf_not_rejected _ r
      · split at coming
        · exact nomatch coming
        · rw [Except.error.inj coming]
          nofun

theorem Alike.held (alike : Alike db disk disk') : held db disk' = held db disk := by
  funext path
  rw [Database.held, Database.held, alike.sight]

/-! ### Changes -/

/-- Rows that were written are seen through every path that leads to the file. -/
theorem sight_written {names : List String} (opened : disk.fileForWriting db = .ok names) (t : Tables) :
    sight db (disk.put names (.file (.database t))) = .rows t := by
  rw [sight_put opened, sightOf_database]

theorem sight_opened {names : List String} (opened : disk.fileForWriting db = .ok names) :
    sight db disk = sightOf (disk.top.at? names) := by
  rw [sight, opened]

/-- An alike disk has everything that was there. -/
theorem Alike.extends (alike : Alike db disk disk') : Disk.Extends disk disk' := by
  cases alike with
  | same => exact .refl disk
  | @written names content opened seen => exact (Disk.opened opened).extends_put content

/-- A change that fails leaves an alike disk, and is no rejection of a file. -/
theorem alike_of_perform {body : List Statement}
    (plain : ∀ statement ∈ body, statement.plain = true) {failure : Failure}
    (failed : perform trouble db operation (.begin :: body ++ [.commit]) disk =
      .error failure disk') :
    Alike db disk disk' ∧ ∀ r, failure ≠ .rejected r := by
  have coming := performed trouble db operation disk plain
  rw [failed] at coming
  cases coming with
  | failed alike other => exact ⟨alike, other⟩

theorem alike_of_store {failure : Failure}
    (failed : storeAmid trouble db path record disk = .error failure disk') :
    Alike db disk disk' ∧ ∀ r, failure ≠ .rejected r := by
  rw [storeAmid, storing_eq] at failed
  exact alike_of_perform (plain_storingBody path record) failed

theorem alike_of_clear {failure : Failure} (failed : clearAmid trouble db disk = .error failure disk') :
    Alike db disk disk' ∧ ∀ r, failure ≠ .rejected r := by
  rw [clearAmid, clearing_eq] at failed
  exact alike_of_perform plain_clearingBody failed

/-- A change that succeeds writes the rows that were seen, changed by all of its statements. -/
theorem changes_of_perform {body : List Statement}
    (plain : ∀ statement ∈ body, statement.plain = true) (lasting : db.text ≠ ":memory:")
    (done : perform trouble db operation (.begin :: body ++ [.commit]) disk = .ok () disk') :
    ∃ names t t', disk.fileForWriting db = .ok names ∧ sightOf (disk.top.at? names) = .rows t ∧
      t.changes body = .ok t' ∧ disk' = disk.put names (.file (.database t')) := by
  have coming := performed trouble db operation disk plain
  rw [done] at coming
  cases coming with
  | transient memory => exact absurd memory lasting
  | changed opened seen changes => exact ⟨_, _, _, opened, seen, changes, rfl⟩

/-- A store that succeeds writes the rows that were seen with those of the record in the place of the
rows of its path. -/
theorem view_of_store (lasting : db.text ≠ ":memory:")
    (done : storeAmid trouble db path record disk = .ok () disk') :
    ∃ names t t' rows, disk.fileForWriting db = .ok names ∧ sightOf (disk.top.at? names) = .rows t ∧
      disk' = disk.put names (.file (.database t')) ∧
      problemRows? path 0 record.problems = some rows ∧
      t'.view = Function.update t.view path (some (fileRow path record), rows) := by
  rw [storeAmid, storing_eq] at done
  obtain ⟨names, t, t', opened, seen, changes, rfl⟩ :=
    changes_of_perform (plain_storingBody path record) lasting done
  obtain ⟨rows, written, view⟩ := Tables.view_storing changes
  exact ⟨names, t, t', rows, opened, seen, rfl, written, view⟩

/-- **A store that succeeds changes the records at one path.** -/
theorem held_store (lasting : db.text ≠ ":memory:") (legible : record.Legible) (own : record.path = path)
    (done : storeAmid trouble db path record disk = .ok () disk')
    (same : disk.fileForWriting db' = disk.fileForWriting db) :
    held db' disk' = Function.update (held db' disk) path (.ok (some record.plain)) := by
  obtain ⟨names, t, t', rows, opened, seen, rfl, written, view⟩ := view_of_store lasting done
  have opened' : disk.fileForWriting db' = .ok names := same.trans opened
  funext q
  rw [Function.update_apply, held, held, sight_written opened', sight_opened opened', seen]
  show t'.record? q = if q = path then _ else t.record? q
  rw [Tables.record?_update legible own written view, Function.update_apply]

/-- **An emptying that succeeds leaves no record.** -/
theorem held_clear (lasting : db.text ≠ ":memory:")
    (done : clearAmid trouble db disk = .ok () disk')
    (same : disk.fileForWriting db' = disk.fileForWriting db) :
    held db' disk' = fun _ => .ok none := by
  rw [clearAmid, clearing_eq] at done
  obtain ⟨names, t, t', opened, seen, changes, rfl⟩ :=
    changes_of_perform plain_clearingBody lasting done
  funext q
  rw [held, sight_written (same.trans opened)]
  show t'.record? q = .ok none
  rw [Tables.record?_eq, Tables.view_clearing changes]

/-! ### Other paths -/

theorem selecting_congr {t' : Tables} (same : t'.view q = t.view q) :
    selecting trouble db q t' = selecting trouble db q t := by
  rw [selecting, selecting, Tables.selections_eq, Tables.selections_eq, Tables.record?_eq,
    Tables.record?_eq, same]

/-- Lookups of one path answer alike from tables of one view there. -/
theorem answers_congr {t' : Tables} (same : t'.view q = t.view q) :
    (opening trouble db operation (.rows t')).bind (selecting trouble db q) =
      (opening trouble db operation (.rows t)).bind (selecting trouble db q) := by
  obtain ⟨failure, fails, fails'⟩ | ⟨opens, opens'⟩ | ⟨opens, opens'⟩ :=
    opening_rows trouble db operation t' t
  · rw [fails, fails']
  · rw [opens, opens']
  · rw [opens, opens']
    exact selecting_congr same

/-- **A store changes no answer about another path.** -/
theorem answer_other_after_store (lasting : db.text ≠ ":memory:")
    (done : storeAmid trouble db path record disk = .ok () disk')
    (same : disk.fileForWriting db' = disk.fileForWriting db) (other : q ≠ path)
    (trouble' : Trouble) :
    answer (lookupAmid trouble' db' q disk') = answer (lookupAmid trouble' db' q disk) := by
  obtain ⟨names, t, t', rows, opened, seen, rfl, -, view⟩ := view_of_store lasting done
  have opened' : disk.fileForWriting db' = .ok names := same.trans opened
  rw [(lookupAmid_opens trouble' db' q _).2, (lookupAmid_opens trouble' db' q disk).2,
    sight_written opened', sight_opened opened', seen]
  apply answers_congr
  rw [view, Function.update_of_ne other]

end Docwright.Cache.Database

namespace Docwright

open Cache Cache.Database

/-- A database read as a map: what it holds for each path, as far as that can be read. -/
def Ledger.database (db : Path) : Ledger Storage where
  legal _ := True
  fit record := record.Preserved
  kept s path := ((held db s.disk path).toOption).join

/-- The record that is kept for a path is the record that is held. -/
theorem Ledger.held_of_kept {db : Path} {s : Storage} {path : String} {record : FileRecord}
    (kept : (Ledger.database db).kept s path = some record) :
    held db s.disk path = .ok (some record) := by
  change (held db s.disk path).toOption.join = some record at kept
  cases found : held db s.disk path with
  | error fault =>
      rw [found] at kept
      cases kept
  | ok there =>
      rw [found] at kept
      exact congrArg Except.ok kept

theorem Storage.onDisk_ok {α : Type} {act : EStateM Failure Disk α} {s s' : Storage} {a : α}
    (done : Storage.onDisk act s = .ok a s') :
    ∃ disk', act s.disk = .ok a disk' ∧ s' = { s with disk := disk' } := by
  unfold Storage.onDisk at done
  cases run : act s.disk with
  | ok b disk' =>
      rw [run] at done
      cases done
      exact ⟨disk', rfl, rfl⟩
  | error failure disk' =>
      rw [run] at done
      exact nomatch done

theorem Storage.onDisk_error {α : Type} {act : EStateM Failure Disk α} {s s' : Storage}
    {failure : Failure} (failed : Storage.onDisk act s = .error failure s') :
    ∃ disk', act s.disk = .error failure disk' ∧ s' = { s with disk := disk' } := by
  unfold Storage.onDisk at failed
  cases run : act s.disk with
  | ok b disk' =>
      rw [run] at failed
      exact nomatch failed
  | error failure disk' =>
      rw [run] at failed
      cases failed
      exact ⟨disk', rfl, rfl⟩

theorem Storage.answer_onDisk {α : Type} (act : EStateM Failure Disk α) (s : Storage) :
    answer (Storage.onDisk act s) = answer (act s.disk) := by
  unfold Storage.onDisk
  cases act s.disk <;> rfl

theorem Storage.endState_onDisk {α : Type} (act : EStateM Failure Disk α) (s : Storage) :
    endState (Storage.onDisk act s) = { s with disk := endState (act s.disk) } := by
  unfold Storage.onDisk
  cases act s.disk <;> rfl

theorem Ledger.database_alike {db : Path} {s : Storage} {disk' : Disk}
    (alike : Alike db s.disk disk') :
    (Ledger.database db).kept { s with disk := disk' } = (Ledger.database db).kept s := by
  funext path
  simp only [Ledger.database, alike.held]

namespace FileCache

/-- **The cache in a database is faithful**, unless the database is one that does not last. -/
theorem database_faithful {db : Path} (lasting : db.text ≠ ":memory:") :
    (database db).Faithful (Ledger.database db) where
  lookup_ok := by
    intro path s s' found _ answered
    obtain ⟨disk', run, rfl⟩ := Storage.onDisk_ok answered
    change lookupAmid .calm db path s.disk = .ok found disk' at run
    have alike := (lookupAmid_opens .calm db path s.disk).1
    rw [run, endState_ok] at alike
    refine ⟨?_, trivial, Ledger.database_alike alike⟩
    simp only [Ledger.database, held_of_lookup lasting run]
    rfl
  lookup_error := by
    intro path s s' failure _ failed
    obtain ⟨disk', run, rfl⟩ := Storage.onDisk_error failed
    change lookupAmid .calm db path s.disk = .error failure disk' at run
    have alike := (lookupAmid_opens .calm db path s.disk).1
    rw [run, endState_error] at alike
    exact ⟨lookup_not_rejected run, trivial, Ledger.database_alike alike⟩
  store_ok := by
    intro path s s' record _ fit own done
    obtain ⟨disk', run, rfl⟩ := Storage.onDisk_ok done
    have changed := held_store lasting fit.toLegible own run rfl
    rw [fit.plain] at changed
    refine ⟨trivial, ?_⟩
    funext q
    simp only [Ledger.database, changed, Function.update_apply]
    split
    · rfl
    · rfl
  store_error := by
    intro path s s' record failure _ failed
    obtain ⟨disk', run, rfl⟩ := Storage.onDisk_error failed
    obtain ⟨alike, other⟩ := alike_of_store run
    exact ⟨other, trivial, Ledger.database_alike alike⟩

/-- **The cache in a database only adds to the disk.** -/
theorem database_extends {db : Path} (lasting : db.text ≠ ":memory:") (path : String) (s : Storage) :
    Disk.Extends s.disk (endState ((database db).lookup path s)).disk ∧
      ∀ record, Disk.Extends s.disk (endState ((database db).store path record s)).disk := by
  refine ⟨?_, fun record => ?_⟩
  · have alike := (lookupAmid_opens .calm db path s.disk).1
    show Disk.Extends s.disk (endState (Storage.onDisk _ s)).disk
    rw [Storage.endState_onDisk]
    exact alike.extends
  · show Disk.Extends s.disk (endState (Storage.onDisk _ s)).disk
    rw [Storage.endState_onDisk]
    show Disk.Extends s.disk (endState (storeAmid .calm db path record s.disk))
    cases run : storeAmid .calm db path record s.disk with
    | error failure disk' => exact (alike_of_store run).1.extends
    | ok _ disk' =>
        obtain ⟨names, t, t', rows, opened, -, written, -⟩ := view_of_store lasting run
        rw [endState_ok, written]
        exact (Disk.opened opened).extends_put _

end FileCache

end Docwright
