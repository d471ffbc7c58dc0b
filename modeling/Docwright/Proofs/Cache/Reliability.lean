import Docwright.Proofs.Build.Endings
import Docwright.Proofs.Cache.Emptying
import Docwright.Proofs.Disk.Files

/-!
# Caches that can be relied on

Tables are `Reliable` if every record that is looked up in them can be read and has a
property.  A new database is reliable, and so is one that cannot be read at all;
emptying one makes it reliable.  Stores of records with the property keep it so, and if
the rows of such records fit into a table, lookups and stores fail in no other way than
by reporting a fault: the cache in a database is an honest one (`database_honest`), and
so is a memory (`memory_honest`).  This goes for every name of a database, the one that
does not last included.

An operation changes no file but that of the database (`Confined`).
-/

namespace Docwright

variable {Q : String → FileRecord → Prop} {path : String} {record : FileRecord}

namespace Cache

variable {t t' : Tables} {rows : List ProblemRow}

/-! ### Tables -/

/-- Every record that is looked up in tables can be read and has a property. -/
def Tables.Reliable (Q : String → FileRecord → Prop) (t : Tables) : Prop :=
  ∀ path, ∃ found, t.record? path = .ok found ∧ ∀ record ∈ found, Q path record

theorem Tables.reliable_empty : Tables.empty.Reliable Q :=
  fun _ => ⟨none, rfl, nofun⟩

/-- Tables stay reliable when the rows of a path are replaced by those of a record with the property. -/
theorem Tables.Reliable.update (reliable : t.Reliable Q) (true_ : Q path record) (own : record.path = path)
    (preserved : record.Preserved) (written : problemRows? path 0 record.problems = some rows)
    (view : t'.view = Function.update t.view path (some (fileRow path record), rows)) : t'.Reliable Q := by
  intro q
  rw [Tables.record?_update preserved.toLegible own written view, preserved.plain]
  by_cases same : q = path
  · subst same
    refine ⟨some record, Function.update_self .., fun other member => ?_⟩
    obtain rfl := Option.some.inj member
    exact true_
  · rw [Function.update_of_ne same]
    exact reliable q

/-- The rows of a record can be written, and fit into a table. -/
def Storable (path : String) (record : FileRecord) : Prop :=
  ∃ rows, problemRows? path 0 record.problems = some rows ∧ ∀ row ∈ rows, row.fits = true

/-- Rows of problems that fit are inserted, unless they are refused. -/
theorem refused_of_inserts {guarded : Bool} {rows : List ProblemRow} {fault : StatementFault}
    (fits : ∀ row ∈ rows, row.fits = true)
    (stopped : (rows.map Statement.insertProblem).forM (Statement.outcome guarded) = .error fault) :
    ∃ reason, fault = .refused reason := by
  induction rows with
  | nil => cases stopped
  | cons row rest ih =>
      have fit := fits row List.mem_cons_self
      change (Statement.outcome guarded (.insertProblem row) >>= fun _ => _) = _ at stopped
      rw [Statement.outcome, fit] at stopped
      by_cases refuses : (guarded && row.template == refusedTemplate) = true
      · rw [Bool.not_true, if_neg Bool.false_ne_true, if_pos refuses] at stopped
        cases stopped
        exact ⟨_, rfl⟩
      · rw [Bool.not_true, if_neg Bool.false_ne_true, if_neg refuses] at stopped
        exact ih (fun other member => fits other (List.mem_cons_of_mem _ member)) stopped

/-- The statements that store a record whose rows fit fail only if they are refused. -/
theorem Storable.refused {fault : StatementFault} (storable : Storable path record)
    (failed : t.changes (storingBody path record) = .error fault) : ∃ reason, fault = .refused reason := by
  obtain ⟨rows, written, fits⟩ := storable
  have outcome := t.changes_outcome (storingBody path record)
  rw [failed] at outcome
  have stopped : (rows.map Statement.insertProblem).forM (Statement.outcome t.guarded) = .error fault := by
    have body : storingBody path record = .deleteProblemsOf path ::
        .replaceFile (fileRow path record) :: rows.map .insertProblem := by
      rw [storingBody, writeProblems, written]
    rw [body] at outcome
    change _ = ((rows.map Statement.insertProblem).forM (Statement.outcome t.guarded)).map _ at outcome
    revert outcome
    cases (rows.map Statement.insertProblem).forM (Statement.outcome t.guarded) with
    | ok _ =>
        intro outcome
        cases outcome
    | error fault' =>
        intro outcome
        rw [Except.error.inj outcome]
  exact refused_of_inserts fits stopped

namespace Database

variable {db : Path} {operation : Operation} {disk disk' : Disk} {failure : Failure}

/-! ### Databases -/

/-- A database can be relied on: it is new, it cannot be read at all, or its tables are reliable. -/
def Reliable (Q : String → FileRecord → Prop) (db : Path) (disk : Disk) : Prop :=
  ∀ t, sight db disk = .rows t → t.Reliable Q

/-- A reliable database is opened to reliable tables. -/
theorem Reliable.opened (reliable : Reliable Q db disk)
    (opens : opening .calm db operation (sight db disk) = .ok t) : t.Reliable Q := by
  obtain ⟨failure, fails, -⟩ | ⟨t', found, opens'⟩ := opening_cases .calm db operation (sight db disk)
  · cases opens.symm.trans fails
  · obtain rfl := Except.ok.inj (opens.symm.trans opens')
    by_cases memory : (db.text == ":memory:") = true
    · rw [if_pos memory] at found
      obtain rfl := Sight.rows.inj found
      exact Tables.reliable_empty
    · rw [if_neg memory] at found
      exact reliable t found

theorem Reliable.alike (reliable : Reliable Q db disk) (alike : Alike db disk disk') :
    Reliable Q db disk' := by
  intro t seen
  rw [alike.sight] at seen
  exact reliable t seen

/-- A lookup in a reliable database finds nothing, or a record with the property, or reports a fault. -/
theorem Reliable.lookup (reliable : Reliable Q db disk) (clean : db.hasNull = false) (path : String) :
    Reliable Q db (endState (Database.lookup db path disk)) ∧
      (∀ found, answer (Database.lookup db path disk) = .ok found → ∀ record ∈ found, Q path record) ∧
      ∀ failure, answer (Database.lookup db path disk) = .error failure → ∃ fault, failure = .cache fault := by
  obtain ⟨alike, answers⟩ := lookupAmid_opens .calm db path disk
  refine ⟨reliable.alike alike, ?_⟩
  change answer (Database.lookup db path disk) = _ at answers
  rw [answers]
  cases opens : opening .calm db (.lookup path) (sight db disk) with
  | error failure =>
      refine ⟨nofun, fun failure' failed => ?_⟩
      obtain rfl := Except.error.inj failed
      exact cache_of_opening clean Trouble.refuses_calm opens
  | ok t =>
      obtain ⟨found, looked, known⟩ := reliable.opened opens path
      have selected : selecting .calm db path t = .ok found := by
        rw [selecting, Trouble.first?_calm, looked]
      refine ⟨fun found' same => ?_, fun failure failed => ?_⟩
      · obtain rfl := Except.ok.inj (selected.symm.trans same)
        exact known
      · cases selected.symm.trans failed

theorem performed_store (db : Path) (path : String) (record : FileRecord) (disk : Disk) :
    Performed .calm db (.store path) (storingBody path record) disk (Database.store db path record disk) := by
  unfold Database.store storeAmid
  rw [storing_eq]
  exact performed .calm db (.store path) disk (plain_storingBody path record)

theorem performed_clear (db : Path) (disk : Disk) :
    Performed .calm db .clear clearingBody disk (Database.clear db disk) := by
  unfold Database.clear clearAmid
  rw [clearing_eq]
  exact performed .calm db .clear disk plain_clearingBody

/-- A store of a record with the property, whose rows fit, keeps a database reliable. -/
theorem Reliable.store (reliable : Reliable Q db disk) (true_ : Q path record) (own : record.path = path)
    (preserved : record.Preserved) : Reliable Q db (endState (Database.store db path record disk)) := by
  have coming := performed_store db path record disk
  generalize Database.store db path record disk = result at coming
  cases coming with
  | failed alike => exact reliable.alike alike
  | transient => exact reliable
  | @changed names t t' opened seen changes =>
      obtain ⟨rows, written, view⟩ := Tables.view_storing changes
      intro u rows'
      rw [endState_ok, sight_written opened] at rows'
      obtain rfl := Sight.rows.inj rows'
      refine Tables.Reliable.update (reliable t ?_) true_ own preserved written view
      rw [sight_opened opened, seen]

/-- A store of a record whose rows fit fails only by reporting a fault. -/
theorem cache_of_store (clean : db.hasNull = false) (storable : Storable path record)
    (failed : answer (store db path record disk) = .error failure) : ∃ fault, failure = .cache fault := by
  have answers := answer_perform db (.store path) disk (plain_storingBody path record)
  rw [← storing_eq] at answers
  change answer (store db path record disk) = _ at answers
  rw [failed] at answers
  cases opens : opening .calm db (.store path) (sight db disk) with
  | error failure' =>
      rw [opens] at answers
      obtain rfl := Except.error.inj answers
      exact cache_of_opening clean Trouble.refuses_calm opens
  | ok t =>
      rw [opens, Except.bind] at answers
      cases changed : t.changes (storingBody path record) with
      | ok t' =>
          rw [changed] at answers
          cases answers
      | error fault =>
          rw [changed] at answers
          obtain ⟨reason, rfl⟩ := storable.refused changed
          exact ⟨_, Except.error.inj answers⟩

/-- Emptying keeps a database reliable, however it ends. -/
theorem Reliable.clear (reliable : Reliable Q db disk) :
    Reliable Q db (endState (Database.clear db disk)) := by
  have coming := performed_clear db disk
  generalize Database.clear db disk = result at coming
  cases coming with
  | failed alike => exact reliable.alike alike
  | transient => exact reliable
  | @changed names t t' opened seen changes =>
      intro u rows q
      rw [endState_ok, sight_written opened] at rows
      obtain rfl := Sight.rows.inj rows
      refine ⟨none, ?_, nofun⟩
      rw [Tables.record?_eq, Tables.view_clearing changes]

/-! ### Other files -/

/-- A disk after nothing was done to it, or after the file of a database was written. -/
inductive Confined (db : Path) (disk : Disk) : Disk → Prop
  | same : Confined db disk disk
  | written {names : List String} {content : Content} (opened : disk.fileForWriting db = .ok names) :
      Confined db disk (disk.put names (.file content))

theorem Confined.trans {disk'' : Disk} (first : Confined db disk disk') (second : Confined db disk' disk'') :
    Confined db disk disk'' := by
  cases first with
  | same => exact second
  | @written names content opened =>
      cases second with
      | same => exact .written opened
      | written opened' =>
          obtain rfl := Except.ok.inj ((Disk.fileForWriting_put opened content).symm.trans opened')
          rw [Disk.put_put]
          exact .written opened

theorem Alike.confined (alike : Alike db disk disk') : Confined db disk disk' := by
  cases alike with
  | same => exact .same
  | written opened => exact .written opened

theorem confined_lookup (db : Path) (path : String) (disk : Disk) :
    Confined db disk (endState (lookup db path disk)) :=
  (lookupAmid_opens .calm db path disk).1.confined

theorem Performed.confined {body : List Statement} {result : EStateM.Result Failure Disk Unit}
    (coming : Performed .calm db operation body disk result) : Confined db disk (endState result) := by
  cases coming with
  | failed alike => exact alike.confined
  | transient => exact .same
  | changed opened => exact .written opened

theorem confined_store (db : Path) (path : String) (record : FileRecord) (disk : Disk) :
    Confined db disk (endState (store db path record disk)) :=
  (performed_store db path record disk).confined

theorem confined_clear (db : Path) (disk : Disk) : Confined db disk (endState (clear db disk)) :=
  (performed_clear db disk).confined

theorem Confined.extends (confined : Confined db disk disk') : Disk.Extends disk disk' := by
  cases confined with
  | same => exact .refl disk
  | @written names content opened => exact (Disk.opened opened).extends_put content

/-- No file but that of the database is changed. -/
theorem Confined.at? {names : List String} {content : Content} (confined : Confined db disk disk')
    (there : disk.top.at? names = some (.file content)) (other : disk.fileForWriting db ≠ .ok names) :
    disk'.top.at? names = some (.file content) := by
  cases confined with
  | same => exact there
  | @written opened_names content' opened =>
      refine (Disk.opened opened).at?_put_other there ?_ content'
      rintro rfl
      exact other opened

/-- Every database on a disk can be relied on, whatever it is called. -/
def ReliableThroughout (Q : String → FileRecord → Prop) (disk : Disk) : Prop :=
  ∀ names t, disk.top.at? names = some (.file (.database t)) → t.Reliable Q

theorem ReliableThroughout.reliable (throughout : ReliableThroughout Q disk) (db : Path) :
    Reliable Q db disk := by
  intro t seen
  unfold sight at seen
  split at seen
  · cases seen
  · next names opened =>
      cases at_ : disk.top.at? names with
      | none =>
          rw [at_] at seen
          cases seen
          exact Tables.reliable_empty
      | some node =>
          rw [at_] at seen
          match node with
          | .directory _ | .link _ => cases seen
          | .file (.database t') =>
              cases seen
              exact throughout names t at_
          | .file (.bytes []) =>
              cases seen
              exact Tables.reliable_empty
          | .file (.bytes (_ :: _)) => cases seen

/-- Where one database is changed and stays reliable, all databases do. -/
theorem ReliableThroughout.confined (throughout : ReliableThroughout Q disk)
    (confined : Confined db disk disk') (reliable : Reliable Q db disk') : ReliableThroughout Q disk' := by
  cases confined with
  | same => exact throughout
  | @written opened_names content opened =>
      intro names t there
      obtain before | ⟨rfl, rfl⟩ := Node.at?_of_put_file there
      · exact throughout names t before
      · exact reliable t (sight_written opened t)

end Database

end Cache

/-! ### Honest caches -/

open Cache Cache.Database

/-- A property of records that can be kept under their paths and read back. -/
structure Keepable (Q : String → FileRecord → Prop) : Prop where
  own : ∀ {path record}, Q path record → record.path = path
  preserved : ∀ {path record}, Q path record → record.Preserved
  storable : ∀ {path record}, Q path record → Storable path record

namespace FileCache

/-- **The cache in a reliable database is honest.** -/
theorem database_honest {db : Path} (keepable : Keepable Q) (clean : db.hasNull = false) :
    (database db).Honest (fun s => Reliable Q db s.disk) Q where
  lookup_ok := by
    intro path s s' found reliable looked
    obtain ⟨disk', run, rfl⟩ := Storage.onDisk_ok looked
    obtain ⟨still, known, -⟩ := reliable.lookup clean path
    rw [run] at still known
    exact ⟨still, known found rfl⟩
  lookup_error := by
    intro path s s' failure reliable failed
    obtain ⟨disk', run, rfl⟩ := Storage.onDisk_error failed
    obtain ⟨still, -, faulty⟩ := reliable.lookup clean path
    rw [run] at still faulty
    exact ⟨still, faulty failure rfl⟩
  store_ok := by
    intro path record s s' reliable true_ done
    obtain ⟨disk', run, rfl⟩ := Storage.onDisk_ok done
    have still := reliable.store true_ (keepable.own true_) (keepable.preserved true_)
    rw [run] at still
    exact still
  store_error := by
    intro path record s s' failure reliable true_ failed
    obtain ⟨disk', run, rfl⟩ := Storage.onDisk_error failed
    have still := reliable.store true_ (keepable.own true_) (keepable.preserved true_)
    have faulty := @cache_of_store path record db s.disk failure clean (keepable.storable true_)
    rw [run] at still faulty
    exact ⟨still, faulty rfl⟩

/-- **The cache in a memory is honest.** -/
theorem memory_honest :
    memory.Honest (fun s => ∀ path record, s.memory.lookup path = some record → Q path record) Q where
  lookup_ok := by
    rintro path s s' found kept ⟨⟩
    exact ⟨kept, kept path⟩
  lookup_error := by
    rintro path s s' failure kept ⟨⟩
  store_ok := by
    rintro path record s s' kept true_ ⟨⟩ q other found
    rw [Memory.lookup_keep] at found
    split at found
    · next same =>
        subst same
        obtain rfl := Option.some.inj found
        exact true_
    · exact kept q other found
  store_error := by
    rintro path record s s' failure kept true_ ⟨⟩

end FileCache

end Docwright
