import Docwright.Proofs.Cache.Records
import Docwright.Proofs.Cache.Steady

/-!
# What one path sees of a database

`glimpse db disk path` is what can be seen of a database from one path: that it
cannot be opened or read, or the rows of the path and whether the table of problems
is guarded.  Lookups and stores of the path depend on nothing else
(`answer_lookup`, `answer_store`), and a store changes the glimpse of no other path.

A database `Stands` once its file holds tables.  Opening it then writes those tables
back, which changes nothing (`openTables_still`).
-/

namespace Docwright.Cache.Database

open Disk (Opened)

/-- What can be seen of a database from one path. -/
inductive Glimpse
  | closed
  | unreadable (reason : Reason)
  | rows (view : Option FileRow × List ProblemRow) (guarded : Bool)

/-- What one path sees. -/
def Sight.glimpse : Sight → String → Glimpse
  | .closed, _ => .closed
  | .unreadable reason, _ => .unreadable reason
  | .rows t, path => .rows (t.view path) t.guarded

/-- What one path sees of a database on a disk. -/
def glimpse (db : Path) (disk : Disk) (path : String) : Glimpse :=
  (sight db disk).glimpse path

/-- The file of a database holds tables. -/
def Stands (db : Path) (disk : Disk) : Prop :=
  ∃ names t, disk.fileForWriting db = .ok names ∧ disk.top.at? names = some (.file (.database t))

variable {trouble : Trouble} {db : Path} {operation : Operation} {disk disk' : Disk}
  {path q : String} {record record' : FileRecord} {t t' : Tables} {body : List Statement}

/-! ### Answers -/

/-- Two sights that are one glimpse are of one kind, and their rows agree. -/
theorem glimpse_cases {seen seen' : Sight} (same : seen.glimpse path = seen'.glimpse path) :
    seen = seen' ∨ ∃ t t', seen = .rows t ∧ seen' = .rows t' ∧ t.view path = t'.view path ∧
      t.guarded = t'.guarded := by
  cases seen with
  | closed => cases seen' <;> cases same; exact .inl rfl
  | unreadable reason => cases seen' <;> cases same; exact .inl rfl
  | rows t =>
      cases seen' with
      | closed => cases same
      | unreadable reason => cases same
      | rows t' =>
          obtain ⟨view, guarded⟩ := Glimpse.rows.inj same
          exact .inr ⟨t, t', rfl, rfl, view, guarded⟩

/-- A lookup answers from what its path sees. -/
theorem answer_lookup (same : glimpse db disk path = glimpse db disk' path) :
    answer (lookupAmid trouble db path disk) = answer (lookupAmid trouble db path disk') := by
  rw [(lookupAmid_opens trouble db path disk).2, (lookupAmid_opens trouble db path disk').2]
  obtain equal | ⟨t, t', first, second, view, -⟩ := glimpse_cases same
  · rw [equal]
  · rw [first, second]
    exact answers_congr view

/-- A change to a database that was opened ends as its session does. -/
theorem answer_perform_opened {statements : List Statement} {location : Location}
    (run : openTables trouble db operation disk = .ok (location, t) disk') :
    answer (Database.perform trouble db operation statements disk) =
      match ((Session.opened t).perform trouble schema.length statements).2 with
      | none => .ok ()
      | some fault => .error (failureOf db operation fault) := by
  rw [perform_apply, run]
  dsimp only
  generalize (Session.opened t).perform trouble schema.length statements = ended
  obtain ⟨session, fault⟩ := ended
  cases fault with
  | none => cases location <;> rfl
  | some fault => cases location <;> rfl

/-- A change ends as opening the database does, or as its session does on the rows that are seen. -/
theorem answer_perform_amid (trouble : Trouble) (db : Path) (operation : Operation) (disk : Disk)
    (statements : List Statement) :
    answer (Database.perform trouble db operation statements disk) =
      (opening trouble db operation (sight db disk)).bind fun t =>
        match ((Session.opened t).perform trouble schema.length statements).2 with
        | none => .ok ()
        | some fault => .error (failureOf db operation fault) := by
  have coming := opens trouble db operation disk
  cases run : openTables trouble db operation disk with
  | error failure disk' =>
      rw [run] at coming
      cases coming with
      | failed alike answers =>
          rw [answers, perform_apply, run]
          rfl
  | ok found disk' =>
      obtain ⟨location, t⟩ := found
      have answers : opening trouble db operation (sight db disk) = .ok t := by
        rw [run] at coming
        cases coming with
        | transient memory answers => exact answers
        | stored opened seen answers => exact answers
      rw [answers, answer_perform_opened run]
      rfl

/-- Without trouble a change ends as its statements do on the rows that are seen. -/
theorem answer_perform (db : Path) (operation : Operation) (disk : Disk)
    (plain : ∀ statement ∈ body, statement.plain = true) :
    answer (Database.perform .calm db operation (.begin :: body ++ [.commit]) disk) =
      (opening .calm db operation (sight db disk)).bind fun t =>
        match t.changes body with
        | .ok _ => .ok ()
        | .error fault => .error (failureOf db operation fault) := by
  rw [answer_perform_amid]
  refine congrArg (Except.bind _) (funext fun t => ?_)
  rw [Session.transaction_calm t schema.length plain]
  cases t.changes body <;> rfl

/-- Stores of findings alike come to the same on tables with one guard. -/
theorem changes_storingBody (guarded : t.guarded = t'.guarded)
    (alike : record.problems = record'.problems) :
    (match t.changes (storingBody path record) with
      | .ok _ => Except.ok ()
      | .error fault => .error (failureOf db operation fault)) =
      match t'.changes (storingBody path record') with
      | .ok _ => Except.ok ()
      | .error fault => .error (failureOf db operation fault) := by
  have first := t.changes_outcome (storingBody path record)
  have second := t'.changes_outcome (storingBody path record')
  rw [outcome_storingBody alike, guarded] at first
  have same := first.trans second.symm
  revert same
  cases t.changes (storingBody path record) with
  | ok d =>
      cases t'.changes (storingBody path record') with
      | ok d' => exact fun _ => rfl
      | error fault => nofun
  | error fault =>
      cases t'.changes (storingBody path record') with
      | ok d' => nofun
      | error fault' =>
          intro same
          rw [Except.error.inj same]

/-- A store ends as its path lets it, and as the problems of the record do. -/
theorem answer_store (same : glimpse db disk path = glimpse db disk' path)
    (alike : record.problems = record'.problems) :
    answer (storeAmid .calm db path record disk) =
      answer (storeAmid .calm db path record' disk') := by
  rw [storeAmid, storeAmid, storing_eq, storing_eq, answer_perform _ _ _ (plain_storingBody path record),
    answer_perform _ _ _ (plain_storingBody path record')]
  obtain equal | ⟨t, t', first, second, view, guarded⟩ := glimpse_cases same
  · rw [equal]
    cases opening .calm db (.store path) (sight db disk') with
    | error failure => rfl
    | ok t => exact changes_storingBody rfl alike
  · rw [first, second]
    obtain ⟨failure, fails, fails'⟩ | ⟨opens, opens'⟩ | ⟨opens, opens'⟩ :=
      opening_rows .calm db (.store path) t t'
    · rw [fails, fails']
      rfl
    · rw [opens, opens']
      exact changes_storingBody rfl alike
    · rw [opens, opens']
      exact changes_storingBody guarded alike

/-! ### Standing databases -/

/-- Opening a database that stands changes nothing. -/
theorem openTables_still (trouble : Trouble) (operation : Operation) (stands : Stands db disk) :
    endState (openTables trouble db operation disk) = disk := by
  obtain ⟨names, t, opened, there⟩ := stands
  have written : disk.put names (.file (.database t)) = disk := Disk.put_same there
  rw [openTables_eq, bind_apply, connect_apply]
  by_cases null : db.hasNull
  · rw [if_pos null]
    rfl
  · rw [if_neg null]
    cases trouble.connection with
    | some reason => rfl
    | none =>
        by_cases memory : db.text == ":memory:"
        · simp only [memory, if_true, openAt_transient]
          cases trouble.first? 0 schema.length <;> rfl
        · simp only [memory, Bool.false_eq_true, if_false, opened, there, Option.isNone_some,
            openAt_stored there, tablesOf]
          cases trouble.first? 0 schema.length with
          | none => exact written
          | some fault => rfl

theorem lookup_still (stands : Stands db disk) :
    endState (lookupAmid trouble db path disk) = disk := by
  have still := openTables_still trouble (.lookup path) stands
  rw [lookupAmid_apply]
  cases run : openTables trouble db (.lookup path) disk with
  | error failure disk' =>
      rw [run] at still
      exact still
  | ok found disk' =>
      rw [run] at still
      dsimp only
      cases selecting trouble db path found.2 <;> exact still

/-- A change that fails leaves a database that stands exactly as it was. -/
theorem perform_still (stands : Stands db disk) (plain : ∀ statement ∈ body, statement.plain = true)
    {failure : Failure}
    (failed : Database.perform trouble db operation (.begin :: body ++ [.commit]) disk =
      .error failure disk') : disk' = disk := by
  have still := openTables_still trouble operation stands
  have coming := opens trouble db operation disk
  rw [perform_apply] at failed
  cases run : openTables trouble db operation disk with
  | error failure' disk₁ =>
      rw [run] at failed still
      cases failed
      exact still
  | ok found disk₁ =>
      obtain ⟨location, t⟩ := found
      rw [run] at failed still coming
      have whole := Session.transaction trouble t schema.length plain
      dsimp only at failed
      generalize (Session.opened t).perform trouble schema.length _ = ended at whole failed
      obtain ⟨session, fault⟩ := ended
      cases fault with
      | none => cases location <;> cases failed
      | some fault =>
          dsimp only at whole failed
          rw [whole] at failed
          cases coming with
          | transient memory answers =>
              cases failed
              exact still
          | @stored names t opened seen answers =>
              rw [bind_apply, write, modify_apply] at failed
              cases failed
              -- what is rolled back is written once more, as opening left it
              rw [Disk.put_put]
              exact still

/-! ### What operations leave -/

theorem stands_written {names : List String} (opened : disk.fileForWriting db = .ok names) (t : Tables) :
    Stands db (disk.put names (.file (.database t))) :=
  ⟨names, t, Disk.fileForWriting_put opened _, (Disk.opened opened).at?_put _⟩

/-- A database stands once a lookup was answered. -/
theorem stands_of_lookup (lasting : db.text ≠ ":memory:") {found : Option FileRecord}
    (answered : lookupAmid trouble db path disk = .ok found disk') :
    Stands db disk' := by
  rw [lookupAmid_apply] at answered
  have coming := opens trouble db (.lookup path) disk
  generalize openTables trouble db (.lookup path) disk = result at coming answered
  cases coming with
  | failed alike answers => cases answered
  | transient memory answers => exact absurd memory lasting
  | @stored names t opened seen answers =>
      dsimp only at answered
      revert answered
      cases selecting trouble db path t with
      | error failure => nofun
      | ok record =>
          intro answered
          cases answered
          exact stands_written opened t

/-- What a store that succeeds leaves: a database that stands, and the glimpses of all other paths. -/
theorem glimpse_store (lasting : db.text ≠ ":memory:")
    (done : storeAmid trouble db path record disk = .ok () disk') :
    Stands db disk' ∧ ∀ q ≠ path, glimpse db disk' q = glimpse db disk q := by
  rw [storeAmid, storing_eq] at done
  obtain ⟨names, t, t', opened, seen, changes, rfl⟩ :=
    changes_of_perform (plain_storingBody path record) lasting done
  obtain ⟨rows, -, view⟩ := Tables.view_storing changes
  have guarded : t'.guarded = t.guarded := by
    have outcome := t.changes_outcome (storingBody path record)
    rw [changes] at outcome
    cases ended : (storingBody path record).forM (Statement.outcome t.guarded) with
    | error fault =>
        rw [ended] at outcome
        cases outcome
    | ok _ =>
        rw [ended] at outcome
        exact Except.ok.inj outcome
  refine ⟨stands_written opened t', fun q other => ?_⟩
  rw [glimpse, glimpse, sight_written opened, sight_opened opened, seen, Sight.glimpse,
    Sight.glimpse, view, guarded, Function.update_of_ne other]

/-- A lookup after a store finds what was stored, with scalars alone. -/
theorem lookup_after_store (lasting : db.text ≠ ":memory:") (legible : record.Legible) (own : record.path = path)
    (done : storeAmid .calm db path record disk = .ok () disk') :
    answer (lookupAmid .calm db path disk') = .ok (some record.plain) := by
  have null : db.hasNull = false := by
    by_contra null
    have coming := answer_perform db (.store path) disk (plain_storingBody path record)
    rw [← storing_eq] at coming
    change answer (storeAmid .calm db path record disk) = _ at coming
    rw [done, opening, if_pos (by simpa using null)] at coming
    cases coming
  obtain ⟨names, t, t', rows, opened, seen, rfl, written, view⟩ := view_of_store lasting done
  rw [(lookupAmid_opens .calm db path _).2, sight_written opened,
    opening_calm (.lookup path) null lasting t']
  show selecting .calm db path t' = _
  rw [selecting, Trouble.first?_calm, Tables.record?_update legible own written view,
    Function.update_self]

end Docwright.Cache.Database

namespace Docwright

open Cache Cache.Database

/-- How a database looks. -/
def Outlook.database (db : Path) : Outlook Storage Glimpse where
  seen s := glimpse db s.disk
  stands s := Stands db s.disk

/-- **The cache in a database is steady**, unless the database is one that does not last. -/
theorem FileCache.database_steady {db : Path} (lasting : db.text ≠ ":memory:") :
    (database db).Steady (Ledger.database db) (Outlook.database db) where
  lookup_answer := by
    intro path s s' same
    show answer (Storage.onDisk _ s) = answer (Storage.onDisk _ s')
    rw [Storage.answer_onDisk, Storage.answer_onDisk]
    exact answer_lookup same
  lookup_seen := by
    intro path s _
    have alike := (lookupAmid_opens .calm db path s.disk).1
    show (Ledger.database db).legal (endState (Storage.onDisk _ s)) ∧
      (Outlook.database db).seen (endState (Storage.onDisk _ s)) = _
    rw [Storage.endState_onDisk]
    refine ⟨trivial, funext fun q => ?_⟩
    show (sight db (endState (lookupAmid .calm db path s.disk))).glimpse q = glimpse db s.disk q
    rw [alike.sight, glimpse]
  lookup_stands := by
    intro path s s' found _ answered
    obtain ⟨disk', run, rfl⟩ := Storage.onDisk_ok answered
    exact stands_of_lookup lasting run
  lookup_still := by
    intro path s stands
    show endState (Storage.onDisk _ s) = s
    rw [Storage.endState_onDisk, Database.lookup, lookup_still stands]
  store_answer := by
    intro path s s' record record' same alike
    show answer (Storage.onDisk _ s) = answer (Storage.onDisk _ s')
    rw [Storage.answer_onDisk, Storage.answer_onDisk]
    exact answer_store same (congrArg Finding.problems alike)
  store_ok := by
    intro path s s' record _ done
    obtain ⟨disk', run, rfl⟩ := Storage.onDisk_ok done
    exact ⟨trivial, glimpse_store lasting run⟩
  store_found := by
    intro path s s' record _ fit own done
    obtain ⟨disk', run, rfl⟩ := Storage.onDisk_ok done
    show answer (Storage.onDisk _ _) = _
    rw [Storage.answer_onDisk]
    have found := lookup_after_store lasting fit.toLegible own run
    rw [fit.plain] at found
    exact found
  store_error := by
    intro path s s' record failure _ failed
    obtain ⟨disk', run, rfl⟩ := Storage.onDisk_error failed
    have alike := (alike_of_store run).1
    refine ⟨trivial, funext fun q => ?_, fun stands => ?_⟩
    · show (sight db disk').glimpse q = glimpse db s.disk q
      rw [alike.sight, glimpse]
    · change Database.perform .calm db (.store path) (storing path record) s.disk = _ at run
      rw [storing_eq] at run
      rw [perform_still stands (plain_storingBody path record) run]

end Docwright
