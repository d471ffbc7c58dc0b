import Docwright.Cache.Database
import Docwright.Proofs.Acts
import Docwright.Proofs.Cache.Transaction
import Docwright.Proofs.Disk.Opening

/-!
# What an operation sees of a database

`sight db disk` is what a connection to a database finds on a disk: that the file
cannot be opened, that it is no database, or its rows.  A file that is missing
and an empty one are seen as tables without rows, and since opening a database
may make or fill such a file, disks are compared by what is seen
(`Alike.sight`), not by what they hold.

`Opens` says what opening a database comes to, in terms of the sight alone, and
that it leaves an alike disk (`opens`).
-/

namespace Docwright.Cache.Database

open Disk (Opened)

/-- What a connection finds. -/
inductive Sight
  | closed
  | unreadable (reason : Reason)
  | rows (t : Tables)

/-- What is found where a path was opened. -/
def sightOf : Option Node → Sight
  | none => .rows Tables.empty
  | some (.file content) =>
    match tablesOf content with
    | some t => .rows t
    | none => .unreadable .notDatabase
  | some (.directory _) | some (.link _) => .unreadable .cannotOpen

/-- What a connection to a database finds on a disk. -/
def sight (db : Path) (disk : Disk) : Sight :=
  match disk.fileForWriting db with
  | .error _ => .closed
  | .ok names => sightOf (disk.top.at? names)

variable {trouble : Trouble} {db : Path} {operation : Operation} {disk disk' : Disk}
  {names : List String} {t : Tables}

theorem sightOf_database (t : Tables) : sightOf (some (.file (.database t))) = .rows t := rfl

/-- A disk after nothing was done to it, or after a file was written where the database is, which is
seen as what was there. -/
inductive Alike (db : Path) (disk : Disk) : Disk → Prop
  | same : Alike db disk disk
  | written {names : List String} {content : Content} (opened : disk.fileForWriting db = .ok names)
      (seen : sightOf (disk.top.at? names) = sightOf (some (.file content))) :
      Alike db disk (disk.put names (.file content))

/-- After a file was written at a database, it is what is seen there. -/
theorem sight_put (opened : disk.fileForWriting db = .ok names) (content : Content) :
    sight db (disk.put names (.file content)) = sightOf (some (.file content)) := by
  simp only [sight, Disk.fileForWriting_put opened, (Disk.opened opened).at?_put]

/-- Of alike disks the same is seen. -/
theorem Alike.sight (alike : Alike db disk disk') : sight db disk' = sight db disk := by
  cases alike with
  | same => rfl
  | @written names content opened seen => rw [sight_put opened, ← seen, Database.sight, opened]

/-- What a database that was reached comes to, by what is seen of it. -/
def reached (trouble : Trouble) (db : Path) (operation : Operation) : Sight → Except Failure Tables
  | .closed => .error (failure db .connect .cannotOpen)
  | .unreadable reason => .error (failure db operation reason)
  | .rows t =>
    match trouble.first? 0 schema.length with
    | none => .ok t
    | some fault => .error (failureOf db operation fault)

/-- What opening a database comes to, by what is seen of it. -/
def opening (trouble : Trouble) (db : Path) (operation : Operation) (seen : Sight) :
    Except Failure Tables :=
  if db.hasNull then .error .nullByte
  else
    match trouble.connection with
    | some reason => .error (failure db .connect reason)
    | none => reached trouble db operation (if db.text == ":memory:" then .rows Tables.empty else seen)

theorem opening_of_not_null (trouble : Trouble) (operation : Operation) (seen : Sight)
    (null : ¬ db.hasNull) :
    opening trouble db operation seen =
      match trouble.connection with
      | some reason => .error (failure db .connect reason)
      | none =>
        reached trouble db operation (if db.text == ":memory:" then .rows Tables.empty else seen) :=
  if_neg null

theorem failureOf_not_rejected (fault : StatementFault) (r : Rejection) :
    failureOf db operation fault ≠ .rejected r := by
  cases fault <;> nofun

/-- Opening fails, which is no rejection of a file, or comes to the rows that are seen; in a database
that does not last none are seen. -/
theorem opening_cases (trouble : Trouble) (db : Path) (operation : Operation) (seen : Sight) :
    (∃ failure, opening trouble db operation seen = .error failure ∧
      ∀ r, failure ≠ .rejected r) ∨
    (∃ t, (if db.text == ":memory:" then .rows Tables.empty else seen) = Sight.rows t ∧
      opening trouble db operation seen = .ok t) := by
  by_cases null : db.hasNull
  · refine .inl ⟨_, if_pos null, ?_⟩
    nofun
  · rw [opening_of_not_null trouble operation seen null]
    generalize (if db.text == ":memory:" then .rows Tables.empty else seen) = found
    cases trouble.connection with
    | some reason =>
        refine .inl ⟨_, rfl, ?_⟩
        nofun
    | none =>
        cases found with
        | closed =>
            refine .inl ⟨_, rfl, ?_⟩
            nofun
        | unreadable reason =>
            refine .inl ⟨_, rfl, ?_⟩
            nofun
        | rows t =>
            simp only [reached]
            cases trouble.first? 0 schema.length with
            | none => exact .inr ⟨t, rfl, rfl⟩
            | some fault => exact .inl ⟨_, rfl, failureOf_not_rejected fault⟩

/-- Without trouble a database that lasts is opened to its rows. -/
theorem opening_calm (operation : Operation) (null : db.hasNull = false)
    (lasting : db.text ≠ ":memory:") (t : Tables) :
    opening .calm db operation (.rows t) = .ok t := by
  have stored : (db.text == ":memory:") = false := by simpa using lasting
  have calm : Trouble.calm.connection = none := rfl
  rw [opening_of_not_null .calm operation _ (by simp [null]), calm, stored]
  dsimp only [reached]
  rw [if_neg Bool.false_ne_true]
  dsimp only
  rw [Trouble.first?_calm]

/-- Two databases with rows are opened alike: both fail, or neither lasts, or both come to their rows. -/
theorem opening_rows (trouble : Trouble) (db : Path) (operation : Operation) (t t' : Tables) :
    (∃ failure, opening trouble db operation (.rows t) = .error failure ∧
      opening trouble db operation (.rows t') = .error failure) ∨
    (opening trouble db operation (.rows t) = .ok Tables.empty ∧
      opening trouble db operation (.rows t') = .ok Tables.empty) ∨
    (opening trouble db operation (.rows t) = .ok t ∧
      opening trouble db operation (.rows t') = .ok t') := by
  by_cases null : db.hasNull
  · exact .inl ⟨_, if_pos null, if_pos null⟩
  · rw [opening_of_not_null trouble operation _ null, opening_of_not_null trouble operation _ null]
    cases trouble.connection with
    | some reason => exact .inl ⟨_, rfl, rfl⟩
    | none =>
        dsimp only [reached]
        by_cases memory : db.text == ":memory:"
        · rw [if_pos memory, if_pos memory]
          cases trouble.first? 0 schema.length with
          | none => exact .inr (.inl ⟨rfl, rfl⟩)
          | some fault => exact .inl ⟨_, rfl, rfl⟩
        · rw [if_neg memory, if_neg memory]
          cases trouble.first? 0 schema.length with
          | none => exact .inr (.inr ⟨rfl, rfl⟩)
          | some fault => exact .inl ⟨_, rfl, rfl⟩

/-- A database that cannot be opened is no rejection of a file. -/
theorem not_rejected_of_opening {seen : Sight} {failure : Failure}
    (failed : opening trouble db operation seen = .error failure) (r : Rejection) :
    failure ≠ .rejected r := by
  obtain ⟨failure', fails, other⟩ | ⟨t, -, opens⟩ := opening_cases trouble db operation seen
  · rw [Except.error.inj (failed.symm.trans fails)]
    exact other r
  · exact nomatch failed.symm.trans opens

/-- A database that lasts is opened to the rows that are seen. -/
theorem rows_of_opening {seen : Sight} (lasting : db.text ≠ ":memory:")
    (opened : opening trouble db operation seen = .ok t) : seen = .rows t := by
  obtain ⟨failure, fails, -⟩ | ⟨t', found, opens⟩ := opening_cases trouble db operation seen
  · exact nomatch opened.symm.trans fails
  · rw [if_neg (by simpa using lasting)] at found
    rw [found, Except.ok.inj (opened.symm.trans opens)]

/-- What comes of opening a database. -/
inductive Opens (trouble : Trouble) (db : Path) (operation : Operation) (disk : Disk) :
    EStateM.Result Failure Disk (Location × Tables) → Prop
  /-- It cannot be opened. -/
  | failed {failure : Failure} {disk' : Disk} (alike : Alike db disk disk')
      (answers : opening trouble db operation (sight db disk) = .error failure) :
      Opens trouble db operation disk (.error failure disk')
  /-- It is open for as long as the connection lasts. -/
  | transient (memory : db.text = ":memory:")
      (answers : opening trouble db operation (sight db disk) = .ok Tables.empty) :
      Opens trouble db operation disk (.ok (.transient, Tables.empty) disk)
  /-- It is open, with its file. -/
  | stored {names : List String} {t : Tables} (opened : disk.fileForWriting db = .ok names)
      (seen : sightOf (disk.top.at? names) = .rows t)
      (answers : opening trouble db operation (sight db disk) = .ok t) :
      Opens trouble db operation disk
        (.ok (.stored names, t) (disk.put names (.file (.database t))))

/-- From a location on, opening reads the tables and makes what is missing of them. -/
def openAt (trouble : Trouble) (db : Path) (operation : Operation) (location : Location) :
    Act (Location × Tables) := do
  let t ← read db operation location
  match (Session.opened t).perform trouble 0 schema with
  | (session, none) =>
    write session.closed location
    return (location, session.closed)
  | (_, some fault) => throw (failureOf db operation fault)

theorem openTables_eq : openTables trouble db operation =
    connect trouble db >>= openAt trouble db operation := rfl

theorem openAt_transient (disk : Disk) :
    openAt trouble db operation .transient disk =
      match trouble.first? 0 schema.length with
      | none => .ok (.transient, Tables.empty) disk
      | some fault => .error (failureOf db operation fault) disk := by
  simp only [openAt, read, bind_apply, pure_apply, Session.perform_schema]
  cases trouble.first? 0 schema.length <;> rfl

theorem openAt_stored {content : Content} (file : disk.top.at? names = some (.file content)) :
    openAt trouble db operation (.stored names) disk =
      match tablesOf content with
      | none => .error (failure db operation .notDatabase) disk
      | some t =>
        match trouble.first? 0 schema.length with
        | none => .ok (.stored names, t) (disk.put names (.file (.database t)))
        | some fault => .error (failureOf db operation fault) disk := by
  unfold openAt
  rw [bind_apply]
  have reading : read db operation (.stored names) disk =
      match tablesOf content with
      | none => .error (failure db operation .notDatabase) disk
      | some t => .ok t disk := by
    simp only [read, bind_apply, get_apply, file]
    cases tablesOf content <;> rfl
  rw [reading]
  cases tablesOf content with
  | none => rfl
  | some t =>
      simp only [Session.perform_schema]
      cases trouble.first? 0 schema.length <;> rfl

/-- What connecting does, case by case. -/
theorem connect_apply (disk : Disk) :
    connect trouble db disk =
      if db.hasNull then .error .nullByte disk
      else
        match trouble.connection with
        | some reason => .error (failure db .connect reason) disk
        | none =>
          if db.text == ":memory:" then .ok .transient disk
          else
            match disk.fileForWriting db with
            | .error _ => .error (failure db .connect .cannotOpen) disk
            | .ok names =>
              .ok (.stored names)
                (if (disk.top.at? names).isNone then disk.put names (.file (.bytes [])) else disk) := by
  unfold connect
  by_cases null : db.hasNull
  · rw [if_pos null, if_pos null]
    rfl
  · rw [if_neg null, if_neg null]
    cases trouble.connection with
    | some reason => rfl
    | none =>
        by_cases memory : db.text == ":memory:"
        · simp only [memory, if_true]
          rfl
        · simp only [memory, Bool.false_eq_true, if_false]
          cases opened : disk.fileForWriting db with
          | error fault => simp only [bind_apply, get_apply, opened, throw_apply]
          | ok names =>
              simp only [bind_apply, get_apply, opened]
              split <;> rfl

/-- Opening a database whose file can be opened. -/
theorem opens_stored (opened : disk.fileForWriting db = .ok names)
    (answers : opening trouble db operation (sight db disk) =
      reached trouble db operation (sightOf (disk.top.at? names))) :
    Opens trouble db operation disk
      (openAt trouble db operation (.stored names)
        (if (disk.top.at? names).isNone then disk.put names (.file (.bytes [])) else disk)) := by
  cases at_ : disk.top.at? names with
  | none =>
      rw [at_] at answers
      -- an empty file is made, which is seen as tables without rows
      rw [Option.isNone_none, if_pos rfl, openAt_stored ((Disk.opened opened).at?_put (.bytes []))]
      simp only [tablesOf]
      cases done : trouble.first? 0 schema.length with
      | none =>
          simp only [sightOf, reached, done] at answers
          rw [Disk.put_put]
          exact .stored opened (by rw [at_, sightOf]) answers
      | some fault =>
          simp only [sightOf, reached, done] at answers
          exact .failed (.written opened (by rw [at_]; rfl)) answers
  | some node =>
      obtain ⟨content, rfl⟩ := (Disk.opened opened).file at_
      rw [at_] at answers
      rw [Option.isNone_some, if_neg Bool.false_ne_true, openAt_stored at_]
      cases held : tablesOf content with
      | none =>
          simp only [sightOf, reached, held] at answers
          exact .failed .same answers
      | some t =>
          cases done : trouble.first? 0 schema.length with
          | none =>
              simp only [sightOf, reached, held, done] at answers
              exact .stored opened (by simp only [at_, sightOf, held]) answers
          | some fault =>
              simp only [sightOf, reached, held, done] at answers
              exact .failed .same answers

/-- Opening a database comes to what its sight says, and leaves an alike disk. -/
theorem opens (trouble : Trouble) (db : Path) (operation : Operation) (disk : Disk) :
    Opens trouble db operation disk (openTables trouble db operation disk) := by
  rw [openTables_eq, bind_apply, connect_apply]
  -- the cases are what opening checks, in its order
  by_cases null : db.hasNull
  · rw [if_pos null]
    exact .failed .same (by rw [opening, if_pos null])
  · rw [if_neg null]
    have answers := opening_of_not_null trouble operation (sight db disk) null
    cases connection : trouble.connection with
    | some reason =>
        rw [connection] at answers
        exact .failed .same answers
    | none =>
        rw [connection] at answers
        by_cases memory : db.text == ":memory:"
        · rw [if_pos memory] at answers ⊢
          simp only [openAt_transient]
          cases done : trouble.first? 0 schema.length with
          | none =>
              simp only [reached, done] at answers
              exact .transient (beq_iff_eq.mp memory) answers
          | some fault =>
              simp only [reached, done] at answers
              exact .failed .same answers
        · rw [if_neg memory] at answers ⊢
          cases opened : disk.fileForWriting db with
          | error fault =>
              have closed : sight db disk = .closed := by rw [sight, opened]
              rw [closed] at answers
              exact .failed .same (closed ▸ answers)
          | ok names =>
              have seen : sight db disk = sightOf (disk.top.at? names) := by rw [sight, opened]
              exact opens_stored opened (answers.trans (by rw [seen]))

end Docwright.Cache.Database
