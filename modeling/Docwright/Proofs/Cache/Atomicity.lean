import Docwright.Proofs.Cache.Sight

/-!
# Operations that fail leave the rows alone

Looking a path up leaves an alike disk, however it ends, and its answer depends on
what is seen alone (`lookupAmid_opens`).  An operation that
changes rows is one transaction: it changes the rows as all of its statements
together do, or fails and leaves an alike disk (`performed`).

So whatever goes wrong with a store or an emptying, and at whichever of its
statements, no row is lost, added or mixed with others, and every lookup answers
as before (`failed_operation_leaves_rows`).
-/

namespace Docwright.Cache.Database

variable {trouble : Trouble} {db db' : Path} {operation : Operation} {disk disk' : Disk}
  {names : List String} {t : Tables}

/-- Disks that are alike for a database are alike for every path that leads to its file. -/
theorem Alike.of_same_file (alike : Alike db disk disk')
    (same : disk.fileForWriting db' = disk.fileForWriting db) : Alike db' disk disk' := by
  cases alike with
  | same => exact .same
  | written opened seen => exact .written (same.trans opened) seen

/-! ### Lookups -/

/-- What a lookup answers from the rows of an open database. -/
def selecting (trouble : Trouble) (db : Path) (path : String) (t : Tables) :
    Except Failure (Option FileRecord) :=
  match trouble.first? schema.length (t.selections path) with
  | some fault => .error (failureOf db (.lookup path) fault)
  | none =>
    match t.record? path with
    | .ok record => .ok record
    | .error fault => .error (.row fault)

theorem lookupAmid_apply (path : String) (disk : Disk) :
    lookupAmid trouble db path disk =
      match openTables trouble db (.lookup path) disk with
      | .error failure disk' => .error failure disk'
      | .ok (_, t) disk' =>
        match selecting trouble db path t with
        | .ok record => .ok record disk'
        | .error failure => .error failure disk' := by
  unfold lookupAmid
  rw [bind_apply]
  cases openTables trouble db (.lookup path) disk with
  | error failure disk' => rfl
  | ok found disk' =>
      obtain ⟨location, t⟩ := found
      simp only [selecting]
      cases trouble.first? schema.length (t.selections path) with
      | some fault => rfl
      | none => cases t.record? path <;> rfl

/-- A lookup answers from what it sees, and changes nothing that can be seen. -/
theorem lookupAmid_opens (trouble : Trouble) (db : Path) (path : String) (disk : Disk) :
    Alike db disk (endState (lookupAmid trouble db path disk)) ∧
      answer (lookupAmid trouble db path disk) =
        (opening trouble db (.lookup path) (sight db disk)).bind (selecting trouble db path) := by
  rw [lookupAmid_apply]
  have coming := opens trouble db (.lookup path) disk
  generalize openTables trouble db (.lookup path) disk = result at coming
  cases coming with
  | failed alike answers =>
      rw [answers]
      exact ⟨alike, rfl⟩
  | transient memory answers =>
      rw [answers]
      cases chosen : selecting trouble db path Tables.empty <;>
        exact ⟨by simpa [chosen] using .same, by simp [Except.bind, chosen]⟩
  | @stored names t opened seen answers =>
      rw [answers]
      have alike : Alike db disk (disk.put names (.file (.database t))) := .written opened seen
      cases chosen : selecting trouble db path t <;>
        exact ⟨by simpa [chosen] using alike, by simp [Except.bind, chosen]⟩

/-! ### Changes -/

/-- What comes of carrying out the statements of a transaction. -/
inductive Performed (trouble : Trouble) (db : Path) (operation : Operation) (body : List Statement)
    (disk : Disk) : EStateM.Result Failure Disk Unit → Prop
  /-- Nothing that can be seen is changed. -/
  | failed {failure : Failure} {disk' : Disk} (alike : Alike db disk disk')
      (other : ∀ r, failure ≠ .rejected r) :
      Performed trouble db operation body disk (.error failure disk')
  /-- Tables were changed that last no longer than the connection. -/
  | transient (memory : db.text = ":memory:") :
      Performed trouble db operation body disk (.ok () disk)
  /-- All of the changes were made. -/
  | changed {names : List String} {t t' : Tables} (opened : disk.fileForWriting db = .ok names)
      (seen : sightOf (disk.top.at? names) = .rows t) (changes : t.changes body = .ok t') :
      Performed trouble db operation body disk (.ok () (disk.put names (.file (.database t'))))

theorem perform_apply (statements : List Statement) (disk : Disk) :
    perform trouble db operation statements disk =
      match openTables trouble db operation disk with
      | .error failure disk' => .error failure disk'
      | .ok (location, t) disk' =>
        let (session, fault) := (Session.opened t).perform trouble schema.length statements
        match fault with
        | none => write (session.settled none) location disk'
        | some fault =>
          (do write (session.settled (some fault)) location
              throw (failureOf db operation fault) : Act Unit) disk' := by
  unfold perform
  rw [bind_apply]
  cases openTables trouble db operation disk with
  | error failure disk' => rfl
  | ok found disk' =>
      obtain ⟨location, t⟩ := found
      dsimp only
      generalize (Session.opened t).perform trouble schema.length statements = ended
      obtain ⟨session, fault⟩ := ended
      cases fault with
      | some fault => rfl
      | none => cases location <;> rfl

theorem performed (trouble : Trouble) (db : Path) (operation : Operation) (disk : Disk)
    {body : List Statement} (plain : ∀ statement ∈ body, statement.plain = true) :
    Performed trouble db operation body disk
      (perform trouble db operation (.begin :: body ++ [.commit]) disk) := by
  rw [perform_apply]
  have coming := opens trouble db operation disk
  generalize openTables trouble db operation disk = result at coming
  cases coming with
  | failed alike answers => exact .failed alike (not_rejected_of_opening answers)
  | transient memory answers =>
      dsimp only
      generalize (Session.opened Tables.empty).perform trouble schema.length _ = ended
      obtain ⟨session, fault⟩ := ended
      cases fault with
      | some fault => exact .failed .same (failureOf_not_rejected fault)
      | none => exact .transient memory
  | @stored names t opened seen answers =>
      have whole := Session.transaction trouble t schema.length plain
      dsimp only
      generalize (Session.opened t).perform trouble schema.length _ = ended at whole
      obtain ⟨session, fault⟩ := ended
      cases fault with
      | none =>
          simp only at whole
          simp only [write, modify_apply]
          -- the tables are written over what opening has left of the file
          rw [Disk.put_put]
          exact .changed opened seen whole
      | some fault =>
          simp only at whole
          simp only [write, bind_apply, modify_apply, throw_apply]
          rw [Disk.put_put, whole]
          exact .failed (.written opened seen) (failureOf_not_rejected fault)

/-! ### Failures -/

/-- Through every path that leads to the file of a database the same is seen on two disks, and every
lookup answers the same. -/
structure Unchanged (db : Path) (disk disk' : Disk) : Prop where
  sight : ∀ db', disk.fileForWriting db' = disk.fileForWriting db →
    Database.sight db' disk' = Database.sight db' disk
  lookups : ∀ db', disk.fileForWriting db' = disk.fileForWriting db → ∀ trouble path,
    answer (lookupAmid trouble db' path disk') = answer (lookupAmid trouble db' path disk)

theorem Alike.unchanged (alike : Alike db disk disk') : Unchanged db disk disk' where
  sight db' same := (alike.of_same_file same).sight
  lookups db' same trouble path := by
    rw [(lookupAmid_opens trouble db' path disk').2, (lookupAmid_opens trouble db' path disk).2,
      (alike.of_same_file same).sight]

/-- **A store or an emptying that fails leaves the rows alone**, whatever goes wrong, and at whichever
of its statements. -/
theorem failed_operation_leaves_rows (trouble : Trouble) (db : Path) (disk : Disk) :
    (∀ {path : String} {record : FileRecord} {failure : Failure} {disk' : Disk},
      storeAmid trouble db path record disk = .error failure disk' → Unchanged db disk disk') ∧
    (∀ {failure : Failure} {disk' : Disk},
      clearAmid trouble db disk = .error failure disk' → Unchanged db disk disk') := by
  constructor
  · intro path record failure disk' failed
    have coming := performed trouble db (.store path) disk (plain_storingBody path record)
    rw [← storing_eq] at coming
    change Performed _ _ _ _ _ (storeAmid trouble db path record disk) at coming
    rw [failed] at coming
    cases coming with
    | failed alike other => exact alike.unchanged
  · intro failure disk' failed
    have coming := performed trouble db .clear disk plain_clearingBody
    rw [← clearing_eq] at coming
    change Performed _ _ _ _ _ (clearAmid trouble db disk) at coming
    rw [failed] at coming
    cases coming with
    | failed alike other => exact alike.unchanged

/-- A disk with one file, where the program stands. -/
def holding (content : Content) : Disk :=
  .directory [("c", .file content)]

theorem fileForWriting_holding (content : Content) :
    (holding content).fileForWriting ⟨"", ["c"]⟩ = .ok ["work", "c"] := by
  have located : (holding content).locate ⟨"", ["c"]⟩ = .ok ["work", "c"] := by
    have turned : (holding content).top.turn Node.linkLimit ["work"] "c" =
        .goes Node.linkLimit ["work", "c"] [] := by
      rfl
    refine (Disk.locate_eq (by decide +kernel) rfl).trans ?_
    show (holding content).top.resolve Node.linkLimit ["work"] ["c"] = _
    rw [Node.resolve_cons, turned]
    simp only [List.nil_append, Node.resolve_nil]
  rw [Disk.fileForWriting, located]
  rfl

/-- A disk with a database that keeps a record of one file. -/
def keeping : Disk :=
  holding (.database ⟨[⟨"a.py", "0", "2026-01-01T00:00:00"⟩], [], false⟩)

/-- A record of that file whose second problem has a line that no table can hold. -/
def oversized : FileRecord :=
  ⟨"a.py", "1", ⟨⟨2026, 1, 2⟩, 0, 0, 0, 0, none⟩,
    [⟨.error, "x", [], none⟩, ⟨.error, "y", [], some integerLimit⟩]⟩

/-- A store that fails after the old problems and the old row of the file were deleted. -/
theorem failed_operation_leaves_rows_oversized :
    ∃ disk', storeAmid .calm ⟨"", ["c"]⟩ "a.py" oversized keeping = .error .integerRange disk' ∧
      Unchanged ⟨"", ["c"]⟩ keeping disk' := by
  obtain ⟨disk', failed⟩ : ∃ disk',
      storeAmid .calm ⟨"", ["c"]⟩ "a.py" oversized keeping = .error .integerRange disk' := by
    rw [storeAmid, perform_apply, openTables_eq, bind_apply, connect_apply, keeping,
      fileForWriting_holding]
    exact ⟨_, rfl⟩
  exact ⟨disk', failed, (failed_operation_leaves_rows .calm ⟨"", ["c"]⟩ keeping).1 failed⟩

end Docwright.Cache.Database
