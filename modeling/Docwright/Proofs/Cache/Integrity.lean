import Docwright.Proofs.Cache.Records
import Docwright.Proofs.Cache.TornReads
import Docwright.Proofs.Sorting

/-!
# The two tables agree

Nothing in a database says that a row of the table of problems belongs to a file, that a
file has one row, or that no two problems of a file have one position.  All of it is true
because of the statements that changes are made of, and because a change that fails is
undone: `Intact` says what is true of the tables after changes, and every database that
was empty at first is intact whatever operations are carried out on it, and wherever
these fail (`database_intact`).

`Tables.Bears` is the part of it that a change keeps true by itself (`Bears.change`).  It
speaks of the records that stand; the rest follows from it without a word about changes
(`Bears.distinct`, `Bears.unambiguous`).  The one step serves both kinds of run: operations
one after another, each amid its own trouble, and clients whose statements interleave
(`System.intact_play`).
-/

namespace Docwright.Cache

variable {t t' : Tables} {path q : String} {record : FileRecord} {rows : List ProblemRow}
  {records : String → Option FileRecord} {cs : List Change}

/-- The paths in the table of files. -/
def Tables.paths (t : Tables) : List String :=
  t.files.map FileRow.path

/-- The rows of the problems of a file, in the order in which they were written. -/
def Tables.rowsOf (t : Tables) (path : String) : List ProblemRow :=
  t.problems.filter (·.path == path)

/-- The record is that of the last store for a path, with no emptying since. -/
def LastStored (cs : List Change) (path : String) (record : FileRecord) : Prop :=
  ∃ before after, cs = before ++ .store path record :: after ∧ ∀ c ∈ after, ¬ c.Concerns path

theorem standing_of_stored (stored : LastStored cs path record) : standing cs path = some record := by
  obtain ⟨before, after, rfl, others⟩ := stored
  rw [List.append_cons, standing_append others, standing_concat, Change.leaves, Function.update_self]

/-- The tables are such as the changes leave them, as far as the rows of the two belong together. -/
structure Intact (cs : List Change) (t : Tables) : Prop where
  /-- No row of a problem is without its file. -/
  owned : ∀ row ∈ t.problems, row.path ∈ t.paths
  /-- No file has two rows. -/
  single : t.paths.Nodup
  /-- A file that was stored has a row. -/
  listed : ∀ path record, LastStored cs path record → path ∈ t.paths
  /-- The problems of a file are numbered from zero, as many as the record has that was stored last. -/
  numbered : ∀ path ∈ t.paths, ∃ record, LastStored cs path record ∧
    (t.rowsOf path).map ProblemRow.position = (List.range record.problems.length).map Nat.cast
  /-- No two rows are of one file and position. -/
  distinct : (t.problems.map fun row => (row.path, row.position)).Nodup
  /-- There is one order by position. -/
  unambiguous : ∀ path rows, rows.Perm (t.rowsOf path) →
    (rows.Pairwise fun a b => a.position ≤ b.position) → rows = t.problemsOf path

/-! ### What a change keeps -/

/-- The rows of the two tables belong together, and are those of the records by number. -/
structure Tables.Bears (records : String → Option FileRecord) (t : Tables) : Prop where
  owned : ∀ row ∈ t.problems, row.path ∈ t.paths
  single : t.paths.Nodup
  listed : ∀ path record, records path = some record → path ∈ t.paths
  numbered : ∀ path ∈ t.paths, ∃ record, records path = some record ∧
    (t.rowsOf path).map ProblemRow.position = (List.range record.problems.length).map Nat.cast

namespace Tables

theorem bears_empty {guarded : Bool} : Bears (fun _ => none) ⟨[], [], guarded⟩ :=
  ⟨nofun, .nil, nofun, nofun⟩

/-- The rows of problems have the positions from the first on, without a gap. -/
theorem position_problemRows {problems : List Problem} {position : Nat}
    (written : problemRows? path position problems = some rows) :
    rows.map ProblemRow.position = (List.range' position problems.length).map Nat.cast := by
  induction problems generalizing position rows with
  | nil =>
      obtain rfl := Option.some.inj written
      rfl
  | cons p rest ih =>
      obtain ⟨row, others, rfl, first, written⟩ := problemRows?_cons written
      rw [List.map_cons, ih written, (problemRow?_path first).2, List.length_cons, List.range'_succ,
        List.map_cons]

theorem paths_replaced (t : Tables) (path : String) (row : FileRow) :
    (t.files.filter (·.path != path) ++ [row]).map FileRow.path =
      t.paths.filter (· != path) ++ [row.path] := by
  rw [List.map_append, paths, List.filter_map]
  rfl

theorem mem_paths_replaced : q ∈ t.paths.filter (· != path) ++ [path] ↔ q ∈ t.paths ∨ q = path := by
  by_cases same : q = path <;> simp [same]

/-- **A store keeps the rows of the two tables together.** -/
theorem Bears.store (bears : t.Bears records)
    (changed : t.changes (storingBody path record) = .ok t') :
    t'.Bears (Function.update records path (some record)) := by
  obtain ⟨rows, written, rfl⟩ := changes_storing changed
  have own := fun row member => ((problemRows?_sorted written).1 row member).1
  have paths := paths_replaced t path (fileRow path record)
  refine ⟨fun row member => ?_, ?_, fun q stored stands => ?_, fun q member => ?_⟩
  · rw [Tables.paths, paths]
    rcases List.mem_append.mp member with old | new
    · exact mem_paths_replaced.mpr (.inl (bears.owned row (List.mem_filter.mp old).1))
    · exact mem_paths_replaced.mpr (.inr (own row new))
  · rw [Tables.paths, paths]
    refine List.Nodup.append (bears.single.filter _) (List.nodup_singleton _) ?_
    rw [List.disjoint_singleton]
    simp [fileRow]
  · rw [Tables.paths, paths]
    by_cases same : q = path
    · exact mem_paths_replaced.mpr (.inr same)
    · rw [Function.update_of_ne same] at stands
      exact mem_paths_replaced.mpr (.inl (bears.listed q stored stands))
  · rw [Tables.paths, paths] at member
    have replaced := filter_replaced ProblemRow.path path q t.problems own
    rw [rowsOf, replaced]
    by_cases same : q = path
    · refine ⟨record, by rw [same, Function.update_self], ?_⟩
      rw [if_pos same, position_problemRows written, List.range_eq_range']
    · rw [if_neg same, Function.update_of_ne same]
      exact bears.numbered q ((mem_paths_replaced.mp member).resolve_right same)

/-- **Every change does**, for an emptying leaves no rows at all. -/
theorem Bears.change {c : Change} (bears : t.Bears records) (changed : t.changes c.body = .ok t') :
    t'.Bears (c.leaves records) := by
  cases c with
  | store path record => exact bears.store changed
  | clear =>
      obtain rfl := Except.ok.inj changed
      exact bears_empty

/-! ### What follows -/

theorem Bears.nodup_positions (bears : t.Bears records) (path : String) :
    ((t.rowsOf path).map ProblemRow.position).Nodup := by
  by_cases listed : path ∈ t.paths
  · obtain ⟨record, -, positions⟩ := bears.numbered path listed
    rw [positions]
    exact List.nodup_range.map Nat.cast_injective
  · -- without a file there are no rows at all
    have none_ : t.rowsOf path = [] := by
      refine List.filter_eq_nil_iff.mpr fun row member same => listed ?_
      rw [← beq_iff_eq.mp same]
      exact bears.owned row member
    rw [none_]
    exact .nil

/-- Where the rows of each path differ in position, all rows differ in path or position. -/
theorem nodup_pairs {rows : List ProblemRow}
    (each : ∀ path, ((rows.filter (·.path == path)).map ProblemRow.position).Nodup) :
    (rows.map fun row => (row.path, row.position)).Nodup := by
  induction rows with
  | nil => exact .nil
  | cons row rest ih =>
      have own := each row.path
      rw [List.filter_cons_of_pos (by simp), List.map_cons, List.nodup_cons] at own
      rw [List.map_cons, List.nodup_cons]
      refine ⟨fun member => own.1 ?_, ih fun path => (each path).sublist ?_⟩
      · obtain ⟨other, later, same⟩ := List.mem_map.mp member
        obtain ⟨at_, position⟩ := Prod.mk.inj same
        exact List.mem_map.mpr ⟨other, List.mem_filter.mpr ⟨later, beq_iff_eq.mpr at_⟩, position⟩
      · exact ((List.sublist_cons_self row rest).filter _).map _

theorem Bears.distinct (bears : t.Bears records) :
    (t.problems.map fun row => (row.path, row.position)).Nodup :=
  nodup_pairs bears.nodup_positions

/-- Rows in the order of their positions are the rows that a lookup selects. -/
theorem Bears.unambiguous (bears : t.Bears records) (perm : rows.Perm (t.rowsOf path))
    (ordered : rows.Pairwise fun a b => a.position ≤ b.position) : rows = t.problemsOf path := by
  have sorted : (t.problemsOf path).Pairwise fun a b => a.position ≤ b.position :=
    (Sorting.pairwise_sort (fun a b => by simpa using le_total a.position b.position)
      (fun a b c => by simpa using le_trans) _).imp of_decide_eq_true
  refine List.Perm.eq_of_pairwise (fun a b inOne inOther before after => ?_) ordered sorted
    (perm.trans (Sorting.sort_perm _).symm)
  exact List.inj_on_of_nodup_map (bears.nodup_positions path) (perm.mem_iff.mp inOne)
    (Sorting.mem_sort.mp inOther) (le_antisymm before after)

theorem Bears.intact (bears : t.Bears (standing cs)) : Intact cs t where
  owned := bears.owned
  single := bears.single
  listed path record stored := bears.listed path record (standing_of_stored stored)
  numbered path listed := by
    obtain ⟨record, stands, positions⟩ := bears.numbered path listed
    exact ⟨record, stored_of_standing stands, positions⟩
  distinct := bears.distinct
  unambiguous _ _ := bears.unambiguous

end Tables

/-! ### Clients whose statements interleave -/

theorem bears_written (written : Written cs t) : t.Bears (standing cs) := by
  induction written with
  | nil => exact Tables.bears_empty
  | @concat cs t t' c written changed ih =>
      rw [standing_concat]
      exact ih.change changed

/-- **Tables stay intact whatever clients do**, and are so between any two statements of theirs. -/
theorem System.intact_play {ι : Type} [DecidableEq ι] {s : System ι} {moves : List (Move ι)}
    (played : System.start.play moves = some s) : Intact (changesOf s.history) s.tables :=
  (bears_written (System.inv_start.play (P := fun _ => True) (fun _ _ _ => trivial) played).written).intact

/-! ### Operations one after another -/

/-- A change is carried out in a database, amid trouble. -/
def Change.carryOut (trouble : Trouble) (db : Path) : Change → Database.Act Unit
  | store path record => Database.storeAmid trouble db path record
  | clear => Database.clearAmid trouble db

namespace Database

variable {start disk disk' : Disk} {names : List String} {guarded : Bool}

/-- The disks that are reached from the first one when operations are carried out on the file with the
given names, and the changes that have succeeded until then.  An operation may meet any trouble, and so
fail at any of its statements. -/
inductive Reached (start : Disk) (names : List String) : List Change → Disk → Prop
  | start : Reached start names [] start
  | looked {cs : List Change} {disk : Disk} {db : Path} (trouble : Trouble) (path : String)
      (reached : Reached start names cs disk) (on : start.fileForWriting db = .ok names)
      (lasting : db.text ≠ ":memory:") :
      Reached start names cs (endState (lookupAmid trouble db path disk))
  | changed {cs : List Change} {disk disk' : Disk} {db : Path} {trouble : Trouble} {c : Change}
      (reached : Reached start names cs disk) (on : start.fileForWriting db = .ok names)
      (lasting : db.text ≠ ":memory:") (done : c.carryOut trouble db disk = .ok () disk') :
      Reached start names (cs ++ [c]) disk'
  | failed {cs : List Change} {disk disk' : Disk} {db : Path} {trouble : Trouble} {c : Change}
      {failure : Failure} (reached : Reached start names cs disk)
      (on : start.fileForWriting db = .ok names) (lasting : db.text ≠ ":memory:")
      (fails : c.carryOut trouble db disk = .error failure disk') :
      Reached start names cs disk'

/-- What operations keep true of a disk. -/
structure Sustains (start : Disk) (names : List String) (cs : List Change) (disk : Disk) : Prop where
  opened : ∀ db, start.fileForWriting db = .ok names → disk.fileForWriting db = .ok names
  rows : ∃ t, sightOf (disk.top.at? names) = .rows t ∧ t.Bears (standing cs)

theorem Sustains.put {db : Path} {content : Content} {cs' : List Change}
    (sustains : Sustains start names cs disk) (on : start.fileForWriting db = .ok names)
    (seen : sightOf (some (.file content)) = .rows t) (bears : t.Bears (standing cs')) :
    Sustains start names cs' (disk.put names (.file content)) where
  opened db' on' := Disk.fileForWriting_put (sustains.opened db' on') content
  rows := by
    refine ⟨t, ?_, bears⟩
    rw [(Disk.opened (sustains.opened db on)).at?_put, seen]

theorem Sustains.alike {db : Path} (sustains : Sustains start names cs disk)
    (on : start.fileForWriting db = .ok names) (alike : Alike db disk disk') :
    Sustains start names cs disk' := by
  cases alike with
  | same => exact sustains
  | @written names' content opened seen =>
      obtain rfl : names' = names := Except.ok.inj (opened.symm.trans (sustains.opened db on))
      obtain ⟨t, rows, bears⟩ := sustains.rows
      exact sustains.put on (seen.symm.trans rows) bears

theorem performed_change (trouble : Trouble) (db : Path) (c : Change) (disk : Disk) :
    ∃ operation, Performed trouble db operation c.body disk (c.carryOut trouble db disk) := by
  cases c with
  | store path record => exact ⟨_, performed trouble db (.store path) disk (plain_storingBody path record)⟩
  | clear => exact ⟨_, performed trouble db .clear disk plain_clearingBody⟩

/-- **An operation keeps it true, however it ends.** -/
theorem Reached.sustains {names : List String} (reached : Reached start names cs disk)
    (empty : sightOf (start.top.at? names) = .rows ⟨[], [], guarded⟩) :
    Sustains start names cs disk := by
  induction reached with
  | start => exact ⟨fun _ on => on, _, empty, Tables.bears_empty⟩
  | @looked cs disk db trouble path _ on _ ih =>
      exact ih.alike on (lookupAmid_opens trouble db path disk).1
  | @changed cs disk disk' db trouble c _ on lasting done ih =>
      obtain ⟨operation, coming⟩ := performed_change trouble db c disk
      rw [done] at coming
      cases coming with
      | transient memory => exact absurd memory lasting
      | @changed names' t t' opened seen changes =>
          obtain rfl : names' = names := Except.ok.inj (opened.symm.trans (ih.opened db on))
          obtain ⟨held, rows, bears⟩ := ih.rows
          obtain rfl := Sight.rows.inj (rows.symm.trans seen)
          refine ih.put on (sightOf_database t') ?_
          rw [standing_concat]
          exact bears.change changes
  | @failed cs disk disk' db trouble c failure _ on _ fails ih =>
      obtain ⟨operation, coming⟩ := performed_change trouble db c disk
      rw [fails] at coming
      cases coming with
      | failed alike => exact ih.alike on alike

/-- **A database that was empty at first stays intact**, whatever operations are carried out on it, and
wherever these fail. -/
theorem database_intact
    (empty : sightOf (start.top.at? names) = .rows ⟨[], [], guarded⟩)
    (reached : Reached start names cs disk) :
    ∃ t, sightOf (disk.top.at? names) = .rows t ∧ Intact cs t := by
  obtain ⟨t, seen, bears⟩ := (reached.sustains empty).rows
  exact ⟨t, seen, bears.intact⟩

/-- A record of a file with two problems. -/
def doubled : FileRecord :=
  ⟨"a.py", "1", ⟨⟨2026, 1, 2⟩, 3, 4, 5, 0, none⟩,
    [⟨.error, "x", [.int 7], some 1⟩, ⟨.info, "y", [], none⟩]⟩

/-- The tables that hold it alone. -/
def doubledRows : Tables :=
  ⟨[⟨"a.py", "1", "2026-01-02T03:04:05"⟩],
    [⟨"a.py", 0, 4, "x", "[7]", some 1⟩, ⟨"a.py", 1, 2, "y", "[]", none⟩], false⟩

/-- The record is stored in an empty file, and then a store of the same path fails at its second problem,
when the rows of the first record are deleted. -/
theorem database_intact_doubled :
    Reached (holding (.bytes [])) ["work", "c"] [.store "a.py" doubled] (holding (.database doubledRows)) ∧
      Intact [.store "a.py" doubled] doubledRows := by
  have on := fileForWriting_holding (.bytes [])
  have lasting : (⟨"", ["c"]⟩ : Path).text ≠ ":memory:" := by decide +kernel
  have stored : storeAmid .calm ⟨"", ["c"]⟩ "a.py" doubled (holding (.bytes [])) =
      .ok () (holding (.database doubledRows)) := by
    rw [storeAmid, perform_apply, openTables_eq, bind_apply, connect_apply, fileForWriting_holding]
    rfl
  have fails : storeAmid .calm ⟨"", ["c"]⟩ "a.py" oversized (holding (.database doubledRows)) =
      .error .integerRange (holding (.database doubledRows)) := by
    rw [storeAmid, perform_apply, openTables_eq, bind_apply, connect_apply, fileForWriting_holding]
    rfl
  have first : Reached (holding (.bytes [])) ["work", "c"] [.store "a.py" doubled]
      (holding (.database doubledRows)) :=
    .changed (c := .store "a.py" doubled) .start on lasting stored
  have both : Reached (holding (.bytes [])) ["work", "c"] [.store "a.py" doubled]
      (holding (.database doubledRows)) :=
    .failed (c := .store "a.py" oversized) first on lasting fails
  have empty : sightOf ((holding (.bytes [])).top.at? ["work", "c"]) = .rows ⟨[], [], false⟩ := rfl
  obtain ⟨t, seen, intact⟩ := database_intact empty both
  obtain rfl : doubledRows = t := Sight.rows.inj seen
  exact ⟨both, intact⟩

end Database

end Docwright.Cache
