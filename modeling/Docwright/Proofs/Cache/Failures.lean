import Docwright.Proofs.Cache.Emptying
import Docwright.Proofs.Check.Attested
import Docwright.Proofs.Sorting

/-!
# How operations on a database fail

Most of what goes wrong with a database is reported as a fault of the cache.  This module finds out
what is not, by what the database holds and what it is given (`failing`):

* a lookup fails otherwise where the rows of the path are no record (`Tables.Broken`);
* a store does where a number of the record has too many digits to be written (`Problem.Lengthy`), or
  is too great for a table (`Overflows`);
* an emptying does not;
* and no database can have a name with a null character.

Trouble from outside adds nothing to the list.  It may put a fault of the cache in the place of what
would come otherwise, and that is all (`Amid`).

Both exact clauses come from the calm answers: what is looked up is a function of the rows, and what is
refused among the statements of a store is a function of the problems.
-/

namespace Docwright

theorem Except.mapM_eq_error_iff {α β ε : Type} {f : α → Except ε β} {items : List α} :
    (∃ e, items.mapM f = .error e) ↔ ∃ a ∈ items, ∃ e, f a = .error e := by
  induction items with
  | nil => simp [pure, Except.pure]
  | cons a rest ih =>
      rw [List.mapM_cons, List.exists_mem_cons_iff, ← ih]
      cases f a with
      | error e => simp [bind, Except.bind]
      | ok b => cases rest.mapM f <;> simp [bind, Except.bind, pure, Except.pure]

theorem Option.mapM_eq_none_iff {α β : Type} {f : α → Option β} {items : List α} :
    items.mapM f = none ↔ ∃ a ∈ items, f a = none := by
  induction items with
  | nil => simp
  | cons a rest ih =>
      rw [List.mapM_cons, List.exists_mem_cons_iff, ← ih]
      cases f a with
      | none => simp
      | some b => cases rest.mapM f <;> simp

/-- A value of a problem is a number of too many digits. -/
def Problem.Lengthy (p : Problem) : Prop :=
  ∃ n, Scalar.int n ∈ p.values ∧ 10 ^ Scalar.digitLimit ≤ n.natAbs

theorem Problem.not_lengthy_iff {p : Problem} : ¬ p.Lengthy ↔ ∀ value ∈ p.values, value.Short := by
  simp only [Lengthy, not_exists, not_and, Nat.not_le]
  constructor
  · intro short value member
    cases value with
    | int n => exact short n member
    | text s | float d | bool b | null => trivial
  · exact fun short n member => short _ member

namespace Cache

variable {path : String} {position : Nat} {t : Tables} {row : ProblemRow} {rows : List ProblemRow}
  {problems : List Problem} {record : FileRecord} {p : Problem} {guarded : Bool}

/-! ### Rows that are no record -/

/-- The row of a problem cannot be read: its severity is none, or its values are no JSON, have no
elements, or have one that is no scalar. -/
inductive ProblemRow.Broken (row : ProblemRow) : Prop
  | severity (unknown : Severity.ofInt? row.severity = none)
  | json {e : Json.Error} (unread : Json.parse row.values.toList = .error e)
  | atom {d : Datum} {kind : Atom} (read : Json.parse row.values.toList = .ok d)
      (single : elements d = .error kind)
  | value {d : Datum} {items : List Datum} (read : Json.parse row.values.toList = .ok d)
      (listed : elements d = .ok items) (other : ∃ item ∈ items, item.inContext? = none)

theorem ofData_error_iff {severity : Severity} {template : String} {items : List Datum}
    {line : Option Int} :
    (∃ fault, Problem.ofData severity template items line = .error fault) ↔
      ∃ item ∈ items, item.inContext? = none := by
  have others : (∃ item ∈ items, item.inContext? = none) ↔
      items.filter (fun d => d.inContext?.isNone) ≠ [] := by
    simp [List.filter_eq_nil_iff]
  rw [others, Problem.ofData]
  cases items.filter fun d => d.inContext?.isNone <;> simp

theorem problemOf_error_iff : (∃ fault, problemOf row = .error fault) ↔ row.Broken := by
  simp only [problemOf, severityOf, valuesOf, bind, Except.bind]
  -- the steps of reading in their order: each either fails or leaves the next one to fail
  cases known : Severity.ofInt? row.severity with
  | none => exact ⟨fun _ => .severity known, fun _ => ⟨_, rfl⟩⟩
  | some severity =>
      cases read : Json.parse row.values.toList with
      | error e => exact ⟨fun _ => .json read, fun _ => ⟨_, rfl⟩⟩
      | ok d =>
          dsimp only
          cases listed : elements d with
          | error kind => exact ⟨fun _ => .atom read listed, fun _ => ⟨_, rfl⟩⟩
          | ok items =>
              have made := @ofData_error_iff severity row.template items row.line
              constructor
              · rintro ⟨fault, failed⟩
                refine .value read listed (made.mp ?_)
                revert failed
                dsimp only
                cases Problem.ofData severity row.template items row.line with
                | ok p => rintro ⟨⟩
                | error fault' => exact fun _ => ⟨fault', rfl⟩
              · intro broken
                have other : ∃ item ∈ items, item.inContext? = none := by
                  cases broken with
                  | severity unknown => cases known.symm.trans unknown
                  | json unread => cases read.symm.trans unread
                  | atom read' single =>
                      obtain rfl := Except.ok.inj (read.symm.trans read')
                      cases listed.symm.trans single
                  | value read' listed' other =>
                      obtain rfl := Except.ok.inj (read.symm.trans read')
                      obtain rfl := Except.ok.inj (listed.symm.trans listed')
                      exact other
                obtain ⟨fault, failed⟩ := made.mpr other
                exact ⟨.problem fault, by simp only [failed]⟩

/-- What tables hold for a path is no record: the time of the file or one of its problems cannot be
read. -/
def Tables.Broken (t : Tables) (path : String) : Prop :=
  ∃ row, t.file? path = some row ∧
    ((∃ fault, Timestamp.parse row.analyzed = .error fault) ∨
      ∃ p ∈ t.problems, p.path = path ∧ p.Broken)

/-- A lookup in tables fails exactly where they hold no record for the path. -/
theorem record?_error_iff : (∃ fault, t.record? path = .error fault) ↔ t.Broken path := by
  unfold Tables.record? Tables.Broken
  cases t.file? path with
  | none => simp
  | some row =>
      have rows : (∃ p ∈ t.problems, p.path = path ∧ p.Broken) ↔
          ∃ fault, (t.problemsOf path).mapM problemOf = .error fault := by
        rw [Except.mapM_eq_error_iff, Tables.problemsOf]
        simp [Sorting.mem_sort, problemOf_error_iff, and_assoc]
      simp only [Option.some.injEq, exists_eq_left', rows, recordOf, timeOf, bind, Except.bind]
      cases Timestamp.parse row.analyzed with
      | error fault => simp [Except.map]
      | ok time => cases (t.problemsOf path).mapM problemOf <;> simp [Except.map]

/-! ### Records that cannot be stored -/

/-- Problems cannot be written if a number in them has too many digits. -/
theorem problemRow?_eq_none_iff : problemRow? path position p = none ↔ p.Lengthy := by
  rw [problemRow?, Option.map_eq_none_iff, Json.compact?, Option.map_eq_none_iff,
    Option.mapM_eq_none_iff, Problem.Lengthy]
  constructor
  · rintro ⟨v, member, unwritten⟩
    cases v with
    | int n => exact ⟨n, member, Scalar.intText?_eq_none_iff.mp unwritten⟩
    | text s | float d | bool b | null => cases unwritten
  · rintro ⟨n, member, long⟩
    exact ⟨_, member, Scalar.intText?_eq_none_iff.mpr long⟩

theorem problemRows?_eq_none_iff :
    problemRows? path position problems = none ↔ ∃ p ∈ problems, p.Lengthy := by
  induction problems generalizing position with
  | nil => simp [problemRows?]
  | cons p rest ih =>
      rw [problemRows?, List.exists_mem_cons_iff, ← @ih (position + 1),
        ← @problemRow?_eq_none_iff path position]
      cases problemRow? path position p with
      | none => simp
      | some row => cases problemRows? path (position + 1) rest <;> simp

/-- Of problems that are counted from `position` on, one has a position or a line that is too great for a
table, and a guard refuses none before it. -/
def Overflows (guarded : Bool) (position : Nat) (problems : List Problem) : Prop :=
  ∃ before p after, problems = before ++ p :: after ∧
    (integerLimit ≤ position + before.length ∨ ∃ n ∈ p.line, fitsInteger n = false) ∧
    (guarded = true → ∀ q ∈ before, q.template ≠ refusedTemplate)

theorem overflows_cons {rest : List Problem} :
    Overflows guarded position (p :: rest) ↔
      (integerLimit ≤ position ∨ ∃ n ∈ p.line, fitsInteger n = false) ∨
        (guarded = true → p.template ≠ refusedTemplate) ∧ Overflows guarded (position + 1) rest := by
  constructor
  · rintro ⟨_ | ⟨q, before⟩, r, after, split, great, free⟩
    · cases split
      exact .inl great
    · cases split
      refine .inr ⟨fun guard => free guard p (.head _), before, r, after, rfl, ?_,
        fun guard u member => free guard u (.tail _ member)⟩
      rwa [List.length_cons, ← Nat.add_assoc, Nat.add_right_comm] at great
  · rintro (great | ⟨free, before, r, after, rfl, great, others⟩)
    · exact ⟨[], p, rest, rfl, great, nofun⟩
    · refine ⟨p :: before, r, after, rfl, ?_, fun guard => List.forall_mem_cons.mpr
        ⟨free guard, others guard⟩⟩
      rwa [List.length_cons, ← Nat.add_assoc, Nat.add_right_comm]

theorem fits_eq_false_iff (written : problemRow? path position p = some row) :
    row.fits = false ↔ integerLimit ≤ position ∨ ∃ n ∈ p.line, fitsInteger n = false := by
  obtain ⟨values, -, rfl⟩ := Option.map_eq_some_iff.mp written
  have place : fitsInteger (position : Int) = false ↔ integerLimit ≤ position := by
    simp only [fitsInteger, Bool.and_eq_false_iff, decide_eq_false_iff_not]
    omega
  have line : (p.line.map fitsInteger).getD true = false ↔ ∃ n ∈ p.line, fitsInteger n = false := by
    cases p.line <;> simp
  rw [ProblemRow.fits, fitsInteger_natCast p.severity.rank_lt, Bool.and_true, Bool.and_eq_false_iff,
    place, line]

/-- What comes of the statements that write rows: they end where a number does not fit or the guard
refuses, whatever is first. -/
theorem outcome_rows (written : problemRows? path position problems = some rows) :
    ((rows.map Statement.insertProblem).forM (Statement.outcome guarded) = .error .integerRange ↔
        Overflows guarded position problems) ∧
      (rows.map Statement.insertProblem).forM (Statement.outcome guarded) ≠ .error .unprintable := by
  induction problems generalizing position rows with
  | nil =>
      obtain rfl := Option.some.inj written
      refine ⟨iff_of_false (by rintro ⟨⟩) ?_, by rintro ⟨⟩⟩
      rintro ⟨before, p, after, split, -⟩
      simp at split
  | cons p rest ih =>
      obtain ⟨row, others, rfl, first, written⟩ := problemRows?_cons written
      obtain ⟨later, never⟩ := ih written
      have great := fits_eq_false_iff first
      have template : row.template = p.template := by
        obtain ⟨values, -, rfl⟩ := Option.map_eq_some_iff.mp first
        rfl
      rw [overflows_cons, ← great, ← later, ← template]
      change ((Statement.outcome guarded (.insertProblem row) >>= fun _ =>
          (others.map Statement.insertProblem).forM _) = _ ↔ _) ∧
        (Statement.outcome guarded (.insertProblem row) >>= fun _ =>
          (others.map Statement.insertProblem).forM _) ≠ _
      rw [Statement.outcome]
      cases fit : row.fits with
      | false => exact ⟨iff_of_true rfl (.inl rfl), by rintro ⟨⟩⟩
      | true =>
          -- a row that fits is refused or written, and only what is written leads on to the others
          by_cases refused : (guarded && row.template == refusedTemplate) = true
          · rw [if_neg (by simp), if_pos refused]
            rw [Bool.and_eq_true, beq_iff_eq] at refused
            refine ⟨iff_of_false (by rintro ⟨⟩) ?_, by rintro ⟨⟩⟩
            rintro (small | ⟨free, -⟩)
            · cases small
            · exact absurd refused.2 (free refused.1)
          · rw [if_neg (by simp), if_neg refused]
            have free : guarded = true → row.template ≠ refusedTemplate := by
              simpa using refused
            exact ⟨⟨fun failed => .inr ⟨free, failed⟩,
              fun failed => failed.elim (by rintro ⟨⟩) And.right⟩, never⟩

/-- **The statements of a store fail by what the record holds**, apart from refusals. -/
theorem changes_storingBody_error :
    (t.changes (storingBody path record) = .error .unprintable ↔
        ∃ p ∈ record.problems, p.Lengthy) ∧
      (t.changes (storingBody path record) = .error .integerRange ↔
        (∀ p ∈ record.problems, ¬ p.Lengthy) ∧ Overflows t.guarded 0 record.problems) := by
  have same (fault : StatementFault) : t.changes (storingBody path record) = .error fault ↔
      (writeProblems path record.problems).forM (Statement.outcome t.guarded) = .error fault := by
    have outcome := t.changes_outcome (storingBody path record)
    change _ = Except.map (fun _ => t.guarded)
      ((writeProblems path record.problems).forM (Statement.outcome t.guarded)) at outcome
    revert outcome
    cases t.changes (storingBody path record) <;>
      cases (writeProblems path record.problems).forM (Statement.outcome t.guarded) <;>
      simp +contextual [Except.map]
  have lengthy := @problemRows?_eq_none_iff path 0 record.problems
  rw [same, same, ← lengthy]
  cases written : problemRows? path 0 record.problems with
  | none =>
      obtain ⟨p, member, long⟩ := lengthy.mp written
      rw [writeProblems, written]
      refine ⟨iff_of_true rfl rfl, iff_of_false (by rintro ⟨⟩) fun others => ?_⟩
      exact others.1 p member long
  | some rows =>
      obtain ⟨great, never⟩ := @outcome_rows path 0 rows record.problems t.guarded written
      have short : ∀ p ∈ record.problems, ¬ p.Lengthy := by
        intro p member long
        cases (lengthy.mpr ⟨p, member, long⟩).symm.trans written
      rw [writeProblems, written]
      exact ⟨iff_of_false never (by rintro ⟨⟩),
        great.trans ⟨fun overflows => ⟨short, overflows⟩, And.right⟩⟩

/-! ### Trouble -/

/-- What comes amid trouble is what comes without, or a fault of the cache in its place. -/
inductive Amid {α : Type} (calm : Except Failure α) : Except Failure α → Prop
  | same : Amid calm calm
  | faulty (fault : Fault) : Amid calm (.error (.cache fault))

theorem Amid.bind {α β : Type} {calm amid : Except Failure α} {next next' : α → Except Failure β}
    (first : Amid calm amid) (then_ : ∀ a, calm = .ok a → Amid (next a) (next' a)) :
    Amid (calm.bind next) (amid.bind next') := by
  cases first with
  | faulty fault => exact .faulty fault
  | same =>
      cases ended : calm with
      | error failure => exact .same
      | ok a => exact then_ a ended

/-- Statements end as they do without trouble, or one of them is refused. -/
theorem Trouble.Refuses.perform_amid {trouble : Trouble} (refuses : trouble.Refuses) (s : Session)
    (number : Nat) (statements : List Statement) :
    (∃ reason, (s.perform trouble number statements).2 = some (.refused reason)) ∨
      s.perform trouble number statements = s.perform .calm number statements := by
  induction statements generalizing s number with
  | nil => exact .inr rfl
  | cons statement rest ih =>
      have calm : Trouble.calm.statement number = none := rfl
      rw [Session.perform_cons, Session.perform_cons, calm]
      cases here : trouble.statement number with
      | some fault =>
          obtain ⟨reason, rfl⟩ := refuses number fault here
          exact .inl ⟨reason, rfl⟩
      | none =>
          cases s.execute statement with
          | error fault => exact .inr rfl
          | ok s' => exact ih s' (number + 1)

namespace Database

variable {trouble : Trouble} {db : Path} {operation : Operation} {disk disk' : Disk}

theorem opening_amid (refuses : trouble.Refuses) (operation : Operation) (seen : Sight) :
    Amid (opening .calm db operation seen) (opening trouble db operation seen) := by
  by_cases null : db.hasNull
  · rw [opening, opening, if_pos null, if_pos null]
    exact .same
  · have calm : Trouble.calm.connection = none := rfl
    rw [opening_of_not_null trouble operation seen null, opening_of_not_null .calm operation seen null,
      calm]
    cases trouble.connection with
    | some reason => exact .faulty _
    | none =>
        generalize (if db.text == ":memory:" then .rows Tables.empty else seen) = found
        cases found with
        | closed | unreadable => exact .same
        | rows t =>
            dsimp only [reached]
            rw [Trouble.first?_calm]
            cases first : trouble.first? 0 schema.length with
            | none => exact .same
            | some fault =>
                obtain ⟨reason, rfl⟩ := refuses.first? 0 schema.length first
                exact .faulty _

theorem selecting_amid (refuses : trouble.Refuses) (path : String) (t : Tables) :
    Amid (selecting .calm db path t) (selecting trouble db path t) := by
  rw [selecting, selecting, Trouble.first?_calm]
  cases first : trouble.first? schema.length (t.selections path) with
  | none => exact .same
  | some fault =>
      obtain ⟨reason, rfl⟩ := refuses.first? schema.length _ first
      exact .faulty _

theorem answer_lookup_amid (refuses : trouble.Refuses) (db : Path) (path : String) (disk : Disk) :
    Amid (answer (lookup db path disk)) (answer (lookupAmid trouble db path disk)) := by
  rw [lookup, (lookupAmid_opens .calm db path disk).2, (lookupAmid_opens trouble db path disk).2]
  exact (opening_amid refuses _ _).bind fun t _ => selecting_amid refuses path t

theorem perform_amid (refuses : trouble.Refuses) (db : Path) (operation : Operation)
    (statements : List Statement) (disk : Disk) :
    Amid (answer (perform .calm db operation statements disk))
      (answer (perform trouble db operation statements disk)) := by
  rw [answer_perform_amid, answer_perform_amid]
  refine (opening_amid refuses _ _).bind fun t _ => ?_
  obtain ⟨reason, refused⟩ | same :=
    refuses.perform_amid (Session.opened t) schema.length statements
  · rw [refused]
    exact .faulty _
  · rw [same]
    exact .same

/-! ### Without trouble -/

/-- What a lookup, a store or an emptying has before it: the rows of a database that does not last are
none, and those of any other are what is seen. -/
def beheld (db : Path) (disk : Disk) : Sight :=
  if db.text == ":memory:" then .rows Tables.empty else sight db disk

/-- What comes of an operation without trouble that opens a database and goes on with its rows. -/
inductive Comes {α : Type} (db : Path) (disk : Disk) (next : Tables → Except Failure α) :
    Except Failure α → Prop
  | null (null : db.hasNull = true) : Comes db disk next (.error .nullByte)
  | faulty {fault : Fault} (clean : db.hasNull = false) (closed : ∀ t, beheld db disk ≠ .rows t) :
      Comes db disk next (.error (.cache fault))
  | opened {t : Tables} (clean : db.hasNull = false) (seen : beheld db disk = .rows t) :
      Comes db disk next (next t)

theorem comes {α : Type} (db : Path) (operation : Operation) (disk : Disk)
    (next : Tables → Except Failure α) :
    Comes db disk next ((opening .calm db operation (sight db disk)).bind next) := by
  cases clean : db.hasNull with
  | true =>
      rw [opening, if_pos clean]
      exact .null clean
  | false =>
      have calm : Trouble.calm.connection = none := rfl
      rw [opening_of_not_null .calm operation _ (by simp [clean]), calm]
      dsimp only
      change Comes db disk next ((reached .calm db operation (beheld db disk)).bind next)
      cases seen : beheld db disk with
      | closed | unreadable => exact .faulty clean (by rw [seen]; rintro t ⟨⟩)
      | rows t =>
          rw [reached, Trouble.first?_calm]
          exact .opened clean seen

theorem comes_lookup (db : Path) (path : String) (disk : Disk) :
    Comes db disk (fun t =>
      match t.record? path with
      | .ok record => .ok record
      | .error fault => .error (.row fault)) (answer (lookup db path disk)) := by
  rw [lookup, (lookupAmid_opens .calm db path disk).2]
  have same : selecting .calm db path = fun t =>
      match t.record? path with
      | .ok record => .ok record
      | .error fault => .error (.row fault) := by
    funext t
    cases found : t.record? path <;> simp only [selecting, Trouble.first?_calm, found]
  rw [← same]
  exact comes db _ disk _

theorem comes_store (db : Path) (path : String) (record : FileRecord) (disk : Disk) :
    Comes db disk (fun t =>
      match t.changes (storingBody path record) with
      | .ok _ => .ok ()
      | .error fault => .error (failureOf db (.store path) fault))
      (answer (store db path record disk)) := by
  rw [store, storeAmid, storing_eq, answer_perform db _ disk (plain_storingBody path record)]
  exact comes db _ disk _

theorem comes_clear (db : Path) (disk : Disk) :
    Comes db disk (fun _ => .ok ()) (answer (clear db disk)) := by
  rw [clear, clearAmid, clearing_eq, answer_perform db _ disk plain_clearingBody]
  exact comes db _ disk _

/-- **How the operations on a database fail.**  All that is no fault of the cache is listed with what it
comes from. -/
structure Failing (db : Path) (disk : Disk) : Prop where
  lookup_cases : ∀ {path failure}, answer (lookup db path disk) = .error failure →
    (∃ fault, failure = .cache fault) ∨ (∃ fault, failure = .row fault) ∨ failure = .nullByte
  lookup_row : ∀ {path}, (∃ fault, answer (lookup db path disk) = .error (.row fault)) ↔
    db.hasNull = false ∧ ∃ t, beheld db disk = .rows t ∧ t.Broken path
  lookup_null : ∀ {path}, answer (lookup db path disk) = .error .nullByte ↔ db.hasNull = true
  store_cases : ∀ {path record failure}, answer (store db path record disk) = .error failure →
    (∃ fault, failure = .cache fault) ∨ failure = .unprintable ∨ failure = .integerRange ∨
      failure = .nullByte
  store_unprintable : ∀ {path record}, answer (store db path record disk) = .error .unprintable ↔
    db.hasNull = false ∧ (∃ t, beheld db disk = .rows t) ∧ ∃ p ∈ record.problems, p.Lengthy
  store_integerRange : ∀ {path record}, answer (store db path record disk) = .error .integerRange ↔
    db.hasNull = false ∧ ∃ t, beheld db disk = .rows t ∧ (∀ p ∈ record.problems, ¬ p.Lengthy) ∧
      Overflows t.guarded 0 record.problems
  store_null : ∀ {path record}, answer (store db path record disk) = .error .nullByte ↔
    db.hasNull = true
  clear_cases : ∀ {failure}, answer (clear db disk) = .error failure →
    (∃ fault, failure = .cache fault) ∨ failure = .nullByte
  clear_null : answer (clear db disk) = .error .nullByte ↔ db.hasNull = true
  lookup_amid : ∀ {trouble : Trouble} {path}, trouble.Refuses →
    Amid (answer (lookup db path disk)) (answer (lookupAmid trouble db path disk))
  store_amid : ∀ {trouble : Trouble} {path record}, trouble.Refuses →
    Amid (answer (store db path record disk)) (answer (storeAmid trouble db path record disk))
  clear_amid : ∀ {trouble : Trouble}, trouble.Refuses →
    Amid (answer (clear db disk)) (answer (clearAmid trouble db disk))

theorem lookup_fails (db : Path) (path : String) (disk : Disk) :
    (∀ failure, answer (lookup db path disk) = .error failure →
      (∃ fault, failure = .cache fault) ∨ (∃ fault, failure = .row fault) ∨ failure = .nullByte) ∧
    ((∃ fault, answer (lookup db path disk) = .error (.row fault)) ↔
      db.hasNull = false ∧ ∃ t, beheld db disk = .rows t ∧ t.Broken path) ∧
    (answer (lookup db path disk) = .error .nullByte ↔ db.hasNull = true) := by
  have coming := comes_lookup db path disk
  generalize answer (lookup db path disk) = result at coming
  cases coming with
  | null null => simp [null]
  | faulty clean closed => simp [clean, closed]
  | @opened t clean seen =>
      simp only [seen, clean, Sight.rows.injEq, exists_eq_left', true_and, ← record?_error_iff]
      cases t.record? path <;> simp

theorem store_fails (db : Path) (path : String) (record : FileRecord) (disk : Disk) :
    (∀ failure, answer (store db path record disk) = .error failure →
      (∃ fault, failure = .cache fault) ∨ failure = .unprintable ∨ failure = .integerRange ∨
        failure = .nullByte) ∧
    (answer (store db path record disk) = .error .unprintable ↔
      db.hasNull = false ∧ (∃ t, beheld db disk = .rows t) ∧ ∃ p ∈ record.problems, p.Lengthy) ∧
    (answer (store db path record disk) = .error .integerRange ↔
      db.hasNull = false ∧ ∃ t, beheld db disk = .rows t ∧ (∀ p ∈ record.problems, ¬ p.Lengthy) ∧
        Overflows t.guarded 0 record.problems) ∧
    (answer (store db path record disk) = .error .nullByte ↔ db.hasNull = true) := by
  have coming := comes_store db path record disk
  generalize answer (store db path record disk) = result at coming
  cases coming with
  | null null => simp [null]
  | faulty clean closed => simp [clean, closed]
  | @opened t clean seen =>
      obtain ⟨lengthy, great⟩ := @changes_storingBody_error path t record
      simp only [seen, clean, Sight.rows.injEq, exists_eq', exists_eq_left', true_and, ← great, ← lengthy]
      cases changed : t.changes (storingBody path record) with
      | ok t' => simp
      | error fault => cases fault <;> simp [failureOf, failure]

/-- Whatever a database holds and is given, its operations fail as listed. -/
theorem failing (db : Path) (disk : Disk) : Failing db disk where
  lookup_cases := (lookup_fails db _ disk).1 _
  lookup_row := (lookup_fails db _ disk).2.1
  lookup_null := (lookup_fails db _ disk).2.2
  store_cases := (store_fails db _ _ disk).1 _
  store_unprintable := (store_fails db _ _ disk).2.1
  store_integerRange := (store_fails db _ _ disk).2.2.1
  store_null := (store_fails db _ _ disk).2.2.2
  clear_cases := by
    intro failure failed
    have coming := comes_clear db disk
    rw [failed] at coming
    cases coming with
    | null => exact .inr rfl
    | faulty => exact .inl ⟨_, rfl⟩
  clear_null := by
    have coming := comes_clear db disk
    generalize answer (clear db disk) = result at coming
    cases coming with
    | null null => simp [null]
    | faulty clean closed => simp [clean]
    | opened clean seen => simp [clean]
  lookup_amid refuses := answer_lookup_amid refuses db _ disk
  store_amid {_ path record} refuses := perform_amid refuses db (.store path) (storing path record) disk
  clear_amid refuses := perform_amid refuses db .clear clearing disk

end Database

end Cache

end Docwright
