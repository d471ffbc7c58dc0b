import Docwright.Cache.Row
import Docwright.Proofs.Acts
import Docwright.Proofs.Cache.Transaction
import Mathlib.Logic.Function.Basic

/-!
# Clients of one database

Any number of clients share the tables of one database.  Each of them asks for one
operation after another and carries it out statement by statement, with whatever the
others do in between; the statements are those of the operations themselves, and
`Session.execute` says what each of them does.

* Outside of a transaction a statement counts at once.  Within one it changes the draft
  of its client, and `commit` makes the draft the tables of all.
* Rows are changed by one client at a time: the first change takes the lock, and the end
  of the transaction gives it back.  A transaction that has changed nothing yet works on
  the tables as they are by then.
* Any statement may fail, whatever the reason; then the client gives up its operation
  and its draft with it.

A lookup selects twice, first the row of the file and then the rows of its problems, and
is in no transaction.  The history of the system notes its first selection and what it
finds in the end, and every transaction that is committed.

`Inv` is what every move keeps true: the tables are those that the committed
transactions have written one after another, a draft is what the statements of its
client so far make of them, and a lookup has found what was written by the time of each
of its selections (`Spliced`).
-/

namespace Docwright.Cache

/-! ### Operations -/

/-- A change of a database as a whole. -/
inductive Change
  | store (path : String) (record : FileRecord)
  | clear
  deriving DecidableEq, Repr

namespace Change

/-- The statements of a change. -/
def statements : Change → List Statement
  | store path record => storing path record
  | clear => clearing

/-- The statements of a change within its transaction. -/
def body : Change → List Statement
  | store path record => storingBody path record
  | clear => clearingBody

theorem statements_eq (c : Change) : c.statements = .begin :: (c.body ++ [.commit]) := by
  cases c <;> rfl

theorem body_ne_nil (c : Change) : c.body ≠ [] := by
  cases c <;> exact nofun

end Change

/-- What a client asks for. -/
inductive Request
  | lookup (path : String)
  | change (c : Change)
  deriving DecidableEq, Repr

/-- The statements that come before the selections of a lookup, or make up a change. -/
def Request.statements : Request → List Statement
  | lookup _ => schema
  | change c => schema ++ c.statements

/-- Whether a statement changes rows, for which it needs the lock. -/
def Statement.locks : Statement → Bool
  | .deleteProblemsOf _ | .deleteProblems | .deleteFiles | .replaceFile _ | .insertProblem _
  | .unwritable => true
  | .createFiles | .createProblems | .createIndex | .begin | .commit => false

/-! ### The system -/

/-- What a client is at: nothing, statements that are still to be carried out, or the second selection of
a lookup, with the row that the first one gave. -/
inductive Client
  | idle
  | working (request : Request) (draft : Option Tables) (todo : List Statement)
  | reading (path : String) (row : FileRow)
  deriving DecidableEq, Repr

/-- What is noted of a client: that a transaction was committed, that a lookup made its first selection, and
what it found. -/
inductive Entry (ι : Type)
  | changed (client : ι) (c : Change)
  | selected (client : ι) (path : String)
  | answered (client : ι) (path : String) (found : Except RowFault (Option FileRecord))
  deriving DecidableEq

/-- A database and its clients: the tables as everyone sees them, the client that holds the lock, what each
client is at, and what has happened. -/
structure System (ι : Type) where
  tables : Tables
  writer : Option ι
  clients : ι → Client
  history : List (Entry ι)

/-- What happens next: a client asks for something, goes on with it, or gives it up. -/
inductive Move (ι : Type)
  | ask (client : ι) (request : Request)
  | go (client : ι)
  | fail (client : ι)

variable {ι : Type}

/-- The client that something is noted of. -/
def Entry.client : Entry ι → ι
  | changed i _ | selected i _ | answered i _ _ => i

/-- What is noted when a statement was carried out. -/
def Request.noted (i : ι) : Request → Statement → List (Entry ι)
  | .change c, .commit => [.changed i c]
  | _, _ => []

/-- The changes in a history. -/
def changesOf (history : List (Entry ι)) : List Change :=
  history.filterMap fun
    | .changed _ c => some c
    | .selected .. | .answered .. => none

namespace System

variable [DecidableEq ι]

/-- An empty database with clients that have not asked for anything. -/
def start : System ι := ⟨Tables.empty, none, fun _ => .idle, []⟩

/-- The holder of the lock when a client does not need it any longer. -/
def release (s : System ι) (i : ι) : Option ι :=
  if s.writer = some i then none else s.writer

/-- A client that is done with its operation, or gives it up. -/
def rest (s : System ι) (i : ι) (entries : List (Entry ι)) : System ι :=
  { s with
    writer := s.release i
    clients := Function.update s.clients i .idle
    history := s.history ++ entries }

/-- A client that is at something else. -/
def put (s : System ι) (i : ι) (client : Client) (entries : List (Entry ι)) : System ι :=
  { s with
    clients := Function.update s.clients i client
    history := s.history ++ entries }

/-- The session in which a client carries out its next statement. -/
def session (s : System ι) (i : ι) (draft : Option Tables) : Session :=
  ⟨s.tables, if s.writer = some i then draft else draft.map fun _ => s.tables⟩

/-- Whether a client may carry out a statement, as far as the lock goes. -/
def admits (s : System ι) (i : ι) (statement : Statement) : Bool :=
  !statement.locks || s.writer.isNone || s.writer == some i

/-- The system after a statement of a client. -/
def executed (s : System ι) (i : ι) (request : Request) (statement : Statement)
    (todo : List Statement) (session : Session) : System ι where
  tables := session.tables
  writer :=
    if session.draft.isNone then s.release i
    else if statement.locks then some i
    else s.writer
  clients := Function.update s.clients i (.working request session.draft todo)
  history := s.history ++ request.noted i statement

/-- The system after a client went on with what it is at, if it can go on. -/
def go (s : System ι) (i : ι) : Option (System ι) :=
  match s.clients i with
  | .idle => none
  | .working request draft (statement :: todo) =>
    if s.admits i statement then
      match (s.session i draft).execute statement with
      | .ok session => some (s.executed i request statement todo session)
      | .error _ => none
    else none
  | .working (.change _) _ [] => some (s.rest i [])
  | .working (.lookup path) _ [] =>
    match s.tables.file? path with
    | none => some (s.rest i [.selected i path, .answered i path (.ok none)])
    | some row => some (s.put i (.reading path row) [.selected i path])
  | .reading path row =>
    some (s.rest i [.answered i path ((recordOf path row (s.tables.problemsOf path)).map some)])

/-- The system after a move, if the move can be made. -/
def move (s : System ι) : Move ι → Option (System ι)
  | .ask i request =>
    match s.clients i with
    | .idle => some (s.put i (.working request none request.statements) [])
    | .working .. | .reading .. => none
  | .go i => s.go i
  | .fail i => some (s.rest i [])

/-- The system after moves one after another. -/
def play (s : System ι) (moves : List (Move ι)) : Option (System ι) :=
  moves.foldlM move s

end System

/-! ### What a client knows -/

/-- The tables that changes have written one after another. -/
inductive Written : List Change → Tables → Prop
  | nil : Written [] Tables.empty
  | concat {cs : List Change} {t t' : Tables} {c : Change} (written : Written cs t)
      (changed : t.changes c.body = .ok t') : Written (cs ++ [c]) t'

/-- How far a change has come: to its tables, to its transaction, to some of its statements, or to its end.
Only in between does its client hold the lock. -/
inductive Underway (t : Tables) (holds : Prop) (c : Change) : Option Tables → List Statement → Prop
  | opening {todo : List Statement} (free : ¬ holds) (making : ∀ statement ∈ todo, statement ∈ schema) :
      Underway t holds c none (todo ++ c.statements)
  | begun {draft : Tables} (free : ¬ holds) : Underway t holds c (some draft) (c.body ++ [.commit])
  | changing {done todo : List Statement} {draft : Tables} (held : holds)
      (split : c.body = done ++ todo) (changed : t.changes done = .ok draft) :
      Underway t holds c (some draft) (todo ++ [.commit])
  | ended (free : ¬ holds) : Underway t holds c none []

/-- A client has made its first selection, when the tables were what the changes so far had written, and
found a row or none.  It has done nothing since. -/
def Seen (history : List (Entry ι)) (i : ι) (path : String) (row : Option FileRow) : Prop :=
  ∃ before between t, history = before ++ .selected i path :: between ∧ (∀ e ∈ between, e.client ≠ i) ∧
    Written (changesOf before) t ∧ t.file? path = row

/-- What is found with a row that was selected before, or with none. -/
def Tables.foundWith (t : Tables) (path : String) : Option FileRow → Except RowFault (Option FileRecord)
  | none => .ok none
  | some row => (recordOf path row (t.problemsOf path)).map some

/-- A lookup found the row that its client had seen, and with it the problems as they are. -/
def Spliced (history : List (Entry ι)) (i : ι) (path : String)
    (found : Except RowFault (Option FileRecord)) : Prop :=
  ∃ row t, Seen history i path row ∧ Written (changesOf history) t ∧ found = t.foundWith path row

/-- What is true of a client, by the tables, by whether it holds the lock, and by what has happened. -/
def Sound (t : Tables) (holds : Prop) (history : List (Entry ι)) (P : Change → Prop) (i : ι) : Client → Prop
  | .idle => ¬ holds
  | .working (.lookup _) draft todo =>
    ¬ holds ∧ draft = none ∧ ∀ statement ∈ todo, statement ∈ schema
  | .working (.change c) draft todo => P c ∧ Underway t holds c draft todo
  | .reading path row => ¬ holds ∧ Seen history i path (some row)

/-- Every lookup of a history was spliced from what was written before. -/
def Answers (history : List (Entry ι)) : Prop :=
  ∀ before i path found after, history = before ++ Entry.answered i path found :: after →
    Spliced before i path found

/-- What every move keeps true, if every change that is asked for has a property. -/
structure System.Inv (P : Change → Prop) (s : System ι) : Prop where
  written : Written (changesOf s.history) s.tables
  asked : ∀ c ∈ changesOf s.history, P c
  clients : ∀ i, Sound s.tables (s.writer = some i) s.history P i (s.clients i)
  answers : Answers s.history

/-! ### Statements -/

variable {t t' : Tables} {holds holds' : Prop} {P : Change → Prop} {history more : List (Entry ι)}
  {i : ι} {statement : Statement}

theorem changesOf_append (history more : List (Entry ι)) :
    changesOf (history ++ more) = changesOf history ++ changesOf more :=
  List.filterMap_append

/-- A table is made outside of a transaction, and changes no rows. -/
theorem execute_schema (making : statement ∈ schema) :
    (Session.mk t none).execute statement = .ok ⟨t, none⟩ ∧ statement.locks = false ∧
      statement ≠ .commit := by
  simp only [schema, List.mem_cons, List.not_mem_nil, or_false] at making
  rcases making with rfl | rfl | rfl
  · exact ⟨rfl, rfl, by rintro ⟨⟩⟩
  · exact ⟨rfl, rfl, by rintro ⟨⟩⟩
  · exact ⟨rfl, rfl, by rintro ⟨⟩⟩

theorem locks_writeProblems (path : String) (problems : List Problem) :
    ∀ statement ∈ writeProblems path problems, statement.locks = true := by
  unfold writeProblems
  cases problemRows? path 0 problems with
  | none => simp [Statement.locks]
  | some rows => simp [Statement.locks]

theorem Change.locks_body (c : Change) : ∀ statement ∈ c.body, statement.locks = true := by
  cases c with
  | clear => decide
  | store path record =>
      intro statement member
      rcases List.mem_cons.mp member with rfl | member
      · rfl
      · rcases List.mem_cons.mp member with rfl | member
        · rfl
        · exact locks_writeProblems path record.problems statement member

/-- What needs the lock neither begins nor ends a transaction. -/
theorem Statement.plain_of_locks (locks : statement.locks = true) : statement.plain = true := by
  cases statement <;> first | rfl | cases locks

theorem Tables.changes_concat {done : List Statement} {draft draft' : Tables}
    (changed : t.changes done = .ok draft) (next : draft.change statement = .ok draft') :
    t.changes (done ++ [statement]) = .ok draft' := by
  rw [Tables.changes, List.foldlM_append, ← Tables.changes, changed]
  show (draft.change statement).bind _ = _
  rw [next]
  rfl

/-! ### What others do -/

theorem Seen.later {path : String} {row : Option FileRow} (seen : Seen history i path row)
    (foreign : ∀ e ∈ more, e.client ≠ i) : Seen (history ++ more) i path row := by
  obtain ⟨before, between, t, rfl, others, written, held⟩ := seen
  refine ⟨before, between ++ more, t, List.append_assoc _ _ _, fun e member => ?_, written, held⟩
  exact (List.mem_append.mp member).elim (others e) (foreign e)

theorem Underway.other {c : Change} {draft : Option Tables} {todo : List Statement}
    (underway : Underway t holds c draft todo) (same : holds' ↔ holds) (kept : holds → t' = t) :
    Underway t' holds' c draft todo := by
  cases underway with
  | opening free making => exact .opening (free ∘ same.mp) making
  | begun free => exact .begun (free ∘ same.mp)
  | changing held split changed => exact .changing (same.mpr held) split (kept held ▸ changed)
  | ended free => exact .ended (free ∘ same.mp)

/-- What others do leaves true what is true of a client, if they leave the lock alone, and the tables while
it is held. -/
theorem Sound.other {client : Client} (sound : Sound t holds history P i client) (same : holds' ↔ holds)
    (kept : holds → t' = t) (foreign : ∀ e ∈ more, e.client ≠ i) :
    Sound t' holds' (history ++ more) P i client := by
  match client with
  | .idle => exact sound ∘ same.mp
  | .reading path row => exact ⟨sound.1 ∘ same.mp, sound.2.later foreign⟩
  | .working (.lookup path) draft todo => exact ⟨sound.1 ∘ same.mp, sound.2⟩
  | .working (.change c) draft todo => exact ⟨sound.1, sound.2.other same kept⟩

/-- What is noted of a lookup has to be true then. -/
theorem Answers.append (answers : Answers history)
    (spliced : ∀ before i path found after, more = before ++ Entry.answered i path found :: after →
      Spliced (history ++ before) i path found) : Answers (history ++ more) := by
  intro before i path found after split
  rcases List.append_eq_append_iff.mp split with ⟨middle, rfl, new⟩ | ⟨middle, old, new⟩
  · exact spliced middle i path found after new
  · cases middle with
    | nil =>
        have whole := spliced [] i path found after new.symm
        rw [List.append_nil] at whole old
        exact old ▸ whole
    | cons first rest =>
        obtain ⟨rfl, -⟩ := List.cons.inj new
        exact answers before i path found rest old

/-- Where no answer is noted, none has to be true. -/
theorem unanswered (silent : ∀ i path found, Entry.answered i path found ∉ more) :
    ∀ before i path found after, more = before ++ Entry.answered i path found :: after →
      Spliced (history ++ before) i path found := by
  intro before i path found after split
  exact absurd (split ▸ List.mem_append_right before List.mem_cons_self) (silent i path found)

namespace System

variable [DecidableEq ι] {s s' : System ι} {client : Client} {request : Request}

/-- **The rule for moves.**  A move of one client keeps the invariant, if it leaves true what is true of
that client, and leaves the lock of others alone. -/
theorem Inv.step (inv : s.Inv P) (clients : s'.clients = Function.update s.clients i client)
    (history : s'.history = s.history ++ more) (mine : ∀ e ∈ more, e.client = i)
    (others : ∀ j, j ≠ i → (s'.writer = some j ↔ s.writer = some j) ∧
      (s.writer = some j → s'.tables = s.tables))
    (written : Written (changesOf s'.history) s'.tables) (asked : ∀ c ∈ changesOf more, P c)
    (own : Sound s'.tables (s'.writer = some i) s'.history P i client)
    (spliced : ∀ before j path found after, more = before ++ Entry.answered j path found :: after →
      Spliced (s.history ++ before) j path found) : s'.Inv P where
  written := written
  asked := by
    intro c member
    rw [history, changesOf_append] at member
    exact (List.mem_append.mp member).elim (inv.asked c) (asked c)
  clients := by
    intro j
    rw [clients, Function.update_apply]
    -- of the client that moves it is given; to any other one only foreign entries were added
    by_cases same : j = i
    · rw [if_pos same, same]
      exact own
    · rw [if_neg same, history]
      obtain ⟨lock, kept⟩ := others j same
      exact (inv.clients j).other lock kept fun e member => mine e member ▸ Ne.symm same
  answers := by
    rw [history]
    exact inv.answers.append spliced

/-- A client that goes on, and neither commits a change nor answers. -/
theorem Inv.put (inv : s.Inv P) (mine : ∀ e ∈ more, e.client = i) (unchanged : changesOf more = [])
    (own : Sound s.tables (s.writer = some i) (s.history ++ more) P i client)
    (silent : ∀ j path found, Entry.answered j path found ∉ more) : (s.put i client more).Inv P := by
  have history : (s.put i client more).history = s.history ++ more := rfl
  refine inv.step rfl history mine (fun _ _ => ⟨.rfl, fun _ => rfl⟩) ?_ ?_ own (unanswered silent)
  · rw [history, changesOf_append, unchanged, List.append_nil]
    exact inv.written
  · rw [unchanged]
    nofun

/-- A client that goes on without anything to note. -/
theorem Inv.put_nil (inv : s.Inv P) (own : Sound s.tables (s.writer = some i) s.history P i client) :
    (s.put i client []).Inv P :=
  inv.put nofun rfl ((List.append_nil s.history).symm ▸ own) nofun

/-- A client that is done, or gives up. -/
theorem Inv.rest (inv : s.Inv P) (mine : ∀ e ∈ more, e.client = i) (unchanged : changesOf more = [])
    (spliced : ∀ before j path found after, more = before ++ Entry.answered j path found :: after →
      Spliced (s.history ++ before) j path found) : (s.rest i more).Inv P := by
  have history : (s.rest i more).history = s.history ++ more := rfl
  refine inv.step rfl history mine ?_ ?_ ?_ ?_ spliced
  · intro j other
    refine ⟨?_, fun _ => rfl⟩
    show s.release i = some j ↔ _
    rw [release]
    split
    · next held =>
        rw [held]
        exact ⟨nofun, fun same => absurd (Option.some.inj same).symm other⟩
    · exact .rfl
  · rw [history, changesOf_append, unchanged, List.append_nil]
    exact inv.written
  · rw [unchanged]
    nofun
  · show ¬ s.release i = some i
    rw [release]
    split
    · exact nofun
    · next free => exact free

/-- A client that answers what it has seen. -/
theorem Inv.answer {path : String} {row : Option FileRow} (inv : s.Inv P)
    (mine : ∀ e ∈ more, e.client = i) (unchanged : changesOf more = [])
    (silent : ∀ j path found, Entry.answered j path found ∉ more)
    (seen : Seen (s.history ++ more) i path row) :
    (s.rest i (more ++ [.answered i path (s.tables.foundWith path row)])).Inv P := by
  refine inv.rest ?_ ?_ ?_
  · intro e member
    rcases List.mem_append.mp member with old | new
    · exact mine e old
    · rw [List.mem_singleton.mp new]
      rfl
  · rw [changesOf_append, unchanged]
    rfl
  · intro before j path' found' after split
    rcases List.eq_nil_or_concat after with rfl | ⟨after, last, rfl⟩
    · obtain ⟨rfl, same⟩ := List.append_inj' split rfl
      cases same
      refine ⟨row, s.tables, seen, ?_, rfl⟩
      rw [changesOf_append, unchanged, List.append_nil]
      exact inv.written
    · rw [List.concat_eq_append, ← List.cons_append, ← List.append_assoc] at split
      obtain ⟨rfl, -⟩ := List.append_inj' split rfl
      exact absurd (List.mem_append_right before List.mem_cons_self) (silent j path' found')

/-! ### A statement -/

variable {draft : Option Tables} {todo : List Statement} {session : Session}

/-- A client that does not hold the lock works on the tables as they are. -/
theorem session_free (free : ¬ s.writer = some i) (draft : Option Tables) :
    s.session i draft = ⟨s.tables, draft.map fun _ => s.tables⟩ := by
  rw [System.session, if_neg free]

/-- A statement that changes nothing moves its client on. -/
theorem executed_put (free : ¬ s.writer = some i) (draft : Option Tables) (locks : statement.locks = false)
    (last : statement ≠ .commit) :
    s.executed i request statement todo ⟨s.tables, draft⟩ = s.put i (.working request draft todo) [] := by
  have noted : request.noted i statement = [] := by
    cases request with
    | lookup path => rfl
    | change c => cases statement <;> first | rfl | exact absurd rfl last
  have writer : (if draft.isNone then s.release i else if statement.locks then some i else s.writer) =
      s.writer := by
    rw [locks, release, if_neg free]
    split <;> rfl
  unfold executed put
  rw [noted, writer]

/-- Making a table. -/
theorem Inv.makes (inv : s.Inv P) (making : statement ∈ schema) (free : ¬ s.writer = some i)
    (run : (s.session i none).execute statement = .ok session)
    (own : Sound s.tables (s.writer = some i) s.history P i (.working request none todo)) :
    (s.executed i request statement todo session).Inv P := by
  obtain ⟨nothing, locks, last⟩ := execute_schema (t := s.tables) making
  rw [session_free free, Option.map_none, nothing] at run
  obtain rfl := Except.ok.inj run
  rw [executed_put free none locks last]
  exact inv.put_nil own

/-- A change of rows: the first one takes the lock. -/
theorem Inv.changes {c : Change} {done : List Statement} {before after : Tables} (inv : s.Inv P)
    (asked : P c) (lock : s.writer = none ∨ s.writer = some i) (split : c.body = done ++ statement :: todo)
    (changed : s.tables.changes done = .ok before) (next : before.change statement = .ok after) :
    (s.executed i (.change c) statement (todo ++ [.commit]) ⟨s.tables, some after⟩).Inv P := by
  have locks : statement.locks = true :=
    c.locks_body statement (split ▸ List.mem_append_right done List.mem_cons_self)
  have noted : (Request.change c).noted i statement = [] := by
    cases statement <;> first | rfl | cases locks
  have history : (s.executed i (.change c) statement (todo ++ [.commit])
      ⟨s.tables, some after⟩).history = s.history ++ [] := by
    rw [executed, noted]
  have writer : (s.executed i (.change c) statement (todo ++ [.commit])
      ⟨s.tables, some after⟩).writer = some i := by
    rw [executed, locks]
    rfl
  refine inv.step rfl history nofun ?_ ?_ nofun ?_ (unanswered nofun)
  · intro j other
    refine ⟨?_, fun _ => rfl⟩
    rw [writer]
    rcases lock with free | held
    · rw [free]
      exact ⟨fun same => absurd (Option.some.inj same).symm other, nofun⟩
    · rw [held]
  · rw [history, List.append_nil]
    exact inv.written
  · have further : c.body = (done ++ [statement]) ++ todo := by
      rw [split, List.append_assoc, List.singleton_append]
    exact ⟨asked, .changing writer further (Tables.changes_concat changed next)⟩

/-- A change is committed. -/
theorem Inv.commits {c : Change} {draft : Tables} (inv : s.Inv P) (asked : P c) (held : s.writer = some i)
    (changed : s.tables.changes c.body = .ok draft) :
    (s.executed i (.change c) .commit [] ⟨draft, none⟩).Inv P := by
  have history : (s.executed i (.change c) .commit [] ⟨draft, none⟩).history =
      s.history ++ [.changed i c] := rfl
  have writer : (s.executed i (.change c) .commit [] ⟨draft, none⟩).writer = none := by
    show s.release i = none
    rw [release, if_pos held]
  refine inv.step rfl history ?_ ?_ ?_ ?_ ?_ (unanswered (by simp))
  · intro e member
    rw [List.mem_singleton.mp member]
    rfl
  · intro j other
    rw [writer, held]
    have foreign : ¬ some i = some j := fun same => other (Option.some.inj same).symm
    exact ⟨⟨nofun, fun same => absurd same foreign⟩, fun same => absurd same foreign⟩
  · rw [history, changesOf_append]
    exact .concat inv.written changed
  · intro d member
    rw [List.mem_singleton.mp member]
    exact asked
  · exact ⟨asked, .ended (by rw [writer]; exact nofun)⟩

/-- A transaction begins with the tables as its draft. -/
theorem Inv.begins {c : Change} (inv : s.Inv P) (asked : P c) (free : s.writer ≠ some i) :
    (s.executed i (.change c) .begin (c.body ++ [.commit]) ⟨s.tables, some s.tables⟩).Inv P := by
  have begun : s.executed i (.change c) .begin (c.body ++ [.commit]) ⟨s.tables, some s.tables⟩ =
      s.put i (.working (.change c) (some s.tables) (c.body ++ [.commit])) [] :=
    executed_put free _ rfl (by decide)
  rw [begun]
  exact inv.put_nil ⟨asked, .begun free⟩

theorem lock_of_admits (admitted : s.admits i statement = true) (locks : statement.locks = true) :
    s.writer = none ∨ s.writer = some i := by
  rw [admits, locks] at admitted
  simpa using admitted

/-- A statement within a transaction changes the draft. -/
theorem changed_of_execute {t d : Tables} (locks : statement.locks = true)
    (run : (Session.mk t (some d)).execute statement = .ok session) :
    ∃ d', d.change statement = .ok d' ∧ session = ⟨t, some d'⟩ := by
  rw [Session.execute_draft (Statement.plain_of_locks locks)] at run
  cases changed : d.change statement with
  | error fault =>
      rw [changed] at run
      cases run
  | ok d' =>
      rw [changed] at run
      exact ⟨d', rfl, (Except.ok.inj run).symm⟩

/-- **A statement keeps the invariant.** -/
theorem Inv.executes (inv : s.Inv P) (here : s.clients i = .working request draft (statement :: todo))
    (admitted : s.admits i statement = true)
    (run : (s.session i draft).execute statement = .ok session) :
    (s.executed i request statement todo session).Inv P := by
  have sound := inv.clients i
  rw [here] at sound
  match request, sound with
  | .lookup path, ⟨free, none_, making⟩ =>
      subst none_
      exact inv.makes (making statement List.mem_cons_self) free run
        ⟨free, rfl, fun other member => making other (List.mem_cons_of_mem _ member)⟩
  | .change c, ⟨asked, underway⟩ =>
      generalize left : statement :: todo = whole at underway
      cases underway with
      | @opening before free making =>
          cases before with
          | nil =>
              -- the tables are made, so this is the begin of the transaction
              rw [List.nil_append, c.statements_eq] at left
              obtain ⟨rfl, rfl⟩ := List.cons.inj left
              rw [session_free free] at run
              obtain rfl := Except.ok.inj run
              exact inv.begins asked free
          | cons first before =>
              obtain ⟨rfl, rfl⟩ := List.cons.inj left
              exact inv.makes (making statement List.mem_cons_self) free run
                ⟨asked, .opening free fun other member => making other (List.mem_cons_of_mem _ member)⟩
      | @begun draft free =>
          -- the draft may be out of date; the first change works on the tables and takes the lock
          obtain ⟨first, body, split⟩ := List.exists_cons_of_ne_nil c.body_ne_nil
          rw [split] at left
          obtain ⟨rfl, rfl⟩ := List.cons.inj left
          have locks : statement.locks = true :=
            c.locks_body statement (split ▸ List.mem_cons_self)
          rw [session_free free] at run
          obtain ⟨draft', next, rfl⟩ := changed_of_execute locks run
          exact inv.changes asked (lock_of_admits admitted locks) (split.trans (List.nil_append _).symm)
            rfl next
      | @changing done body draft held split changed =>
          have session_ : s.session i (some draft) = ⟨s.tables, some draft⟩ := by
            rw [System.session, if_pos held]
          rw [session_] at run
          cases body with
          | nil =>
              -- only the commit is left, and the draft is what the whole body makes of the tables
              obtain ⟨rfl, rfl⟩ := List.cons.inj left
              obtain rfl := Except.ok.inj run
              rw [List.append_nil] at split
              exact inv.commits asked held (split ▸ changed)
          | cons first body =>
              obtain ⟨rfl, rfl⟩ := List.cons.inj left
              have locks : statement.locks = true :=
                c.locks_body statement (split ▸ List.mem_append_right done List.mem_cons_self)
              obtain ⟨draft', next, rfl⟩ := changed_of_execute locks run
              exact inv.changes asked (.inr held) split changed next
      | ended free => cases left

/-! ### Moves -/

theorem play_cons (move : Move ι) (rest : List (Move ι)) :
    s.play (move :: rest) = (s.move move).bind fun s => s.play rest :=
  List.foldlM_cons

theorem play_append (first second : List (Move ι)) :
    s.play (first ++ second) = (s.play first).bind fun s => s.play second :=
  List.foldlM_append

theorem Inv.go (inv : s.Inv P) (went : s.go i = some s') : s'.Inv P := by
  have sound := inv.clients i
  unfold System.go at went
  match here : s.clients i with
  | .idle =>
      rw [here] at went
      cases went
  | .working request draft (statement :: todo) =>
      rw [here] at went
      dsimp only at went
      split at went
      · next admitted =>
          split at went
          · next session run =>
              obtain rfl := Option.some.inj went
              exact inv.executes here admitted run
          · cases went
      · cases went
  | .working (.change c) draft [] =>
      rw [here] at went
      obtain rfl := Option.some.inj went
      exact inv.rest nofun rfl (unanswered nofun)
  | .working (.lookup path) draft [] =>
      rw [here] at went sound
      dsimp only at went
      have mine : ∀ e ∈ [Entry.selected i path], e.client = i := by simp [Entry.client]
      have seen : Seen (s.history ++ [.selected i path]) i path (s.tables.file? path) :=
        ⟨s.history, [], s.tables, rfl, nofun, inv.written, rfl⟩
      cases row : s.tables.file? path with
      | none =>
          rw [row] at went seen
          obtain rfl := Option.some.inj went
          exact inv.answer mine rfl (by simp) seen
      | some row' =>
          rw [row] at went seen
          obtain rfl := Option.some.inj went
          exact inv.put mine rfl ⟨sound.1, seen⟩ (by simp)
  | .reading path row =>
      rw [here] at went sound
      obtain rfl := Option.some.inj went
      have seen : Seen (s.history ++ []) i path (some row) := by
        rw [List.append_nil]
        exact sound.2
      exact inv.answer (by simp) rfl (by simp) seen

/-- **A move keeps the invariant.** -/
theorem Inv.move (inv : s.Inv P) {move : Move ι} (asked : ∀ i c, move = .ask i (.change c) → P c)
    (moved : s.move move = some s') : s'.Inv P := by
  cases move with
  | ask i request =>
      have sound := inv.clients i
      unfold System.move at moved
      dsimp only at moved
      split at moved
      · next here =>
          rw [here] at sound
          obtain rfl := Option.some.inj moved
          refine inv.put_nil ?_
          cases request with
          | lookup path => exact ⟨sound, rfl, fun _ member => member⟩
          | change c => exact ⟨asked i c rfl, .opening sound fun _ member => member⟩
      · cases moved
      · cases moved
  | go i => exact inv.go moved
  | fail i =>
      obtain rfl := Option.some.inj moved
      exact inv.rest nofun rfl (unanswered nofun)

omit [DecidableEq ι] in
theorem inv_start : (start : System ι).Inv P where
  written := .nil
  asked := nofun
  clients _ := nofun
  answers := by
    intro before i path found after split
    simp [start] at split

/-- **Moves keep the invariant.** -/
theorem Inv.play (inv : s.Inv P) {moves : List (Move ι)}
    (asked : ∀ i c, Move.ask i (.change c) ∈ moves → P c) (played : s.play moves = some s') : s'.Inv P := by
  induction moves generalizing s with
  | nil =>
      obtain rfl := Option.some.inj played
      exact inv
  | cons move rest ih =>
      rw [play_cons, Option.bind_eq_some_iff] at played
      obtain ⟨next, moved, played⟩ := played
      exact ih (inv.move (fun i c same => asked i c (same ▸ List.mem_cons_self)) moved)
        (fun i c member => asked i c (List.mem_cons_of_mem _ member)) played

/-! ### Clients that are left alone -/

/-- Nobody is in the way of a client: it holds the lock, or it has changed nothing and nobody holds it. -/
def Alone (s : System ι) (i : ι) (draft : Option Tables) : Prop :=
  s.writer = some i ∨ s.writer = none ∧ ∀ d, draft = some d → d = s.tables

theorem Alone.sees {draft : Option Tables} (alone : s.Alone i draft) :
    s.session i draft = ⟨s.tables, draft⟩ := by
  rcases alone with held | ⟨free, same⟩
  · rw [System.session, if_pos held]
  · rw [session_free (free ▸ nofun)]
    cases draft with
    | none => rfl
    | some d => rw [same d rfl, Option.map_some]

theorem Alone.admits {draft : Option Tables} (alone : s.Alone i draft) (statement : Statement) :
    s.admits i statement = true := by
  rcases alone with held | ⟨free, -⟩
  · simp [System.admits, held]
  · simp [System.admits, free]

/-- A statement that needs no lock leaves a draft that is the tables, if it leaves one. -/
theorem draft_of_execute {draft : Option Tables} (unlocked : statement.locks = false)
    (same : ∀ d, draft = some d → d = t) (run : (Session.mk t draft).execute statement = .ok session) :
    ∀ d, session.draft = some d → d = session.tables := by
  intro d drafted
  cases statement with
  | begin =>
      obtain rfl := Except.ok.inj run
      exact (Option.some.inj drafted).symm
  | commit =>
      obtain rfl := Except.ok.inj run
      cases drafted
  | createFiles | createProblems | createIndex =>
      cases draft with
      | none =>
          obtain rfl := Except.ok.inj run
          cases drafted
      | some d' =>
          obtain rfl := Except.ok.inj run
          exact (Option.some.inj drafted).symm.trans (same d' rfl)
  | deleteProblemsOf | deleteProblems | deleteFiles | replaceFile | insertProblem | unwritable => cases unlocked

theorem Alone.executed {draft : Option Tables} (alone : s.Alone i draft)
    (run : (Session.mk s.tables draft).execute statement = .ok session) :
    (s.executed i request statement todo session).Alone i session.draft := by
  have unlocked : s.release i = none := by
    rcases alone with held | ⟨free, -⟩
    · rw [release, if_pos held]
    · rw [release, free, if_neg nofun]
  cases ended : session.draft with
  | none =>
      refine .inr ⟨?_, nofun⟩
      show (if session.draft.isNone then s.release i else _) = none
      rw [ended]
      exact unlocked
  | some d =>
      have writer : (s.executed i request statement todo session).writer =
          if statement.locks then some i else s.writer := by
        rw [System.executed, ended]
        rfl
      cases locks : statement.locks with
      | true => exact .inl (by rw [writer, locks, if_pos rfl])
      | false =>
          rw [locks, if_neg Bool.false_ne_true] at writer
          rcases alone with held | ⟨free, same⟩
          · exact .inl (writer.trans held)
          · refine .inr ⟨writer.trans free, fun d' drafted => ?_⟩
            exact draft_of_execute locks same run d' (ended.trans drafted)

/-- **A client that is left alone carries out statements as a session does.** -/
theorem play_statements {draft : Option Tables} {todo rest : List Statement} {number : Nat}
    (here : s.clients i = .working request draft (todo ++ rest)) (alone : s.Alone i draft)
    (run : (Session.mk s.tables draft).perform .calm number todo = (session, none)) :
    ∃ s', s.play (List.replicate todo.length (.go i)) = some s' ∧ s'.tables = session.tables ∧
      s'.clients i = .working request session.draft rest ∧ s'.Alone i session.draft ∧
      s'.history = s.history ++ todo.flatMap (request.noted i) := by
  induction todo generalizing s draft number with
  | nil =>
      obtain rfl := (Prod.mk.inj run).1
      exact ⟨s, rfl, rfl, here, alone, (List.append_nil _).symm⟩
  | cons statement todo ih =>
      rw [Session.perform_cons] at run
      cases one : (Session.mk s.tables draft).execute statement with
      | error fault =>
          rw [one] at run
          cases run
      | ok session₁ =>
          rw [one] at run
          have went : s.go i = some (s.executed i request statement (todo ++ rest) session₁) := by
            rw [System.go, here, List.cons_append]
            dsimp only
            rw [if_pos (alone.admits statement), alone.sees, one]
          obtain ⟨s', played, tables, client, alone', history⟩ :=
            ih (Function.update_self i _ _) (alone.executed one) run
          refine ⟨s', ?_, tables, client, alone', ?_⟩
          · rw [List.length_cons, List.replicate_succ, play_cons]
            exact (congrArg (Option.bind · _) went).trans played
          · rw [history, System.executed, List.flatMap_cons, List.append_assoc]

/-- A client that asks for something has all of its statements before it. -/
theorem move_ask (idle : s.clients i = .idle) (request : Request) :
    ∃ s', s.move (.ask i request) = some s' ∧ s'.tables = s.tables ∧ s'.writer = s.writer ∧
      s'.history = s.history ∧ s'.clients i = .working request none (request.statements ++ []) := by
  refine ⟨s.put i (.working request none request.statements) [], ?_, rfl, rfl, List.append_nil _, ?_⟩
  · rw [System.move, idle]
  · rw [List.append_nil]
    exact Function.update_self i _ _

/-- The selections of a lookup, when no other client moves in between. -/
theorem play_selections {path : String} (here : s.clients i = .working (.lookup path) draft []) :
    ∃ s', s.play (List.replicate (s.tables.selections path) (.go i)) = some s' ∧ s'.tables = s.tables ∧
      s'.history = s.history ++ [.selected i path, .answered i path (s.tables.record? path)] := by
  rw [Tables.selections, Tables.record?]
  cases held : s.tables.file? path with
  | none =>
      have answered : s.go i = some (s.rest i [.selected i path, .answered i path (.ok none)]) := by
        rw [System.go, here]
        dsimp only
        rw [held]
      exact ⟨_, (congrArg (Option.bind · _) answered).trans rfl, rfl, rfl⟩
  | some row =>
      let seen := s.put i (.reading path row) [.selected i path]
      have selected : s.go i = some seen := by
        rw [System.go, here]
        dsimp only
        rw [held]
      have reading : seen.clients i = .reading path row := Function.update_self i _ _
      have answered : seen.go i = some (seen.rest i
          [.answered i path ((recordOf path row (s.tables.problemsOf path)).map some)]) := by
        rw [System.go, reading]
        rfl
      refine ⟨_, (congrArg (Option.bind · _) selected).trans ((congrArg (Option.bind · _) answered).trans rfl),
        rfl, ?_⟩
      exact List.append_assoc s.history [_] [_]

/-- A lookup that is left alone finds the record that the tables hold. -/
theorem lookup_alone (idle : s.clients i = .idle) (free : s.writer = none) (path : String) :
    ∃ s', s.play (.ask i (.lookup path) ::
        List.replicate (schema.length + s.tables.selections path) (.go i)) = some s' ∧
      s'.tables = s.tables ∧
      s'.history = s.history ++ [.selected i path, .answered i path (s.tables.record? path)] := by
  obtain ⟨asked, start, tables, writer, history, here⟩ := move_ask idle (.lookup path)
  obtain ⟨made, making, tables₁, client, -, history₁⟩ :=
    play_statements here (.inr ⟨writer.trans free, nofun⟩) (Session.perform_schema .calm asked.tables 0)
  obtain ⟨s', selecting, tables₂, history₂⟩ := play_selections client
  have same : made.tables = s.tables := tables₁.trans tables
  have silent : made.history = s.history := (history₁.trans (List.append_nil _)).trans history
  rw [same] at selecting tables₂ history₂
  refine ⟨s', ?_, tables₂, history₂.trans (by rw [silent])⟩
  rw [play_cons, start, ← List.replicate_append_replicate, Option.bind_some, play_append]
  exact (congrArg (Option.bind · _) making).trans selecting

/-- A change that is left alone does to the tables what its statements do in a session. -/
theorem change_alone (idle : s.clients i = .idle) (free : s.writer = none) (c : Change)
    (run : (Session.opened s.tables).perform .calm schema.length c.statements = (session, none)) :
    ∃ s', s.play (.ask i (.change c) ::
        List.replicate (schema.length + c.statements.length) (.go i)) = some s' ∧
      s'.tables = session.settled none ∧ s'.history = s.history ++ [.changed i c] := by
  obtain ⟨asked, start, tables, writer, history, here⟩ := move_ask idle (.change c)
  have whole : (Session.opened asked.tables).perform .calm 0 (schema ++ c.statements) = (session, none) := by
    rw [tables, Session.perform_append, Session.perform_schema, Trouble.first?_calm]
    exact run
  obtain ⟨s', played, tables', -, -, history'⟩ :=
    play_statements here (.inr ⟨writer.trans free, nofun⟩) whole
  have silent : c.body.flatMap ((Request.change c).noted i) = [] := by
    refine List.flatMap_eq_nil_iff.mpr fun statement member => ?_
    have locks := c.locks_body statement member
    cases statement <;> first | rfl | cases locks
  refine ⟨s', ?_, tables', ?_⟩
  · rw [play_cons, start, ← List.length_append]
    exact played
  · rw [history', history, Request.statements, c.statements_eq, List.flatMap_append, List.flatMap_cons,
      List.flatMap_append, silent]
    rfl

end System

end Docwright.Cache
