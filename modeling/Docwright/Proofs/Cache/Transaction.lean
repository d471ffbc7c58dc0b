import Docwright.Cache.Tables

/-!
# Transactions

A store and an emptying are each one transaction: `begin`, statements that change
rows, `commit`.  Until the `commit` the statements work on the draft alone
(`perform_draft`), so a transaction counts as a whole or not at all
(`transaction`).

Which of the two ways out a session takes, the rollback or being closed with its
draft, makes no difference: the draft is lost either way (`settled_draft`).  That
is why the faults need not be told apart here.
-/

namespace Docwright.Cache

/-- Whether a statement neither begins nor ends a transaction. -/
def Statement.plain : Statement → Bool
  | .begin | .commit => false
  | .createFiles | .createProblems | .createIndex | .deleteProblemsOf _ | .deleteProblems
  | .deleteFiles | .replaceFile _ | .insertProblem _ | .unwritable => true

/-- The tables after statements that change rows. -/
def Tables.changes (t : Tables) (statements : List Statement) : Except StatementFault Tables :=
  statements.foldlM Tables.change t

theorem Tables.changes_cons (t : Tables) (statement : Statement) (rest : List Statement) :
    t.changes (statement :: rest) = (t.change statement).bind fun t => t.changes rest :=
  List.foldlM_cons

/-- What comes of a statement that changes rows, which depends on nothing but whether the table of
problems is guarded. -/
def Statement.outcome (guarded : Bool) : Statement → Except StatementFault Unit
  | .insertProblem row =>
    if !row.fits then .error .integerRange
    else if guarded && row.template == refusedTemplate then .error (.refused .rejected)
    else .ok ()
  | .unwritable => .error .unprintable
  | .createFiles | .createProblems | .createIndex | .begin | .deleteProblemsOf _ | .deleteProblems
  | .deleteFiles | .replaceFile _ | .commit => .ok ()

theorem Tables.change_outcome (t : Tables) (statement : Statement) :
    (t.change statement).map Tables.guarded =
      (statement.outcome t.guarded).map fun _ => t.guarded := by
  cases statement with
  | insertProblem row =>
      change (t.insertProblem row).map Tables.guarded = _
      simp only [Tables.insertProblem, Statement.outcome]
      split
      · rfl
      · split <;> rfl
  | _ => rfl

/-- Statements that change rows are refused, or not, by what they are, and leave the guard as it is. -/
theorem Tables.changes_outcome (t : Tables) (statements : List Statement) :
    (t.changes statements).map Tables.guarded =
      (statements.forM (Statement.outcome t.guarded)).map fun _ => t.guarded := by
  induction statements generalizing t with
  | nil => rfl
  | cons statement rest ih =>
      have one := t.change_outcome statement
      rw [Tables.changes_cons]
      change _ = (statement.outcome t.guarded >>= fun _ => rest.forM _).map _
      cases outcome : statement.outcome t.guarded with
      | error fault =>
          rw [outcome] at one
          cases changed : t.change statement with
          | error fault' =>
              rw [changed] at one
              obtain rfl := Except.error.inj one
              rfl
          | ok t' =>
              rw [changed] at one
              cases one
      | ok _ =>
          rw [outcome] at one
          cases changed : t.change statement with
          | error fault' =>
              rw [changed] at one
              cases one
          | ok t' =>
              rw [changed] at one
              have same : t'.guarded = t.guarded := Except.ok.inj one
              have deeper := ih t'
              rw [same] at deeper
              exact deeper

/-- Without trouble no statement fails. -/
theorem Trouble.first?_calm (number count : Nat) : calm.first? number count = none := by
  induction count generalizing number with
  | zero => rfl
  | succ count ih => exact ih (number + 1)

namespace Session

variable {trouble : Trouble} {t draft : Tables} {number : Nat} {statement : Statement}
  {body : List Statement}

/-- In a transaction a statement changes the draft. -/
theorem execute_draft (plain : statement.plain = true) :
    execute ⟨t, some draft⟩ statement =
      (draft.change statement).map fun draft => ⟨t, some draft⟩ := by
  cases statement <;> first | rfl | cases plain

/-- Outside of a transaction a statement changes the tables. -/
theorem execute_open (statement : Statement) (plain : statement.plain = true) :
    execute ⟨t, none⟩ statement = (t.change statement).map fun t => ⟨t, none⟩ := by
  cases statement <;> first | rfl | cases plain

/-- A fault of a session in a transaction leaves the tables as they were, whether it is answered by a
rollback or not. -/
theorem settled_draft (fault : StatementFault) (d : Option Tables) :
    settled ⟨t, d⟩ (some fault) = t := by
  cases fault <;> rfl

theorem perform_nil (s : Session) : s.perform trouble number [] = (s, none) := rfl

theorem perform_cons (s : Session) (rest : List Statement) :
    s.perform trouble number (statement :: rest) =
      match trouble.statement number with
      | some fault => (s, some fault)
      | none =>
        match s.execute statement with
        | .ok s => s.perform trouble (number + 1) rest
        | .error fault => (s, some fault) := rfl

/-- Statements are carried out up to the first that fails. -/
theorem perform_append (s : Session) (first second : List Statement) :
    s.perform trouble number (first ++ second) =
      match s.perform trouble number first with
      | (s, none) => s.perform trouble (number + first.length) second
      | (s, some fault) => (s, some fault) := by
  induction first generalizing s number with
  | nil => rfl
  | cons statement rest ih =>
      rw [List.cons_append, perform_cons, perform_cons]
      cases trouble.statement number with
      | some fault => rfl
      | none =>
          cases s.execute statement with
          | error fault => rfl
          | ok s' =>
              have shifted : number + (statement :: rest).length = number + 1 + rest.length := by
                rw [List.length_cons]
                omega
              rw [shifted]
              exact ih s'

/-- In a transaction statements work on the draft, and the tables stay as they are. -/
theorem perform_draft (trouble : Trouble) (t draft : Tables) (number : Nat)
    (plain : ∀ statement ∈ body, statement.plain = true) :
    (∃ d, draft.changes body = .ok d ∧
      perform trouble ⟨t, some draft⟩ number body = (⟨t, some d⟩, none)) ∨
    (∃ d fault, perform trouble ⟨t, some draft⟩ number body = (⟨t, some d⟩, some fault)) := by
  induction body generalizing draft number with
  | nil => exact .inl ⟨draft, rfl, rfl⟩
  | cons statement rest ih =>
      rw [perform_cons, execute_draft (plain statement List.mem_cons_self), Tables.changes_cons]
      cases trouble.statement number with
      | some fault => exact .inr ⟨draft, fault, rfl⟩
      | none =>
          cases draft.change statement with
          | error fault => exact .inr ⟨draft, fault, rfl⟩
          | ok d => exact ih d (number + 1) fun s member => plain s (List.mem_cons_of_mem _ member)

/-- Making the tables changes no rows, and fails only amid trouble. -/
theorem perform_schema (trouble : Trouble) (t : Tables) (number : Nat) :
    (opened t).perform trouble number schema =
      (opened t, trouble.first? number schema.length) := by
  simp only [schema, perform_cons, perform_nil, opened, execute_open .createFiles rfl,
    execute_open .createProblems rfl, execute_open .createIndex rfl, Tables.change, Except.map,
    List.length_cons, List.length_nil, Trouble.first?]
  cases trouble.statement number with
  | some fault => rfl
  | none =>
      cases trouble.statement (number + 1) with
      | some fault => rfl
      | none => cases trouble.statement (number + 1 + 1) <;> rfl

/-- **A transaction counts as a whole or not at all.**  If it comes to its end, the tables are changed by
all of its statements; if any of them fails, for whatever reason, they are as before. -/
theorem transaction (trouble : Trouble) (t : Tables) (number : Nat)
    (plain : ∀ statement ∈ body, statement.plain = true) :
    match (opened t).perform trouble number (.begin :: body ++ [.commit]) with
    | (session, none) => t.changes body = .ok (session.settled none)
    | (session, some fault) => session.settled (some fault) = t := by
  rw [List.cons_append, perform_cons]
  cases trouble.statement number with
  | some fault => exact settled_draft fault none
  | none =>
      change match perform trouble ⟨t, some t⟩ (number + 1) (body ++ [.commit]) with
        | (session, none) => t.changes body = .ok (session.settled none)
        | (session, some fault) => session.settled (some fault) = t
      rw [perform_append]
      rcases perform_draft trouble t t (number + 1) plain
        with ⟨d, changed, run⟩ | ⟨d, fault, run⟩
      · rw [run]
        simp only [perform_cons, perform_nil]
        cases trouble.statement (number + 1 + body.length) with
        | some fault => exact settled_draft fault (some d)
        | none => exact changed
      · rw [run]
        exact settled_draft fault (some d)

/-- Without trouble it is the first change that is refused that ends a transaction. -/
theorem perform_draft_calm (t draft : Tables) (number : Nat)
    (plain : ∀ statement ∈ body, statement.plain = true) :
    match draft.changes body with
    | .ok d => perform .calm ⟨t, some draft⟩ number body = (⟨t, some d⟩, none)
    | .error fault => ∃ d, perform .calm ⟨t, some draft⟩ number body = (⟨t, some d⟩, some fault) := by
  induction body generalizing draft number with
  | nil => rfl
  | cons statement rest ih =>
      have calm : Trouble.calm.statement number = none := rfl
      rw [perform_cons, execute_draft (plain statement List.mem_cons_self), Tables.changes_cons, calm]
      cases draft.change statement with
      | error fault => exact ⟨draft, rfl⟩
      | ok d => exact ih d (number + 1) fun s member => plain s (List.mem_cons_of_mem _ member)

/-- Without trouble a transaction ends as its changes do. -/
theorem transaction_calm (t : Tables) (number : Nat)
    (plain : ∀ statement ∈ body, statement.plain = true) :
    ((opened t).perform .calm number (.begin :: body ++ [.commit])).2 =
      match t.changes body with
      | .ok _ => none
      | .error fault => some fault := by
  have calm : ∀ number, Trouble.calm.statement number = none := fun _ => rfl
  rw [List.cons_append, perform_cons, calm]
  change (perform .calm ⟨t, some t⟩ (number + 1) (body ++ [.commit])).2 = _
  rw [perform_append]
  have draft := perform_draft_calm t t (number + 1) plain
  cases changed : t.changes body with
  | ok d =>
      rw [changed] at draft
      rw [draft]
      rfl
  | error fault =>
      rw [changed] at draft
      obtain ⟨d, run⟩ := draft
      rw [run]

end Session

/-! ### The operations -/

theorem plain_writeProblems (path : String) (problems : List Problem) :
    ∀ statement ∈ writeProblems path problems, statement.plain = true := by
  unfold writeProblems
  cases problemRows? path 0 problems with
  | none => simp [Statement.plain]
  | some rows => simp [Statement.plain]

/-- The statements of a store within its transaction. -/
def storingBody (path : String) (record : FileRecord) : List Statement :=
  .deleteProblemsOf path :: .replaceFile (fileRow path record) :: writeProblems path record.problems

/-- The statements of an emptying within its transaction. -/
def clearingBody : List Statement := [.deleteProblems, .deleteFiles]

theorem storing_eq (path : String) (record : FileRecord) :
    storing path record = .begin :: storingBody path record ++ [.commit] := rfl

theorem clearing_eq : clearing = .begin :: clearingBody ++ [.commit] := rfl

theorem plain_storingBody (path : String) (record : FileRecord) :
    ∀ statement ∈ storingBody path record, statement.plain = true := by
  intro statement member
  rcases List.mem_cons.mp member with rfl | member
  · rfl
  · rcases List.mem_cons.mp member with rfl | member
    · rfl
    · exact plain_writeProblems path record.problems statement member

/-- Stores of records with the same problems are refused, or not, alike. -/
theorem outcome_storingBody {path : String} {record record' : FileRecord}
    (same : record.problems = record'.problems) (guarded : Bool) :
    (storingBody path record).forM (Statement.outcome guarded) =
      (storingBody path record').forM (Statement.outcome guarded) := by
  unfold storingBody
  rw [same]
  rfl

theorem plain_clearingBody : ∀ statement ∈ clearingBody, statement.plain = true := by
  decide

end Docwright.Cache
