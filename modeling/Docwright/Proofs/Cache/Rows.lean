import Docwright.Cache.Row
import Docwright.Proofs.Cache.Transaction
import Docwright.Proofs.Json.Lists
import Docwright.Proofs.Message.Members
import Docwright.Proofs.Time.Timestamps
import Mathlib.Logic.Function.Basic

/-!
# The rows of a record

`Tables.view` reads tables by path: the row of the file and the rows of its
problems in the order of their positions.  A store changes the view at one path
(`view_storing`), an emptying leaves nothing of it (`view_clearing`), and what is
looked up depends on the view alone (`record?_eq`).

The other half is that from the rows that were written for a record its
fingerprint and its problems are made again, and its time as far as it can be read
(`recordOf_written`).  The problems ask for values that a double can be and
nothing else, but they come back `plain`: a member of an enumeration is written, and
so read, as the scalar that it counts as.  A record that is `Legible`, that is, whose
time survives being written as well, is made again but for that (`recordOf_rows`), and
one that is `Preserved` as it was.
-/

namespace Docwright

/-- A record whose parts can be read back from what is written of them. -/
structure FileRecord.Legible (record : FileRecord) : Prop where
  analyzed : record.analyzed.ReadsBack
  values : ∀ p ∈ record.problems, ∀ v ∈ p.values, v.Canonical

/-- A record with scalars in the places of members. -/
def FileRecord.plain (record : FileRecord) : FileRecord :=
  { record with problems := record.problems.map Problem.plain }

theorem FileRecord.sameProblems_plain (problems others : List Problem) :
    sameProblems (problems.map Problem.plain) others = sameProblems problems others := by
  induction problems generalizing others with
  | nil => rfl
  | cons p rest ih =>
      cases others with
      | nil => rfl
      | cons q others =>
          simp only [List.map_cons, sameProblems, ih, Problem.same, Problem.values_plain]
          rfl

/-- Equality by value does not tell members from scalars. -/
theorem FileRecord.same_plain (record other : FileRecord) : record.plain.same other = record.same other := by
  simp only [same, plain, sameProblems_plain]

/-- A record that can be read back as it was. -/
structure FileRecord.Preserved (record : FileRecord) : Prop extends record.Legible where
  plain : record.plain = record

namespace Cache

variable {path q : String} {record : FileRecord} {p : Problem} {t t' : Tables} {position : Nat}
  {row : ProblemRow} {rows : List ProblemRow}

/-! ### Reading rows -/

theorem severityOf_rank (s : Severity) : severityOf s.rank = .ok s := by
  have same : Severity.ofInt? s.rank = Severity.ofRank? s.rank := rfl
  rw [severityOf, same, Severity.ofRank?_rank]

theorem ofData_scalars (severity : Severity) (template : String) (values : List Scalar)
    (line : Option Int) :
    Problem.ofData severity template (values.map .scalar) line =
      .ok ⟨severity, template, values.map .scalar, line⟩ := by
  have none_ : (values.map Datum.scalar).filter (fun d => d.inContext?.isNone) = [] := by
    rw [List.filter_eq_nil_iff]
    intro d member
    obtain ⟨v, -, rfl⟩ := List.mem_map.mp member
    exact Bool.false_ne_true
  have all : (values.map Datum.scalar).filterMap Datum.inContext? = values.map .scalar := by
    rw [List.filterMap_map, ← List.filterMap_eq_map]
    rfl
  rw [Problem.ofData, none_, all]

/-- The problem of a row is the one it was written for, with scalars alone. -/
theorem problemOf_row (written : problemRow? path position p = some row)
    (canonical : ∀ v ∈ p.values, v.Canonical) : problemOf row = .ok p.plain := by
  obtain ⟨values, compact, rfl⟩ := Option.map_eq_some_iff.mp written
  have read : valuesOf (String.ofList values) = .ok (p.values.map .scalar) := by
    rw [valuesOf, String.toList_ofList, Json.parse_compact compact canonical]
    rfl
  simp only [problemOf, bind, Except.bind, severityOf_rank, read, ofData_scalars]
  rfl

theorem problemRows?_cons {rest : List Problem}
    (written : problemRows? path position (p :: rest) = some rows) :
    ∃ row others, rows = row :: others ∧ problemRow? path position p = some row ∧
      problemRows? path (position + 1) rest = some others := by
  rw [problemRows?, Option.bind_eq_bind, Option.bind_eq_some_iff] at written
  obtain ⟨row, first, written⟩ := written
  rw [Option.bind_eq_bind, Option.bind_eq_some_iff] at written
  obtain ⟨others, rest_, written⟩ := written
  exact ⟨row, others, (Option.some.inj written).symm, first, rest_⟩

theorem problemsOf_rows {problems : List Problem}
    (written : problemRows? path position problems = some rows)
    (canonical : ∀ p ∈ problems, ∀ v ∈ p.values, v.Canonical) :
    rows.mapM problemOf = .ok (problems.map Problem.plain) := by
  induction problems generalizing position rows with
  | nil =>
      obtain rfl := Option.some.inj written
      rfl
  | cons p rest ih =>
      obtain ⟨row, others, rfl, first, written⟩ := problemRows?_cons written
      rw [List.mapM_cons, problemOf_row first (canonical p List.mem_cons_self),
        ih written fun q member => canonical q (List.mem_cons_of_mem _ member)]
      rfl

/-- **The record of rows has the problems they were written for**, with scalars alone, and the time as it
can be read. -/
theorem recordOf_written (canonical : ∀ p ∈ record.problems, ∀ v ∈ p.values, v.Canonical)
    (written : problemRows? path 0 record.problems = some rows) :
    recordOf path (fileRow path record) rows =
      (timeOf (String.ofList record.analyzed.text)).map fun time =>
        { record.plain with path := path, analyzed := time } := by
  simp only [recordOf, fileRow, bind, Except.bind, problemsOf_rows written canonical]
  cases timeOf (String.ofList record.analyzed.text) <;> rfl

/-- **The record of rows is the one they were written for**, with scalars alone. -/
theorem recordOf_rows (legible : record.Legible) (own : record.path = path)
    (written : problemRows? path 0 record.problems = some rows) :
    recordOf path (fileRow path record) rows = .ok record.plain := by
  have time : timeOf (String.ofList record.analyzed.text) = .ok record.analyzed := by
    rw [timeOf, legible.analyzed]
  rw [recordOf_written legible.values written, time, ← own]
  rfl

/-! ### Writing rows -/

theorem problemRow?_path (written : problemRow? path position p = some row) :
    row.path = path ∧ row.position = position := by
  obtain ⟨values, -, rfl⟩ := Option.map_eq_some_iff.mp written
  exact ⟨rfl, rfl⟩

/-- The rows of problems have the path they were written for, and ascend from the position they begin
at. -/
theorem problemRows?_sorted {problems : List Problem}
    (written : problemRows? path position problems = some rows) :
    (∀ row ∈ rows, row.path = path ∧ (position : Int) ≤ row.position) ∧
      rows.Pairwise fun a b => a.position ≤ b.position := by
  induction problems generalizing position rows with
  | nil =>
      obtain rfl := Option.some.inj written
      exact ⟨fun _ member => absurd member List.not_mem_nil, .nil⟩
  | cons p rest ih =>
      obtain ⟨row, others, rfl, first, written⟩ := problemRows?_cons written
      obtain ⟨own, place⟩ := problemRow?_path first
      obtain ⟨all, sorted⟩ := ih written
      constructor
      · intro other member
        rcases List.mem_cons.mp member with rfl | member
        · exact ⟨own, place.ge⟩
        · obtain ⟨own, later⟩ := all other member
          exact ⟨own, by push_cast at later; omega⟩
      · refine List.pairwise_cons.mpr ⟨fun other member => ?_, sorted⟩
        have later := (all other member).2
        push_cast at later
        omega

/-! ### Tables by path -/

namespace Tables

/-- What tables hold for a path: the row of the file, if there is one, and the rows of its problems in
the order of their positions. -/
def view (t : Tables) (path : String) : Option FileRow × List ProblemRow :=
  (t.file? path, t.problemsOf path)

/-- What is looked up depends on the view alone. -/
theorem record?_eq (t : Tables) (path : String) :
    t.record? path =
      match t.view path with
      | (none, _) => .ok none
      | (some row, rows) => (recordOf path row rows).map some := by
  unfold record? view
  cases t.file? path <;> rfl

theorem selections_eq (t : Tables) (path : String) :
    t.selections path = if (t.view path).1.isSome then 2 else 1 := rfl

theorem change_insertProblem (changed : t.change (.insertProblem row) = .ok t') :
    t' = { t with problems := t.problems ++ [row] } := by
  change t.insertProblem row = .ok t' at changed
  unfold insertProblem at changed
  split at changed
  · exact nomatch changed
  · split at changed
    · exact nomatch changed
    · exact (Except.ok.inj changed).symm

/-- Rows of problems are appended one after another. -/
theorem changes_insertProblems (changed : t.changes (rows.map .insertProblem) = .ok t') :
    t' = { t with problems := t.problems ++ rows } := by
  induction rows generalizing t with
  | nil =>
      rw [List.append_nil]
      exact (Except.ok.inj changed).symm
  | cons row rest ih =>
      rw [List.map_cons, changes_cons] at changed
      cases inserted : t.change (.insertProblem row) with
      | error fault =>
          rw [inserted] at changed
          exact nomatch changed
      | ok next =>
          rw [inserted] at changed
          rw [ih changed, change_insertProblem inserted, List.append_assoc, List.singleton_append]

/-- What a store changes the tables to. -/
theorem changes_storing (changed : t.changes (storingBody path record) = .ok t') :
    ∃ rows, problemRows? path 0 record.problems = some rows ∧
      t' = { t with
        files := t.files.filter (·.path != path) ++ [fileRow path record]
        problems := t.problems.filter (·.path != path) ++ rows } := by
  rw [storingBody, changes_cons] at changed
  change Tables.changes _ (.replaceFile (fileRow path record) :: _) = .ok t' at changed
  rw [changes_cons] at changed
  change Tables.changes _ (writeProblems path record.problems) = .ok t' at changed
  unfold writeProblems at changed
  cases written : problemRows? path 0 record.problems with
  | none =>
      rw [written] at changed
      exact nomatch changed
  | some rows =>
      rw [written] at changed
      exact ⟨rows, rfl, changes_insertProblems changed⟩

/-- The rows of a path after those of `path` were replaced, in either table. -/
theorem filter_replaced {Row : Type} (pathOf : Row → String) (path q : String) (old : List Row)
    {new : List Row} (own : ∀ row ∈ new, pathOf row = path) :
    (old.filter (pathOf · != path) ++ new).filter (pathOf · == q) =
      if q = path then new else old.filter (pathOf · == q) := by
  rw [List.filter_append, List.filter_filter]
  split
  · next same =>
      have gone : old.filter (fun row => pathOf row == q && pathOf row != path) = [] := by
        rw [List.filter_eq_nil_iff]
        intro row _
        simp [same]
      have kept : new.filter (pathOf · == q) = new :=
        List.filter_eq_self.mpr fun row member => by simp [own row member, same]
      rw [gone, kept, List.nil_append]
  · next other =>
      have kept : old.filter (fun row => pathOf row == q && pathOf row != path) =
          old.filter (pathOf · == q) :=
        List.filter_congr fun row _ => by
          by_cases at_ : pathOf row = q
          · simp [at_, other]
          · simp [at_]
      have none_ : new.filter (pathOf · == q) = [] := by
        rw [List.filter_eq_nil_iff]
        intro row member
        simp [own row member, Ne.symm other]
      rw [kept, none_, List.append_nil]

/-- **A store changes the view at one path**, to the rows of the record and nothing else. -/
theorem view_storing (changed : t.changes (storingBody path record) = .ok t') :
    ∃ rows, problemRows? path 0 record.problems = some rows ∧
      t'.view = Function.update t.view path (some (fileRow path record), rows) := by
  obtain ⟨rows, written, rfl⟩ := changes_storing changed
  obtain ⟨own, sorted⟩ := problemRows?_sorted written
  refine ⟨rows, written, funext fun q => ?_⟩
  have files := filter_replaced FileRow.path path q t.files
    (fun row member => congrArg FileRow.path (List.mem_singleton.mp member) :
      ∀ row ∈ [fileRow path record], row.path = path)
  have problems := filter_replaced ProblemRow.path path q t.problems
    fun row member => (own row member).1
  simp only [view, file?, problemsOf, problems, ← List.head?_filter, files]
  by_cases same : q = path
  · rw [if_pos same, if_pos same, same, Function.update_self, List.head?_cons,
      Sorting.sort_of_pairwise (sorted.imp decide_eq_true)]
  · rw [if_neg same, if_neg same, Function.update_of_ne same, List.head?_filter]
    rfl

/-- **An emptying leaves nothing of the view.** -/
theorem view_clearing (changed : t.changes clearingBody = .ok t') :
    t'.view = fun _ => (none, []) := by
  obtain rfl := Except.ok.inj changed
  funext q
  simp [view, file?, problemsOf]

/-- What is looked up after the rows of one path were replaced by those of a record. -/
theorem record?_update (legible : record.Legible) (own : record.path = path)
    (written : problemRows? path 0 record.problems = some rows)
    (view : t'.view = Function.update t.view path (some (fileRow path record), rows)) :
    t'.record? = Function.update t.record? path (.ok (some record.plain)) := by
  funext q
  rw [record?_eq, view, Function.update_apply, Function.update_apply]
  by_cases at_ : q = path
  · subst at_
    rw [if_pos rfl, if_pos rfl]
    show (recordOf q (fileRow q record) rows).map some = .ok (some record.plain)
    rw [recordOf_rows legible own written]
    rfl
  · rw [if_neg at_, if_neg at_, record?_eq]

end Tables

end Cache

end Docwright
