import Docwright.Build
import Docwright.Proofs.Cache.Rows
import Docwright.Proofs.Message.Literal

/-!
# The words of problems

Whatever is wrong with a file, the problem has one of four forms (`Worded`,
`worded_run`): a definition or a file without a summary, a parameter that is not
mentioned, or an empty file.  In each of them the values are texts, the path of the
file, the name of a definition or that of a parameter, and the template takes them
all.

So a record of an examination can be read back if its time can (`preserved_run`), for
texts survive being written; and its problems can be put in words, which are those of
the templates with the texts put in (`said_run`).
-/

namespace Docwright

/-- A problem says its template with the texts in its values put in. -/
def Problem.Spoken (p : Problem) : Prop := ∃ texts, p.message.Says texts

theorem Problem.Spoken.rendered {p : Problem} (spoken : p.Spoken) : ∃ text, p.render = .ok text := by
  obtain ⟨texts, said⟩ := spoken
  exact ⟨_, said.rendered⟩

namespace Check

open Source (Stmt Parameters)

/-- The forms of problems. -/
inductive Worded : Problem → Prop
  | missingSummary (kind : Kind) (qualified name : String) (row : Nat) :
      Worded (missingSummary kind qualified name row)
  | missingMention (parameter qualified : String) (row : Nat) :
      Worded (missingMention parameter qualified row)
  | noSummary (path : String) :
      Worded ⟨.error, "No summary was found for file %s", [.text path], lineOf 0⟩
  | emptyFile (path : String) : Worded (emptyFile path)

/-- Every problem has one of the forms. -/
def AllWorded (problems : List Problem) : Prop :=
  ∀ p ∈ problems, Worded p

theorem AllWorded.append {problems others : List Problem} (first : AllWorded problems)
    (second : AllWorded others) : AllWorded (problems ++ others) :=
  fun p member => (List.mem_append.mp member).elim (first p) (second p)

theorem AllWorded.one {p : Problem} (worded : Worded p) : AllWorded [p] :=
  fun _ member => List.mem_singleton.mp member ▸ worded

theorem worded_classProblems (qualified name : String) (row : Nat) (body : List Stmt) :
    AllWorded (classProblems qualified name row body) := by
  unfold classProblems
  split
  · exact .one (.missingSummary _ _ _ _)
  · nofun

theorem worded_functionProblems (kind : Kind) (qualified name : String) (row : Nat) (p : Parameters)
    (body : List Stmt) : AllWorded (functionProblems kind qualified name row p body) := by
  unfold functionProblems
  split
  · exact .one (.missingSummary _ _ _ _)
  · intro problem member
    obtain ⟨parameter, -, rfl⟩ := List.mem_map.mp member
    exact .missingMention parameter qualified row

mutual

theorem worded_ofStmt (scope : Scope) (above : String) (s : Stmt) :
    AllWorded (ofStmt scope above s) := by
  cases s with
  | classDef row name body =>
      rw [ofStmt]
      exact (worded_classProblems _ _ _ _).append (worded_ofBody _ _ body)
  | functionDef row name p body =>
      rw [ofStmt]
      exact (worded_functionProblems _ _ _ _ _ _).append (worded_ofBody _ _ body)
  | block body =>
      rw [ofStmt]
      nofun
  | text value =>
      rw [ofStmt]
      nofun
  | simple =>
      rw [ofStmt]
      nofun

theorem worded_ofBody (scope : Scope) (above : String) (body : List Stmt) :
    AllWorded (ofBody scope above body) := by
  cases body with
  | nil =>
      rw [ofBody]
      nofun
  | cons s rest =>
      rw [ofBody]
      exact (worded_ofStmt scope above s).append (worded_ofBody scope above rest)

end

theorem worded_ofTree (path : String) (body : List Stmt) : AllWorded (ofTree path body) := by
  cases body with
  | nil => exact .one (.emptyFile path)
  | cons s rest =>
      refine AllWorded.append ?_ (worded_ofBody _ _ _)
      unfold fileProblems
      split
      · exact .one (.noSummary path)
      · nofun

/-- **The problems of an examination have one of the forms.** -/
theorem worded_run {path source : String} {problems : List Problem}
    (examined : (run path source).result = .ok problems) : AllWorded problems := by
  unfold run at examined
  cases parsed : tree path source with
  | error fault =>
      rw [parsed] at examined
      cases examined
  | ok body =>
      rw [parsed] at examined
      cases examined
      exact worded_ofTree path body

/-! ### Values -/

theorem Worded.texts {p : Problem} (worded : Worded p) : ∀ v ∈ p.values, ∃ s, v = .text s := by
  have names : ∃ names : List String, p.values = names.map .text := by
    cases worded with
    | missingSummary kind qualified name row => exact ⟨[qualified], rfl⟩
    | missingMention parameter qualified row => exact ⟨[parameter, qualified], rfl⟩
    | noSummary path | emptyFile path => exact ⟨[path], rfl⟩
  obtain ⟨names, same⟩ := names
  intro v member
  rw [same] at member
  obtain ⟨s, -, rfl⟩ := List.mem_map.mp member
  exact ⟨s, rfl⟩

theorem Worded.plain {p : Problem} (worded : Worded p) : p.plain = p := by
  cases worded <;> rfl

/-- What an examination finds has scalars alone. -/
theorem plain_run {path source : String} {problems : List Problem}
    (examined : (run path source).result = .ok problems) : problems.map Problem.plain = problems := by
  have each : problems.map Problem.plain = problems.map id :=
    List.map_congr_left fun p member => (worded_run examined p member).plain
  rw [each, List.map_id]

/-- A record of an examination is read back as it was if its time is. -/
theorem preserved_run {path source : String} {record : FileRecord} (time : record.analyzed.Valid)
    (examined : (run path source).result = .ok record.problems) : record.Preserved where
  analyzed := time.readsBack
  values p member v within := by
    obtain ⟨s, rfl⟩ := (worded_run examined p member).texts v within
    exact trivial
  plain := by rw [FileRecord.plain, plain_run examined]

/-! ### Words -/

/-- A template that takes all values of a problem. -/
theorem Worded.ofTexts {p : Problem} (worded : Worded p) :
    ∃ pieces last, Template.OfTexts p.template.toList (pieces.map Prod.fst) last ∧ pieces ≠ [] ∧
      p.context = pieces.map fun piece => .text piece.2 := by
  cases worded with
  | missingSummary kind qualified name row =>
      have template : Template.OfTexts (missingTemplate kind).toList
          ["No summary for ".toList ++ kind.word.toList ++ " ".toList] [] := by
        cases kind <;> decide +kernel
      exact ⟨[(_, qualified)], _, template, nofun, rfl⟩
  | missingMention parameter qualified row =>
      have template : Template.OfTexts "Argument %s is missing from the docstring of %s".toList
          ["Argument ".toList, " is missing from the docstring of ".toList] [] := by
        decide +kernel
      exact ⟨[(_, parameter), (_, qualified)], _, template, nofun, rfl⟩
  | noSummary path =>
      have template : Template.OfTexts "No summary was found for file %s".toList
          ["No summary was found for file ".toList] [] := by
        decide +kernel
      exact ⟨[(_, path)], _, template, nofun, rfl⟩
  | emptyFile path =>
      have template : Template.OfTexts "File %s is empty".toList ["File ".toList]
          " is empty".toList := by
        decide +kernel
      exact ⟨[(_, path)], _, template, nofun, rfl⟩

/-- **The problems of an examination say their templates**, with the texts in their values put in. -/
theorem said_run {path source : String} {problems : List Problem}
    (examined : (run path source).result = .ok problems) : ∀ p ∈ problems, p.Spoken := by
  intro p member
  obtain ⟨pieces, last, template, filled, context⟩ := (worded_run examined p member).ofTexts
  have taken : p.message.values = pieces.map fun piece => .scalar (.text piece.2) := by
    rw [Problem.message, context, List.map_map]
    rfl
  exact ⟨_, Message.said_texts template filled taken⟩

/-- The problems of an examination can be put in words. -/
theorem renders_run {path source : String} {problems : List Problem}
    (examined : (run path source).result = .ok problems) :
    ∀ p ∈ problems, ∃ text, p.render = .ok text :=
  fun p member => (said_run examined p member).rendered

end Check

end Docwright
