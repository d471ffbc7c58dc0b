import Docwright.Proofs.Cache.Reliability
import Docwright.Proofs.Check.Texts

/-!
# Records that an examination attests to

A record of a file is `Attested` if it is what an examination found in a content that
occurs.  Where fingerprints tell the contents apart and a table has room for the
problems (`Ordinary`), attested records can be kept (`keepable_attested`), and one with
the fingerprint of a file is the verdict on that file (`sound_of_ordinary`).
-/

namespace Docwright

open Cache

variable {path : String} {record : FileRecord} {problems : List Problem} {rows : List ProblemRow}
  {position : Nat} {occurs : List UInt8 → Prop}

namespace Check

/-- A table has room for problems: for their positions, and for the lines that they are found at. -/
structure Modest (problems : List Problem) : Prop where
  few : problems.length ≤ integerLimit
  lines : ∀ p ∈ problems, ∀ n ∈ p.line, fitsInteger n = true

/-- Fingerprints tell the contents apart that occur, and a table has room for what is found in them. -/
structure Ordinary (occurs : List UInt8 → Prop) : Prop where
  distinguishes : Build.Distinguishes occurs
  modest : ∀ {path data text problems}, occurs data → Text.Utf8.decode data = .ok text →
    (run path (String.ofList text)).result = .ok problems → Modest problems

/-- A record is what an examination found in a content that occurs, and can be read back. -/
structure Attested (occurs : List UInt8 → Prop) (path : String) (record : FileRecord) : Prop where
  own : record.path = path
  preserved : record.Preserved
  origin : ∃ data text, occurs data ∧ Text.Utf8.decode data = .ok text ∧
    record.fingerprint = Digest.fingerprint data ∧ (run path (String.ofList text)).result = .ok record.problems

end Check

open Check

/-! ### Rows that fit -/

theorem fitsInteger_natCast {n : Nat} (small : n < integerLimit) : fitsInteger n = true := by
  rw [fitsInteger, Bool.and_eq_true, decide_eq_true_iff, decide_eq_true_iff]
  omega

theorem Severity.rank_lt (s : Severity) : s.rank < integerLimit := by
  have few : s.rank < 8 := by cases s <;> decide
  have many : 8 ≤ integerLimit := Nat.pow_le_pow_right (n := 2) (by decide) (by decide : 3 ≤ 63)
  exact few.trans_le many

/-- The rows of problems fit if a table has room for the problems. -/
theorem problemRows?_fits (written : problemRows? path position problems = some rows)
    (few : position + problems.length ≤ integerLimit)
    (lines : ∀ p ∈ problems, ∀ n ∈ p.line, fitsInteger n = true) : ∀ row ∈ rows, row.fits = true := by
  induction problems generalizing position rows with
  | nil =>
      obtain rfl := Option.some.inj written
      nofun
  | cons p rest ih =>
      obtain ⟨row, others, rfl, first, written⟩ := problemRows?_cons written
      rw [List.length_cons] at few
      intro other member
      rcases List.mem_cons.mp member with rfl | member
      · obtain ⟨values, -, rfl⟩ := Option.map_eq_some_iff.mp first
        have line : (p.line.map fitsInteger).getD true = true := by
          cases found : p.line with
          | none => rfl
          | some n => exact lines p List.mem_cons_self n found
        rw [ProblemRow.fits, fitsInteger_natCast (by omega), fitsInteger_natCast p.severity.rank_lt, line]
        rfl
      · exact ih written (by omega) (fun q within => lines q (List.mem_cons_of_mem _ within)) other member

/-- Texts can be written. -/
theorem compact?_texts {values : List Scalar} (texts : ∀ v ∈ values, ∃ s, v = .text s) :
    ∃ line, Json.compact? values = some line := by
  have each : ∃ parts, values.mapM Json.scalarText? = some parts := by
    induction values with
    | nil => exact ⟨[], rfl⟩
    | cons v rest ih =>
        obtain ⟨s, rfl⟩ := texts v List.mem_cons_self
        obtain ⟨parts, written⟩ := ih fun u member => texts u (List.mem_cons_of_mem _ member)
        exact ⟨_, by rw [List.mapM_cons, written]; rfl⟩
  obtain ⟨parts, written⟩ := each
  exact ⟨_, by rw [Json.compact?, written]; rfl⟩

/-- Problems with texts as values can be written. -/
theorem problemRows?_texts (texts : ∀ p ∈ problems, ∀ v ∈ p.values, ∃ s, v = .text s) (path : String)
    (position : Nat) : ∃ rows, problemRows? path position problems = some rows := by
  induction problems generalizing position with
  | nil => exact ⟨[], rfl⟩
  | cons p rest ih =>
      obtain ⟨line, written⟩ := compact?_texts (texts p List.mem_cons_self)
      obtain ⟨rows, others⟩ := ih (fun q member => texts q (List.mem_cons_of_mem _ member)) (position + 1)
      exact ⟨_, by rw [problemRows?, problemRow?, written, others]; rfl⟩

/-! ### Attested records -/

/-- Attested records can be kept. -/
theorem keepable_attested (ordinary : Ordinary occurs) : Keepable (Attested occurs) where
  own attested := attested.own
  preserved attested := attested.preserved
  storable := by
    rintro path record ⟨-, -, data, text, occur, decode, -, examined⟩
    obtain ⟨few, lines⟩ := ordinary.modest occur decode examined
    obtain ⟨rows, written⟩ :=
      problemRows?_texts (fun p member => (worded_run examined p member).texts) path 0
    exact ⟨rows, written, problemRows?_fits written (by omega) lines⟩

/-- An attested record with the fingerprint of a file is the verdict on that file. -/
theorem sound_of_ordinary {σ : Type} {project : Build.Project σ} (ordinary : Ordinary occurs)
    (examiner : project.examine = run) (valid : ∀ n, (project.clock n).Valid)
    (named : project.read path ≠ .error .null)
    (occur : ∀ data, project.read path = .ok data → occurs data) :
    project.Sound (Attested occurs) path where
  named := named
  makes := by
    intro data text problems ticks read decode examined
    rw [examiner] at examined
    exact ⟨rfl, preserved_run (valid ticks) examined, data, text, occur data read, decode, rfl, examined⟩
  binds := by
    rintro record data ⟨own, -, data', text, occur', decode, print, examined⟩ read same
    obtain rfl := ordinary.distinguishes occur' (occur data read) (print.symm.trans same)
    simp only [Build.Project.judge, read, decode, examiner, examined, FileRecord.finding, own, print]

end Docwright
