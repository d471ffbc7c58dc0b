import Docwright.Proofs.Build.Run
import Docwright.Proofs.Cache.Faithful

/-!
# What a build without a cache would say

`Project.judge` is the verdict on one file that uses neither a cache nor a clock:
read, decode, examine.  `Project.course` takes files in order and stops where a
run would stop.

The point of this module is that a run *with* a cache says nothing else
(`foldlM_advance_judged`), provided the cache is `Genuine`: every record that it
holds for a path is the verdict on some content under that very path.  Genuine
caches stay genuine whatever a build does with them, and whatever listeners do
(`trusted_run`), since a record is kept only after its file was examined.

What the verdict leaves out is exactly what a cache may change: the time of the
examination, and whether the record is announced as found or as made
(`Event.gist`).
-/

namespace Docwright

/-- A record without the time of the examination. -/
structure Finding where
  path : String
  fingerprint : String
  problems : List Problem
  deriving DecidableEq, Repr

/-- What a record says of its file. -/
def FileRecord.finding (record : FileRecord) : Finding :=
  ⟨record.path, record.fingerprint, record.problems⟩

/-- What an event says, whether its record was found or made, and whenever. -/
def Event.gist : Event → Finding ⊕ Severity × Message
  | .cached record | .analyzed record => .inl record.finding
  | .log severity message => .inr (severity, message)

namespace Build

open Exchange (Logs)

variable {σ : Type}

/-- What a build without a cache would say of a file. -/
def Project.judge (project : Project σ) (path : String) : Except Failure Finding :=
  match project.read path with
  | .error .null => .error .nullByte
  | .error (.disk fault place) => .error (.rejected ⟨path, fault.describe place⟩)
  | .ok data =>
    match Text.Utf8.decode data with
    | .error fault => .error (.rejected ⟨path, fault.message⟩)
    | .ok text =>
      match (project.examine path (String.ofList text)).result with
      | .error detail => .error (.rejected ⟨path, detail⟩)
      | .ok problems => .ok ⟨path, Digest.fingerprint data, problems⟩

/-- A verdict on a file that does not end a run. -/
inductive Verdict
  | found (finding : Finding)
  | rejected (rejection : Rejection)

namespace Verdict

/-- The finding, if the file was not rejected. -/
def finding? : Verdict → Option Finding
  | found finding => some finding
  | rejected _ => none

/-- The rejection, if the file was rejected. -/
def rejection? : Verdict → Option Rejection
  | found _ => none
  | rejected rejection => some rejection

/-- What the announcement of a verdict says. -/
def gist : Verdict → Finding ⊕ Severity × Message
  | found finding => .inl finding
  | rejected rejection => (rejectionEvent rejection).gist

end Verdict

/-- Verdicts in order, and the failure that ended the run, if one did. -/
structure Course where
  verdicts : List Verdict
  ending : Option Failure

/-- A course with a verdict in front. -/
def Course.after (verdict : Verdict) (course : Course) : Course :=
  ⟨verdict :: course.verdicts, course.ending⟩

/-- The verdicts of a build without a cache on files in order. -/
def Project.course (project : Project σ) (continueOnError : Bool) : List String → Course
  | [] => ⟨[], none⟩
  | path :: rest =>
    match project.judge path with
    | .ok finding => (project.course continueOnError rest).after (.found finding)
    | .error (.rejected r) =>
      if continueOnError then (project.course continueOnError rest).after (.rejected r)
      else ⟨[], some (.rejected r)⟩
    | .error failure => ⟨[], some failure⟩

/-! ### Genuine caches -/

/-- How a project examines files. -/
abbrev Examiner := String → String → Check.Diagnosis

/-- Each record that is kept is the verdict on one of the given contents, under its own path. -/
def Genuine (examine : Examiner) (occurs : List UInt8 → Prop)
    (kept : String → Option FileRecord) : Prop :=
  ∀ {path : String} {record : FileRecord}, kept path = some record →
    record.path = path ∧ ∃ data text, occurs data ∧ Text.Utf8.decode data = .ok text ∧
      record.fingerprint = Digest.fingerprint data ∧
      (examine path (String.ofList text)).result = .ok record.problems

/-- A cache with a genuine record more is genuine. -/
theorem Genuine.update {examine : Examiner} {occurs : List UInt8 → Prop}
    {kept : String → Option FileRecord} (genuine : Genuine examine occurs kept)
    {path : String} {data : List UInt8} {text : List Char} {problems : List Problem}
    (occur : occurs data) (decode : Text.Utf8.decode data = .ok text)
    (result : (examine path (String.ofList text)).result = .ok problems) (time : Timestamp) :
    Genuine examine occurs
      (Function.update kept path (some ⟨path, Digest.fingerprint data, time, problems⟩)) := by
  intro q record held
  by_cases same : q = path
  · subst same
    rw [Function.update_self] at held
    cases held
    exact ⟨rfl, data, text, occur, decode, rfl, result⟩
  · rw [Function.update_of_ne same] at held
    exact genuine held

section

variable {project : Project σ} {ledger : Ledger σ} {occurs : List UInt8 → Prop}
  {path : String} {w : World σ}

/-- The cache of a world may occur, and its records are genuine. -/
structure Trusted (ledger : Ledger σ) (examine : Examiner) (occurs : List UInt8 → Prop)
    (s : σ) : Prop where
  legal : ledger.legal s
  genuine : Genuine examine occurs (ledger.kept s)

/-- Settling a record leaves a trusted cache trusted: it keeps nothing but the verdict on the content
that it read. -/
theorem Settling.trusted {result} (settling : Settling project path w result)
    (faithful : project.cache.Faithful ledger) (fits : project.Fits ledger)
    (occur : ∀ data, project.read path = .ok data → occurs data)
    (trusted : Trusted ledger project.examine occurs w.store) :
    Trusted ledger project.examine occurs (endState result).store := by
  obtain ⟨legal, genuine⟩ := trusted
  cases settling with
  | null | unread => exact ⟨legal, genuine⟩
  | unanswered read lookup logs =>
      obtain ⟨-, legal', same⟩ := faithful.lookup_error legal lookup
      exact ⟨legal', same ▸ genuine⟩
  | hit read lookup | undecoded read lookup | unexamined read lookup =>
      obtain ⟨-, legal', same⟩ := faithful.lookup_ok legal lookup
      exact ⟨legal', same ▸ genuine⟩
  | unkept read lookup stale decode examine store logs =>
      obtain ⟨-, legal', same⟩ := faithful.lookup_ok legal lookup
      obtain ⟨-, legal'', same'⟩ := faithful.store_error legal' store
      exact ⟨legal'', (same'.trans same) ▸ genuine⟩
  | made read lookup stale decode examine store logs =>
      obtain ⟨-, legal', same⟩ := faithful.lookup_ok legal lookup
      obtain ⟨legal'', updated⟩ := faithful.store_ok legal' (fits _ _ examine) rfl store
      refine ⟨legal'', ?_⟩
      rw [endState_ok, updated, same]
      exact genuine.update (occur _ read) decode examine _

/-- Two contents that occur and have one fingerprint are one. -/
def Distinguishes (occurs : List UInt8 → Prop) : Prop :=
  ∀ {a b : List UInt8}, occurs a → occurs b →
    Digest.fingerprint a = Digest.fingerprint b → a = b

/-- A result gives the verdict on a file, or the cache failed. -/
def Judges (project : Project σ) (path : String) :
    EStateM.Result Failure (World σ) (FileRecord × Bool) → Prop
  | .ok (record, _) _ => project.judge path = .ok record.finding
  | .error failure _ => project.judge path = .error failure ∨
      (project.cache.Raises failure ∧ ∀ r, failure ≠ .rejected r)

/-- Settling a record gives the verdict on the file, unless the cache fails. -/
theorem Settling.judges {result} (settling : Settling project path w result)
    (faithful : project.cache.Faithful ledger)
    (occur : ∀ data, project.read path = .ok data → occurs data)
    (distinguishes : Distinguishes occurs)
    (trusted : Trusted ledger project.examine occurs w.store) :
    Judges project path result := by
  obtain ⟨legal, genuine⟩ := trusted
  cases settling with
  | null unread => exact .inl (by simp only [Project.judge, unread])
  | unread unread => exact .inl (by simp only [Project.judge, unread])
  | unanswered read lookup =>
      exact .inr ⟨⟨path, _, _, .inl lookup⟩, (faithful.lookup_error legal lookup).1⟩
  | hit read lookup same =>
      -- the record is the verdict on some content, which has to be the one that was read
      obtain ⟨named, data, text, occur', decode, print, examine⟩ :=
        genuine (faithful.lookup_ok legal lookup).1.symm
      obtain rfl := distinguishes occur' (occur _ read) (print.symm.trans same)
      simp only [Judges, Project.judge, read, decode, examine, FileRecord.finding, named, print]
  | undecoded read lookup stale decode =>
      exact .inl (by simp only [Project.judge, read, decode])
  | unexamined read lookup stale decode examine =>
      exact .inl (by simp only [Project.judge, read, decode, examine])
  | unkept read lookup stale decode examine store =>
      have legal' := (faithful.lookup_ok legal lookup).2.1
      exact .inr ⟨⟨path, _, _, .inr ⟨_, store⟩⟩, (faithful.store_error legal' store).1⟩
  | made read lookup stale decode examine store =>
      simp only [Judges, Project.judge, read, decode, examine, recordMade, FileRecord.finding]

/-- A run leaves a trusted cache trusted, whatever its listeners do and however it ends. -/
theorem trusted_run {continueOnError : Bool} {paths : List String}
    (faithful : project.cache.Faithful ledger) (fits : project.Fits ledger)
    (occur : ∀ path ∈ paths, ∀ data, project.read path = .ok data → occurs data)
    (trusted : Trusted ledger project.examine occurs w.store) :
    Trusted ledger project.examine occurs
      (endState (run project continueOnError paths w)).store :=
  run_invariant (P := fun w => Trusted ledger project.examine occurs w.store)
    (fun _ _ h => h)
    (fun path member w h => (settling project path w).trusted faithful fits (occur path member) h)
    w trusted

/-- Settling a record does nothing to the exchange but write entries of the log. -/
theorem Settling.logs {result} (settling : Settling project path w result) :
    Logs w.exchange (endState result).exchange := by
  cases settling with
  | null | hit => exact Logs.refl _
  | unread _ logs | unanswered _ _ logs | undecoded _ _ _ _ logs | unexamined _ _ _ _ _ logs
  | unkept _ _ _ _ _ _ logs | made _ _ _ _ _ _ logs => exact logs

end

end Build

end Docwright
