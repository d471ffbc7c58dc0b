import Docwright.Proofs.Build.Commitment
import Docwright.Proofs.Build.Final

/-!
# What a run leaves in an empty database

A record that a visit made is held to the end of the run (`kept_run`), and a path of
which no visit made a record looks at the end as it did at the beginning
(`seen_unmade`).  So a database that was empty when a run began holds the records that
its visits made, and no row of any other path in either table (`consists_run`).
-/

namespace Docwright

open Cache.Database (held glimpse Glimpse)

namespace Cache.Database

variable {db : Path} {disk disk' : Disk} {path : String}

/-- A database holds the given records, and of every other path no row in either table. -/
structure Consists (db : Path) (disk : Disk) (records : String → FileRecord → Prop) : Prop where
  found : ∀ {path record}, records path record → held db disk path = .ok (some record)
  nothing : ∀ {path}, (∀ record, ¬ records path record) → glimpse db disk path = .rows (none, []) false

/-- The record that is held is one of what the path sees. -/
theorem held_of_glimpse (same : glimpse db disk path = glimpse db disk' path) :
    held db disk path = held db disk' path := by
  unfold held
  obtain equal | ⟨t, t', first, second, view, -⟩ := glimpse_cases same
  · rw [equal]
  · rw [first, second]
    show t.record? path = t'.record? path
    rw [Tables.record?_eq, Tables.record?_eq, view]

/-- A database that looks the same from every path holds the same. -/
theorem Consists.of_glimpse {records : String → FileRecord → Prop} (consists : Consists db disk records)
    (same : glimpse db disk' = glimpse db disk) : Consists db disk' records where
  found known := (held_of_glimpse (congrFun same _)).trans (consists.found known)
  nothing unknown := (congrFun same _).trans (consists.nothing unknown)

end Cache.Database

namespace Build

variable {σ γ : Type}

/-- One of the visits made a record of a file. -/
def Made (project : Project σ) (visits : List (String × World σ)) (path : String)
    (record : FileRecord) : Prop :=
  ∃ visit ∈ visits, visit.1 = path ∧ settled? project visit = some (record, false)

/-- A path looks as before if no visit of a run made a record of it. -/
theorem seen_unmade {project : Project σ} {continueOnError : Bool} {paths : List String} {w : World σ}
    {ledger : Ledger σ} {outlook : Outlook σ γ} {path : String}
    (steady : project.cache.Steady ledger outlook) (fits : project.Fits ledger)
    (legal : ledger.legal w.store)
    (unmade : ∀ record, ¬ Made project (visits project continueOnError paths w) path record) :
    outlook.seen (endState (run project continueOnError paths w)).store path =
      outlook.seen w.store path := by
  let makes : String × World σ → Prop := fun visit =>
    visit.1 = path ∧ ∃ record, settled? project visit = some (record, false)
  have threads : Threads project continueOnError paths (fun before visit => before ∨ makes visit)
      (fun w' made => ledger.legal w'.store ∧
        (¬ made → outlook.seen w'.store path = outlook.seen w.store path))
      (fun w' made => ledger.legal w'.store ∧
        (¬ made → outlook.seen w'.store path = outlook.seen w.store path)) w False := by
    refine run_threads_settling _ (fun _ _ _ holds => holds) ?_ w False ⟨legal, fun _ => rfl⟩
    rintro q - w' made ⟨legal, same⟩
    have stirred := stirs q steady fits legal
    refine ⟨stirred.legal, fun never => ?_⟩
    obtain ⟨earlier, unmade⟩ := not_or.mp never
    by_cases at_ : path = q
    · have other : ∀ record, settled? project (q, w') ≠ some (record, false) :=
        fun record anew => unmade ⟨at_.symm, record, anew⟩
      rw [(stirred.other other).1, same earlier]
    · rw [stirred.elsewhere path at_, same earlier]
  refine threads.endState.2 ?_
  rw [foldl_or]
  rintro (⟨⟨⟩⟩ | ⟨visit, member, at_, record, anew⟩)
  exact unmade record ⟨visit, member, at_, anew⟩

/-- A cache that stands at the beginning of a run stands at its end. -/
theorem stands_run {project : Project σ} {continueOnError : Bool} {paths : List String} {w : World σ}
    {ledger : Ledger σ} {outlook : Outlook σ γ} (steady : project.cache.Steady ledger outlook)
    (fits : project.Fits ledger) (legal : ledger.legal w.store) (stands : outlook.stands w.store) :
    outlook.stands (endState (run project continueOnError paths w)).store := by
  refine (run_invariant (P := fun w' => ledger.legal w'.store ∧ outlook.stands w'.store)
    (fun _ _ holds => holds) ?_ w ⟨legal, stands⟩).2
  rintro q - w' ⟨legal, stands⟩
  have stirred := stirs q steady fits legal
  exact ⟨stirred.legal, stirred.stands stands⟩

/-- **A run fills an empty database with the records that it makes**, and with nothing else. -/
theorem consists_run {project : Project Storage} {continueOnError : Bool} {paths : List String}
    {w : World Storage} {db : Path} (cached : project.cache = .database db)
    (lasting : db.text ≠ ":memory:") (fits : project.Fits (Ledger.database db))
    (empty : ∀ q, glimpse db w.store.disk q = .rows (none, []) false) :
    Cache.Database.Consists db (endState (run project continueOnError paths w)).store.disk
      (Made project (visits project continueOnError paths w)) := by
  have faithful : project.cache.Faithful (Ledger.database db) := by
    rw [cached]
    exact FileCache.database_faithful lasting
  have steady : project.cache.Steady (Ledger.database db) (Outlook.database db) := by
    rw [cached]
    exact FileCache.database_steady lasting
  have legal : (Ledger.database db).legal w.store := trivial
  constructor
  · rintro path record ⟨visit, member, rfl, made⟩
    exact Ledger.held_of_kept (kept_run faithful fits legal member made)
  · intro path unmade
    exact (seen_unmade steady fits legal unmade).trans (empty path)

end Build

end Docwright
