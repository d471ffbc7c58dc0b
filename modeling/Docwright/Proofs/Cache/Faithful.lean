import Docwright.Build
import Docwright.Proofs.Acts
import Mathlib.Logic.Function.Basic

/-!
# Faithful caches

A `Ledger` reads the state of a cache as a map from paths to records.  A cache is
`Faithful` to a ledger if a lookup that succeeds answers from the map and leaves
it alone, a store that succeeds changes it at one path, and whatever fails
leaves it alone.  Failing is allowed at any time, so that builds which the cache
brings to an end are covered.

A ledger also says which states a cache may be in and which records it is able
to hold; a cache in a memory asks nothing of either, and one in a database nothing of
its states.
-/

namespace Docwright

variable {σ : Type}

/-- How the state of a cache is read: whether it may occur, which records fit into it, and the record
that it holds for each path. -/
structure Ledger (σ : Type) where
  legal : σ → Prop
  fit : FileRecord → Prop
  kept : σ → String → Option FileRecord

/-- A cache that is a store of records by path, as a ledger reads it. -/
structure FileCache.Faithful (cache : FileCache σ) (ledger : Ledger σ) : Prop where
  lookup_ok : ∀ {path : String} {s s' : σ} {found : Option FileRecord}, ledger.legal s →
    cache.lookup path s = .ok found s' →
      found = ledger.kept s path ∧ ledger.legal s' ∧ ledger.kept s' = ledger.kept s
  lookup_error : ∀ {path : String} {s s' : σ} {failure : Failure}, ledger.legal s →
    cache.lookup path s = .error failure s' →
      (∀ r, failure ≠ .rejected r) ∧ ledger.legal s' ∧ ledger.kept s' = ledger.kept s
  store_ok : ∀ {path : String} {s s' : σ} {record : FileRecord}, ledger.legal s →
    ledger.fit record → record.path = path → cache.store path record s = .ok () s' →
      ledger.legal s' ∧ ledger.kept s' = Function.update (ledger.kept s) path (some record)
  store_error : ∀ {path : String} {s s' : σ} {record : FileRecord} {failure : Failure},
    ledger.legal s → cache.store path record s = .error failure s' →
      (∀ r, failure ≠ .rejected r) ∧ ledger.legal s' ∧ ledger.kept s' = ledger.kept s

/-- The failures that a cache can give. -/
def FileCache.Raises (cache : FileCache σ) (failure : Failure) : Prop :=
  ∃ path s s', cache.lookup path s = .error failure s' ∨
    ∃ record, cache.store path record s = .error failure s'

/-- An act empties a cache, or fails and leaves it alone. -/
structure Ledger.Clears (ledger : Ledger σ) (act : EStateM Failure σ Unit) : Prop where
  ok : ∀ {s s' : σ}, ledger.legal s → act s = .ok () s' →
    ledger.legal s' ∧ ledger.kept s' = fun _ => none
  error : ∀ {s s' : σ} {failure : Failure}, ledger.legal s → act s = .error failure s' →
    ledger.legal s' ∧ ledger.kept s' = ledger.kept s

/-- A cache that may occur and holds nothing. -/
structure Ledger.Empty (ledger : Ledger σ) (s : σ) : Prop where
  legal : ledger.legal s
  kept : ledger.kept s = fun _ => none

/-- Whatever a project makes of a file fits into the ledger. -/
def Build.Project.Fits (project : Build.Project σ) (ledger : Ledger σ) : Prop :=
  ∀ {path source : String} {problems : List Problem} (fingerprint : String) (ticks : Nat),
    (project.examine path source).result = .ok problems →
      ledger.fit ⟨path, fingerprint, project.clock ticks, problems⟩

/-! ### Memories -/

namespace Memory

/-- What is found in a memory after a record was kept in it. -/
theorem lookup_keep (m : Memory) (path q : String) (record : FileRecord) :
    (m.keep path record).lookup q = if q = path then some record else m.lookup q := by
  induction m with
  | nil =>
      rw [keep]
      grind
  | cons entry rest ih =>
      obtain ⟨p, r⟩ := entry
      rw [keep]
      by_cases first : p = path <;> grind

end Memory

/-- A memory read as a map. -/
def Ledger.memory : Ledger Storage where
  legal _ := True
  fit _ := True
  kept s path := s.memory.lookup path

namespace FileCache

theorem memory_faithful : memory.Faithful Ledger.memory where
  lookup_ok := by
    rintro path s s' found - ⟨⟩
    exact ⟨rfl, trivial, rfl⟩
  lookup_error := by
    rintro path s s' failure - ⟨⟩
  store_ok := by
    rintro path s s' record - - - ⟨⟩
    refine ⟨trivial, ?_⟩
    funext q
    rw [Function.update_apply]
    exact Memory.lookup_keep s.memory path q record
  store_error := by
    rintro path s s' record failure - ⟨⟩

/-- A memory does not fail. -/
theorem memory_unfailing (failure : Failure) : ¬ memory.Raises failure := by
  rintro ⟨path, s, s', asked | ⟨record, kept⟩⟩
  · have answered : memory.lookup path s = .ok (s.memory.lookup path) s := rfl
    rw [answered] at asked
    cases asked
  · cases kept

end FileCache

end Docwright
