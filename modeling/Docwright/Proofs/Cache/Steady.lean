import Docwright.Proofs.Cache.Faithful
import Docwright.Proofs.Build.Judgement

/-!
# Steady caches

What a faithful cache answers depends on its records, but whether it answers at all
need not.  `FileCache.Steady` says what a cache does in full, in terms of what can be
seen of it from one path: two states that look the same from a path answer lookups
of it alike, and fail alike, and refuse or take the same findings.

A cache that has been opened `stands`: from then on a lookup changes nothing at all
of its state, and neither does a store that fails.  This is stronger than leaving
alone what can be seen, and it is what makes a build repeatable to the last file of
the disk.
-/

namespace Docwright

variable {σ γ : Type}

/-- How the state of a cache looks: what can be seen of it from each path, and whether it stands. -/
structure Outlook (σ γ : Type) where
  seen : σ → String → γ
  stands : σ → Prop

/-- A cache of which everything that matters can be seen from the path that is asked for. -/
structure FileCache.Steady (cache : FileCache σ) (ledger : Ledger σ) (outlook : Outlook σ γ) :
    Prop where
  lookup_answer : ∀ (path : String) {s s' : σ}, outlook.seen s path = outlook.seen s' path →
    answer (cache.lookup path s) = answer (cache.lookup path s')
  lookup_seen : ∀ (path : String) {s : σ}, ledger.legal s →
    ledger.legal (endState (cache.lookup path s)) ∧
      outlook.seen (endState (cache.lookup path s)) = outlook.seen s
  lookup_stands : ∀ {path : String} {s s' : σ} {found : Option FileRecord}, ledger.legal s →
    cache.lookup path s = .ok found s' → outlook.stands s'
  lookup_still : ∀ (path : String) {s : σ}, outlook.stands s →
    endState (cache.lookup path s) = s
  store_answer : ∀ {path : String} {s s' : σ} {record record' : FileRecord},
    outlook.seen s path = outlook.seen s' path → record.finding = record'.finding →
      answer (cache.store path record s) = answer (cache.store path record' s')
  store_ok : ∀ {path : String} {s s' : σ} {record : FileRecord}, ledger.legal s →
    cache.store path record s = .ok () s' →
      ledger.legal s' ∧ outlook.stands s' ∧ ∀ q ≠ path, outlook.seen s' q = outlook.seen s q
  store_found : ∀ {path : String} {s s' : σ} {record : FileRecord}, ledger.legal s →
    ledger.fit record → record.path = path → cache.store path record s = .ok () s' →
      answer (cache.lookup path s') = .ok (some record)
  store_error : ∀ {path : String} {s s' : σ} {record : FileRecord} {failure : Failure},
    ledger.legal s → cache.store path record s = .error failure s' →
      ledger.legal s' ∧ outlook.seen s' = outlook.seen s ∧ (outlook.stands s → s' = s)

end Docwright
