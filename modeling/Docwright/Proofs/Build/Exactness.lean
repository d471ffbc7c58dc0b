import Docwright.Proofs.Build.Current

/-!
# How exactly a cache is hit

`Occasion.Exact` is what a build does with a cache whose stock is known: which of its
visits hit the cache, what a hit and a miss cost, what they announce and report, and
how often a file is examined in the build and in a later one.

`exact_replay` says that every build is exact that comes after a history of one cache.
It rests on one invariant, that the cache holds what the history has put in stock
(`Stock.Held.replay`), and on the course of a single visit (`processed`).
-/

namespace Docwright.Build

variable {σ : Type}

/-- What a build does with a cache that holds the given stock. -/
structure Occasion.Exact (o : Occasion σ) (ledger : Ledger σ) (stock : Stock) (s : σ) : Prop where
  /-- A visit to a file that can be read hits a cache that answers if and only if the last content that was
  examined and kept has the fingerprint of the content at hand; the record is the one that was kept. -/
  hits : ∀ {before after : List (String × World σ)} {path : String} {w : World σ}
    {data : List UInt8} {found : Option FileRecord} {s' : σ},
    o.visits s = before ++ (path, w) :: after → o.project.read path = .ok data →
      o.project.cache.lookup path w.store = .ok found s' → ∀ record,
        settled? o.project (path, w) = some (record, true) ↔
          ∃ last, before.foldl (Stock.visited o.project) stock path = some (last, record) ∧
            Digest.fingerprint last = Digest.fingerprint data
  /-- A file that cannot be read, decoded, examined or kept leaves the stock as it is. -/
  failures : ∀ {path : String} {w w' : World σ} {failure : Failure} (stock : Stock),
    settle o.project path w = .error failure w' → stock.visited o.project (path, w) = stock
  /-- A hit costs nothing and a miss one timestamp and one examination; both announce the record. -/
  costs : ∀ {path : String} {w : World σ} {record : FileRecord} {hit : Bool},
    settled? o.project (path, w) = some (record, hit) →
      Processed o.project o.continueOnError path w record hit
  /-- The report lists the records of the visits, and counts hits and misses. -/
  reports : ∀ {report : Report} {w : World σ}, o.run s = .ok report w →
    Report.Lists report Report.empty
      ((o.visits s).filterMap (reported? o.project o.continueOnError))
  /-- A file that is visited with success is examined at most once, however often it is listed. -/
  once : ∀ {path : String}, (∃ visit ∈ o.visits s, Succeeds o.project path visit) →
    (endState (o.run s)).examined.count path ≤ 1
  /-- A later build that finds a file unchanged examines it only if this one never took it up, or if every
  time its examination rejected it or the cache failed. -/
  again : ∀ {o' : Occasion σ} {path : String}, o'.Uses ledger →
    o'.project.read path = o.project.read path →
      path ∈ (endState (o'.run (o.after s))).examined → ∀ {w : World σ}, (path, w) ∈ o.visits s →
        ∃ failure w', settle o.project path w = .error failure w' ∧
          ((∃ detail, failure = .rejected ⟨path, detail⟩ ∧ Rejects o.project path detail) ∨
            o.project.cache.Raises failure)

section

variable {ledger : Ledger σ} {stock : Stock} {o : Occasion σ} {s : σ}

/-- Only a record that was settled is put in stock. -/
theorem Stock.visited_failed {project : Project σ} {path : String} {w w' : World σ}
    {failure : Failure} (failed : settle project path w = .error failure w') :
    stock.visited project (path, w) = stock := by
  refine Stock.visited_other fun record made => ?_
  obtain ⟨w'', settled⟩ := settled?_eq_some_iff.mp made
  cases failed.symm.trans settled

/-- A build is exact if the cache holds the stock. -/
theorem Stock.Held.exact (held : stock.Held ledger s) (uses : o.Uses ledger) :
    o.Exact ledger stock s where
  hits split read answered record := by
    have threads : Threads o.project o.continueOnError o.paths _ _ _ (o.start s) stock :=
      Stock.Held.run held uses.faithful uses.fits
    exact (threads.visits split).hit_iff uses.faithful read answered record
  failures _ failed := Stock.visited_failed failed
  costs settled := processed o.continueOnError settled
  reports done := run_reports done
  once succeeds := by
    have few := examined_once (w := o.start s) uses.faithful uses.fits held.legal succeeds
    rwa [Occasion.start, List.count_nil, Nat.zero_add] at few
  again uses' unchanged again _ visited :=
    examined_again uses uses' held.legal unchanged again visited

/-- **Every build is exact**, whatever has happened to the cache since it was empty. -/
theorem exact_replay {history : List (Episode σ)} {first : σ} (empty : ledger.Empty first)
    (uses : ∀ episode ∈ history, episode.Uses ledger) (uses_last : o.Uses ledger) :
    o.Exact ledger (stockAfter history first Stock.empty) (replay history first) :=
  ((Stock.held_empty empty).replay uses).exact uses_last

end

end Docwright.Build
