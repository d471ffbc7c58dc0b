import Docwright.Proofs.Build.History
import Docwright.Proofs.Build.Visits

/-!
# When a cache is hit

A `Stock` says, for each path, which content was kept last and with which record.
It is read off a history alone (`stockAfter`): a visit that made a record puts it
there, an emptying that succeeded leaves nothing, and whatever else happens leaves
the stock alone, in particular files that could not be read, decoded or examined,
records that could not be kept, and builds that were aborted.

`Stock.Held` is the invariant: what a faithful cache holds is what is in stock.  So
a visit hits the cache exactly where the content in stock has the fingerprint of
the content at hand (`hit_iff`), and the record is then the one in stock.
-/

namespace Docwright.Build

variable {σ : Type}

/-- For each path, the content whose record was kept last, and that record. -/
abbrev Stock := String → Option (List UInt8 × FileRecord)

namespace Stock

/-- Nothing at all. -/
def empty : Stock := fun _ => none

/-- The stock after a visit: a record that was made and kept takes the place of the one before. -/
def visited (project : Project σ) (stock : Stock) (visit : String × World σ) : Stock :=
  match project.read visit.1, settled? project visit with
  | .ok data, some (record, false) => Function.update stock visit.1 (some (data, record))
  | _, _ => stock

/-- A cache holds the records in stock, and each of them has the fingerprint of its content. -/
structure Held (stock : Stock) (ledger : Ledger σ) (s : σ) : Prop where
  legal : ledger.legal s
  kept : ∀ path, ledger.kept s path = (stock path).map Prod.snd
  printed : ∀ {path : String} {data : List UInt8} {record : FileRecord},
    stock path = some (data, record) → record.fingerprint = Digest.fingerprint data

end Stock

/-- The visits of a build that begins with the given state of the cache. -/
def Occasion.visits (o : Occasion σ) (s : σ) : List (String × World σ) :=
  Build.visits o.project o.continueOnError o.paths (o.start s)

/-- A build works with a faithful cache that is able to hold its records. -/
structure Occasion.Uses (o : Occasion σ) (ledger : Ledger σ) : Prop where
  faithful : o.project.cache.Faithful ledger
  fits : o.project.Fits ledger

namespace Episode

/-- The stock after an episode. -/
def stock : Episode σ → σ → Stock → Stock
  | build o, s, stock => (o.visits s).foldl (Stock.visited o.project) stock
  | clear act, s, stock =>
    match act s with
    | .ok _ _ => Stock.empty
    | .error _ _ => stock

/-- An episode works with a cache as a ledger reads it. -/
def Uses (ledger : Ledger σ) : Episode σ → Prop
  | build o => o.Uses ledger
  | clear act => ledger.Clears act

end Episode

/-- The stock after a history. -/
def stockAfter : List (Episode σ) → σ → Stock → Stock
  | [], _, stock => stock
  | episode :: rest, s, stock => stockAfter rest (episode.after s) (episode.stock s stock)

section

variable {project : Project σ} {continueOnError : Bool} {ledger : Ledger σ} {path : String}
  {w : World σ} {stock : Stock}

/-! ### The stock is what the cache holds -/

/-- Only a record that was made changes the stock. -/
theorem Stock.visited_other (other : ∀ record, settled? project (path, w) ≠ some (record, false)) :
    stock.visited project (path, w) = stock := by
  unfold Stock.visited
  split
  · next record _ settled => exact absurd settled (other record)
  · rfl

theorem Stock.visited_made {data : List UInt8} {record : FileRecord}
    (read : project.read path = .ok data) (made : settled? project (path, w) = some (record, false)) :
    stock.visited project (path, w) = Function.update stock path (some (data, record)) := by
  unfold Stock.visited
  rw [read, made]

theorem Stock.Held.of_kept {s s' : σ} (held : stock.Held ledger s) (legal : ledger.legal s')
    (same : ledger.kept s' = ledger.kept s) : stock.Held ledger s' :=
  ⟨legal, by rw [same]; exact held.kept, held.printed⟩

theorem Stock.held_empty {s : σ} (empty : ledger.Empty s) : Stock.empty.Held ledger s where
  legal := empty.legal
  kept path := by
    rw [empty.kept]
    rfl
  printed there := by cases there

/-- Settling a file keeps the cache in agreement with the stock. -/
theorem Stock.Held.settle (held : stock.Held ledger w.store)
    (faithful : project.cache.Faithful ledger) (fits : project.Fits ledger) :
    (stock.visited project (path, w)).Held ledger (endState (settle project path w)).store := by
  have left := leaves path faithful fits held.legal
  by_cases made : ∃ record, settled? project (path, w) = some (record, false)
  · obtain ⟨record, made⟩ := made
    obtain ⟨⟨data, read, print⟩, updated⟩ := left.made made
    rw [Stock.visited_made read made]
    refine ⟨left.legal, fun q => ?_, fun {q data' record'} there => ?_⟩
    · rw [updated, Function.update_apply, Function.update_apply]
      split
      · rfl
      · exact held.kept q
    · rw [Function.update_apply] at there
      split at there
      · cases there
        exact print
      · exact held.printed there
  · have other : ∀ record, settled? project (path, w) ≠ some (record, false) :=
      fun record same => made ⟨record, same⟩
    rw [Stock.visited_other other]
    exact held.of_kept left.legal (left.other other)

/-- The cache agrees with the stock at every visit of a run, and at its end. -/
theorem Stock.Held.run {paths : List String} (held : stock.Held ledger w.store)
    (faithful : project.cache.Faithful ledger) (fits : project.Fits ledger) :
    Threads project continueOnError paths (Stock.visited project)
      (fun w stock => stock.Held ledger w.store) (fun w stock => stock.Held ledger w.store) w stock :=
  run_threads_settling _ (fun _ _ _ held => held)
    (fun _ _ _ _ held => held.settle faithful fits) w stock held

theorem Stock.Held.after {episode : Episode σ} {s : σ} (held : stock.Held ledger s)
    (uses : episode.Uses ledger) : (episode.stock s stock).Held ledger (episode.after s) := by
  cases episode with
  | build o => exact (Stock.Held.run (w := o.start s) held uses.faithful uses.fits).endState
  | clear act =>
      have clears : ledger.Clears act := uses
      show Stock.Held (match act s with | .ok _ _ => Stock.empty | .error _ _ => stock) ledger
        (endState (act s))
      cases run : act s with
      | ok _ s' =>
          obtain ⟨legal, kept⟩ := clears.ok held.legal run
          exact Stock.held_empty ⟨legal, kept⟩
      | error failure s' =>
          obtain ⟨legal, kept⟩ := clears.error held.legal run
          exact held.of_kept legal kept

/-- **What a cache holds after a history is what is in stock.** -/
theorem Stock.Held.replay {history : List (Episode σ)} {s : σ} (held : stock.Held ledger s)
    (uses : ∀ episode ∈ history, episode.Uses ledger) :
    (stockAfter history s stock).Held ledger (Build.replay history s) := by
  induction history generalizing s stock with
  | nil => exact held
  | cons episode rest ih =>
      exact ih (held.after (uses episode List.mem_cons_self))
        fun e member => uses e (List.mem_cons_of_mem _ member)

/-! ### Hits -/

/-- Where the cache answers, it is hit exactly if its record has the fingerprint of the content. -/
theorem settled?_hit_iff {data : List UInt8} {found : Option FileRecord} {s : σ}
    (read : project.read path = .ok data)
    (answered : project.cache.lookup path w.store = .ok found s) (record : FileRecord) :
    settled? project (path, w) = some (record, true) ↔
      found = some record ∧ record.fingerprint = Digest.fingerprint data := by
  rw [settled?_eq_some_iff]
  constructor
  · rintro ⟨w', settled⟩
    have coming := settling project path w
    rw [settled] at coming
    cases coming with
    | hit read' lookup same =>
        obtain rfl := Except.ok.inj (read.symm.trans read')
        cases answered.symm.trans lookup
        exact ⟨rfl, same⟩
  · rintro ⟨rfl, same⟩
    exact ⟨_, settle_hit read answered same⟩

/-- **When a cache is hit.**  A visit hits a cache that answers exactly if the last content of the file
that was examined and kept since the last emptying has the fingerprint of the content at hand; the record
is then the one that was kept of it. -/
theorem Stock.Held.hit_iff (held : stock.Held ledger w.store)
    (faithful : project.cache.Faithful ledger) {data : List UInt8} {found : Option FileRecord}
    {s : σ} (read : project.read path = .ok data)
    (answered : project.cache.lookup path w.store = .ok found s) (record : FileRecord) :
    settled? project (path, w) = some (record, true) ↔
      ∃ last, stock path = some (last, record) ∧
        Digest.fingerprint last = Digest.fingerprint data := by
  rw [settled?_hit_iff read answered, (faithful.lookup_ok held.legal answered).1, held.kept,
    Option.map_eq_some_iff]
  constructor
  · rintro ⟨⟨⟨last, record⟩, there, rfl⟩, same⟩
    exact ⟨last, there, (held.printed there).symm.trans same⟩
  · rintro ⟨last, there, same⟩
    exact ⟨⟨(last, record), there, rfl⟩, (held.printed there).trans same⟩

end

end Docwright.Build
