import Docwright.Proofs.Build.Judgement

/-!
# Histories of a cache

A history is what happened to one cache: builds and emptyings, one after another.
Each build brings its own project, so between two builds files may be edited,
made and removed, and roots and suffixes may differ; what the builds of a
history share is the state of the cache and the way in which files are examined
(`Episode.Shares`).  Nothing is asked of how a build ends: it may be aborted by a
rejection, by a listener, or by the cache.

`trusted_replay` is the invariant of histories that start from an empty cache.
-/

namespace Docwright.Build

variable {σ : Type}

/-- A build that is to take place: its project and files, and what the exchange and the clock have
come to by then. -/
structure Occasion (σ : Type) where
  project : Project σ
  continueOnError : Bool
  paths : List String
  exchange : Exchange
  ticks : Nat

namespace Occasion

/-- The world in which a build begins. -/
def start (o : Occasion σ) (s : σ) : World σ := ⟨s, o.exchange, o.ticks, []⟩

/-- What comes of a build that begins with the given state of the cache. -/
def run (o : Occasion σ) (s : σ) : EStateM.Result Failure (World σ) Report :=
  Build.run o.project o.continueOnError o.paths (o.start s)

/-- The state in which a build leaves the cache, however it ends. -/
def after (o : Occasion σ) (s : σ) : σ := (endState (o.run s)).store

/-- A content that a build finds at one of its paths. -/
def Reads (o : Occasion σ) (data : List UInt8) : Prop :=
  ∃ path ∈ o.paths, o.project.read path = .ok data

/-- A build shares a cache, and the way of examining files. -/
structure Shares (o : Occasion σ) (ledger : Ledger σ) (examine : Examiner) : Prop where
  faithful : o.project.cache.Faithful ledger
  fits : o.project.Fits ledger
  examine : o.project.examine = examine

end Occasion

/-- What happens to a cache. -/
inductive Episode (σ : Type)
  | build (o : Occasion σ)
  | clear (act : EStateM Failure σ Unit)

namespace Episode

/-- The state in which an episode leaves the cache. -/
def after : Episode σ → σ → σ
  | build o, s => o.after s
  | clear act, s => endState (act s)

/-- A content that an episode finds. -/
def Reads : Episode σ → List UInt8 → Prop
  | build o, data => o.Reads data
  | clear _, _ => False

/-- An episode shares a cache, and the way of examining files. -/
def Shares (ledger : Ledger σ) (examine : Examiner) : Episode σ → Prop
  | build o => o.Shares ledger examine
  | clear act => ledger.Clears act

end Episode

/-- The state of the cache after a history. -/
def replay (history : List (Episode σ)) (s : σ) : σ :=
  history.foldl (fun s episode => episode.after s) s

section

variable {ledger : Ledger σ} {examine : Examiner} {occurs : List UInt8 → Prop}

theorem Trusted.empty {s : σ} (empty : ledger.Empty s) : Trusted ledger examine occurs s where
  legal := empty.legal
  genuine := by
    intro path record held
    rw [empty.kept] at held
    cases held

theorem Occasion.trusted_after {o : Occasion σ} (shares : o.Shares ledger examine)
    (occur : ∀ data, o.Reads data → occurs data) {s : σ}
    (trusted : Trusted ledger examine occurs s) : Trusted ledger examine occurs (o.after s) := by
  obtain ⟨faithful, fits, rfl⟩ := shares
  exact trusted_run (w := o.start s) faithful fits
    (fun path member data read => occur data ⟨path, member, read⟩) trusted

theorem Episode.trusted_after {episode : Episode σ} (shares : episode.Shares ledger examine)
    (occur : ∀ data, episode.Reads data → occurs data) {s : σ}
    (trusted : Trusted ledger examine occurs s) :
    Trusted ledger examine occurs (episode.after s) := by
  cases episode with
  | build o => exact Occasion.trusted_after shares occur trusted
  | clear act =>
      have clears : ledger.Clears act := shares
      change Trusted ledger examine occurs (endState (act s))
      cases run : act s with
      | ok _ s' =>
          obtain ⟨legal, kept⟩ := clears.ok trusted.legal run
          exact .empty ⟨legal, kept⟩
      | error failure s' =>
          obtain ⟨legal, kept⟩ := clears.error trusted.legal run
          rw [endState_error]
          refine ⟨legal, ?_⟩
          rw [kept]
          exact trusted.genuine

/-- A cache that was empty at first is trusted after every history. -/
theorem trusted_replay {history : List (Episode σ)}
    (shares : ∀ episode ∈ history, episode.Shares ledger examine)
    (occur : ∀ episode ∈ history, ∀ data, episode.Reads data → occurs data) {s : σ}
    (trusted : Trusted ledger examine occurs s) :
    Trusted ledger examine occurs (replay history s) := by
  induction history generalizing s with
  | nil => exact trusted
  | cons episode rest ih =>
      refine ih (fun e member => shares e (List.mem_cons_of_mem _ member))
        (fun e member => occur e (List.mem_cons_of_mem _ member)) ?_
      exact Episode.trusted_after (shares episode List.mem_cons_self)
        (occur episode List.mem_cons_self) trusted

end

end Docwright.Build
