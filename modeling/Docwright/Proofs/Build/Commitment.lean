import Docwright.Proofs.Build.Current
import Docwright.Proofs.Build.Final
import Docwright.Proofs.Build.Listeners
import Docwright.Proofs.Cache.Glimpse

/-!
# Commitment before announcement

The record of a file is announced last, when everything else about the file is done.
`Announced` fixes the world in which the announcement begins and says what holds there,
whoever listens and whatever the listeners do: the cache holds the record and answers
with it, and a listener that fails can take nothing of this back, since it reaches only
the exchange.  The next time the file is processed is then a hit on the record.

The record is `Committed` from then on: no visit of this file or of another makes
another one of the same content (`Committed.settle`), so what a run has announced or
reported the cache still holds when the run is over (`commit_before_announce`).
-/

namespace Docwright

variable {σ γ : Type}

/-! ### Caches that recall -/

/-- A faithful cache that goes on answering: after a lookup with the same answer, after a store with the
record. -/
structure FileCache.Recalls (cache : FileCache σ) (ledger : Ledger σ) : Prop
    extends cache.Faithful ledger where
  after_lookup : ∀ {path : String} {s s' : σ} {found : Option FileRecord}, ledger.legal s →
    cache.lookup path s = .ok found s' → answer (cache.lookup path s') = .ok found
  after_store : ∀ {path : String} {s s' : σ} {record : FileRecord}, ledger.legal s →
    ledger.fit record → record.path = path → cache.store path record s = .ok () s' →
      answer (cache.lookup path s') = .ok (some record)

namespace FileCache

/-- A steady cache recalls: a lookup leaves it looking the same. -/
theorem Faithful.recalls {cache : FileCache σ} {ledger : Ledger σ} {outlook : Outlook σ γ}
    (faithful : cache.Faithful ledger) (steady : cache.Steady ledger outlook) :
    cache.Recalls ledger where
  toFaithful := faithful
  after_lookup := by
    intro path s s' found legal asked
    have seen := (steady.lookup_seen path legal).2
    rw [asked, endState_ok] at seen
    rw [steady.lookup_answer path (congrFun seen path), asked, answer_ok]
  after_store := steady.store_found

theorem memory_recalls : memory.Recalls Ledger.memory where
  toFaithful := memory_faithful
  after_lookup := by
    rintro path s s' found - ⟨⟩
    rfl
  after_store := by
    rintro path s s' record - - - ⟨⟩
    have there := Memory.lookup_keep s.memory path path record
    rw [if_pos rfl] at there
    exact congrArg Except.ok there

theorem database_recalls {db : Path} (lasting : db.text ≠ ":memory:") :
    (database db).Recalls (Ledger.database db) :=
  (database_faithful lasting).recalls (database_steady lasting)

end FileCache

namespace Exchange

/-- Whether a publication is about a file: its name is one of those that records are announced under. -/
def heralds (publication : Nat × String × Event) : Bool :=
  publication.2.1 == Event.cachedName || publication.2.1 == Event.analyzedName

/-- What was published about files. -/
def heralded (x : Exchange) : List (Nat × String × Event) :=
  x.publications.filter heralds

theorem Logs.heralded {x y : Exchange} (logs : Logs x y) : y.heralded = x.heralded := by
  rw [Exchange.heralded, logs.publications, Exchange.heralded]

end Exchange

namespace Build

open Exchange (Logs)

variable {project : Project σ} {continueOnError hit : Bool} {ledger : Ledger σ} {path q : String}
  {w w' : World σ} {record : FileRecord} {paths : List String} {failure : Failure}

/-! ### Records that stay -/

/-- The cache holds this record of the content of a file. -/
def Committed (project : Project σ) (ledger : Ledger σ) (path : String) (record : FileRecord)
    (s : σ) : Prop :=
  ∃ data, project.read path = .ok data ∧ ledger.kept s path = some record ∧
    record.fingerprint = Digest.fingerprint data

theorem Committed.current {s : σ} (committed : Committed project ledger path record s) :
    Current project ledger path s := by
  obtain ⟨data, read, kept, same⟩ := committed
  exact ⟨data, record, read, kept, same⟩

/-- Of a file whose record is current none is made. -/
theorem Current.not_made (current : Current project ledger path w.store)
    (faithful : project.cache.Faithful ledger) (legal : ledger.legal w.store) :
    settled? project (path, w) ≠ some (record, false) := by
  intro made
  obtain ⟨u, settled⟩ := settled?_eq_some_iff.mp made
  have coming := settling project path w
  rw [settled] at coming
  cases coming with
  | made read lookup stale =>
      rw [(faithful.lookup_ok legal lookup).1] at stale
      exact current.not_stale read stale

/-- A record that is committed stays, whatever file is settled. -/
theorem Committed.settle (committed : Committed project ledger path record w.store)
    (faithful : project.cache.Faithful ledger) (fits : project.Fits ledger)
    (legal : ledger.legal w.store) :
    Committed project ledger path record (endState (settle project q w)).store := by
  have left := leaves q faithful fits legal
  have current := committed.current
  obtain ⟨data, read, kept, same⟩ := committed
  refine ⟨data, read, ?_, same⟩
  by_cases made : ∃ record', settled? project (q, w) = some (record', false)
  · obtain ⟨record', made⟩ := made
    have other : path ≠ q := by
      rintro rfl
      exact current.not_made faithful legal made
    rw [(left.made made).2, Function.update_of_ne other, kept]
  · rw [left.other fun record' anew => made ⟨record', anew⟩, kept]

/-- A record is committed when it is settled. -/
theorem committed_of_settled (faithful : project.cache.Faithful ledger) (fits : project.Fits ledger)
    (legal : ledger.legal w.store) (settled : settled? project (path, w) = some (record, hit)) :
    Committed project ledger path record (endState (settle project path w)).store := by
  cases hit with
  | true =>
      obtain ⟨u, settled⟩ := settled?_eq_some_iff.mp settled
      have coming := settling project path w
      rw [settled] at coming ⊢
      cases coming with
      | hit read lookup same =>
          obtain ⟨there, -, kept⟩ := faithful.lookup_ok legal lookup
          exact ⟨_, read, by rw [endState_ok, kept, there], same⟩
  | false =>
      obtain ⟨⟨data, read, same⟩, kept⟩ := (leaves path faithful fits legal).made settled
      exact ⟨data, read, by rw [kept, Function.update_self], same⟩

/-- Whether a record was settled for a file, with one visit more. -/
def Settled (project : Project σ) (path : String) (record : FileRecord) (visit : String × World σ) :
    Prop :=
  visit.1 = path ∧ ∃ hit, settled? project visit = some (record, hit)

/-- From the visit on that settles a record, the record is committed. -/
theorem committed_threads (path : String) (record : FileRecord) (continueOnError : Bool)
    (paths : List String) (faithful : project.cache.Faithful ledger) (fits : project.Fits ledger)
    (legal : ledger.legal w.store) :
    Threads project continueOnError paths (fun before visit => before ∨ Settled project path record visit)
      (fun w since => ledger.legal w.store ∧ (since → Committed project ledger path record w.store))
      (fun w since => ledger.legal w.store ∧ (since → Committed project ledger path record w.store)) w
      False := by
  refine run_threads_settling _ (fun _ _ _ holds => holds) ?_ w _ ⟨legal, False.elim⟩
  rintro q - w since ⟨legal, committed⟩
  refine ⟨(leaves q faithful fits legal).legal, ?_⟩
  rintro (since | ⟨rfl, hit, settled⟩)
  · exact (committed since).settle faithful fits legal
  · exact committed_of_settled faithful fits legal settled

/-! ### The moment of an announcement -/

/-- The record of a visit is announced in a world: what holds when the announcement begins, and what
comes of it however it ends. -/
structure Announced (project : Project σ) (ledger : Ledger σ) (visit : String × World σ)
    (record : FileRecord) (hit : Bool) (u : World σ) : Prop where
  /-- Processing the file comes to publishing the record in this world, and returning it. -/
  begins : process project visit.1 visit.2 = (do
    onExchange (Exchange.publish project.bus (announcement record hit).name (announcement record hit))
    return (record, hit)) u
  untold : u.exchange.publications = visit.2.exchange.publications
  /-- By then the cache holds the record, and a lookup answers with it. -/
  kept : ledger.kept u.store visit.1 = some record
  found : answer (project.cache.lookup visit.1 u.store) = .ok (some record)
  /-- Either it has been there, or it has just been stored. -/
  origin : if hit then ledger.kept visit.2.store visit.1 = some record
    else ∃ s, project.cache.store visit.1 record s = .ok () u.store
  returned : ∀ {outcome w'}, process project visit.1 visit.2 = .ok outcome w' → outcome = (record, hit)
  /-- The announcement does not reach the cache. -/
  lasts : (endState (process project visit.1 visit.2)).store = u.store
  /-- So the file is found next time, without an examination. -/
  again : ∀ {project' : Project σ} {w' : World σ}, project'.read visit.1 = project.read visit.1 →
    project'.cache = project.cache → w'.store = u.store →
      ∃ s, settle project' visit.1 w' = .ok (record, true) { w' with store := s }

/-- **A record that is settled is announced by a cache that holds it.** -/
theorem announced (recalls : project.cache.Recalls ledger) (fits : project.Fits ledger)
    (legal : ledger.legal w.store) (settled : settled? project (path, w) = some (record, hit)) :
    ∃ u, Announced project ledger (path, w) record hit u := by
  obtain ⟨data, read, kept, same⟩ := committed_of_settled recalls.toFaithful fits legal settled
  obtain ⟨u, settled⟩ := settled?_eq_some_iff.mp settled
  have coming := settling project path w
  obtain ⟨x, ending⟩ := endState_process project path w
  have logs := coming.logs.publications
  rw [settled, endState_ok] at kept ending logs
  rw [settled] at coming
  -- after a hit the same record is still found, after a miss it is the one just kept
  have found : answer (project.cache.lookup path u.store) = .ok (some record) := by
    cases coming with
    | hit read lookup => exact recalls.after_lookup legal lookup
    | made read lookup stale decode examine store =>
        have legal' := (recalls.lookup_ok legal lookup).2.1
        exact recalls.after_store legal' (fits _ _ examine) rfl store
  let entry := if hit then hitEntry path record else missEntry path record
  refine ⟨{ u with exchange := u.exchange.observe (.logged entry) }, ?_, ?_, kept, found, ?_, ?_, ?_, ?_⟩
  · rw [process_ok settled, bind_apply, bind_apply, announce_apply]
  · exact (Logs.observe entry u.exchange).publications.trans logs
  · cases coming with
    | hit read lookup => exact (recalls.lookup_ok legal lookup).1.symm
    | made read lookup stale decode examine store => exact ⟨_, store⟩
  · intro outcome w' done
    exact process_settled settled done
  · rw [ending]
  · intro project' w' read' cache' store'
    have lookup := eq_ok_of_answer found
    rw [← cache'] at lookup
    exact ⟨_, settle_hit (read'.trans read) (by rw [store']; exact lookup) same⟩

/-! ### Stores that fail -/

/-- The store of the record that a visit makes fails. -/
def Unkept (project : Project σ) (visit : String × World σ) (failure : Failure) : Prop :=
  ∃ data text problems found s t, project.read visit.1 = .ok data ∧
    project.cache.lookup visit.1 visit.2.store = .ok found s ∧
    current? (Digest.fingerprint data) found = none ∧ Text.Utf8.decode data = .ok text ∧
    (project.examine visit.1 (String.ofList text)).result = .ok problems ∧
    project.cache.store visit.1 (recordMade project visit.1 data visit.2.ticks problems) s =
      .error failure t

/-- A file whose record cannot be kept is not announced. -/
theorem process_of_unkept (unkept : Unkept project (path, w) failure) :
    ∃ u, process project path w = .error failure u ∧
      u.exchange.publications = w.exchange.publications := by
  obtain ⟨data, text, problems, found, s, t, read, lookup, stale, decode, examine, store⟩ := unkept
  have failed : answer (settle project path w) = .error failure := by
    rw [answer_settle read, Project.settled, lookup, answer_ok]
    simp only [stale, Project.anew, decode, examine, endState_ok, store]
    rfl
  have logs := (settling project path w).logs.publications
  have settled := eq_error_of_answer failed
  rw [settled, endState_error] at logs
  exact ⟨_, process_error settled, logs⟩

/-! ### What a run publishes about files -/

/-- What a visit publishes about its file. -/
def heralds (project : Project σ) (visit : String × World σ) : List (Nat × String × Event) :=
  ((settled? project visit).map fun outcome =>
    (Visit.accepted outcome.1 outcome.2).publication project.bus).toList

theorem heralded_process (project : Project σ) (path : String) (w : World σ) :
    (endState (process project path w)).exchange.heralded =
      w.exchange.heralded ++ heralds project (path, w) := by
  have logs := (settling project path w).logs
  unfold heralds settled?
  cases settled : settle project path w with
  | error failure u =>
      rw [settled, endState_error] at logs
      rw [process_error settled, endState_error, logs.heralded]
      exact (List.append_nil _).symm
  | ok outcome u =>
      obtain ⟨record, hit⟩ := outcome
      rw [settled, endState_ok] at logs
      rw [Exchange.heralded, publications_process settled, List.filter_append, ← logs.heralded]
      cases hit <;> rfl

/-- The announcement of a rejection is not about a file. -/
theorem heralded_visit (continueOnError : Bool) (path : String) (w : World σ) :
    (endState (visit project continueOnError path w)).exchange.heralded =
      w.exchange.heralded ++ heralds project (path, w) := by
  rw [← heralded_process]
  cases processed : process project path w with
  | ok outcome u => rw [visit_of_process processed, endState_ok, endState_ok]
  | error failure u =>
      by_cases unpassed : continueOnError = false ∨ ∀ r, failure ≠ .rejected r
      · rw [visit_unpassed processed unpassed, endState_error, endState_error]
      · simp only [not_or, Classical.not_forall, Classical.not_not, ne_eq] at unpassed
        obtain ⟨passing, r, rfl⟩ := unpassed
        obtain rfl := Bool.of_not_eq_false passing
        have published := Exchange.publications_publish project.bus Event.logName (rejectionEvent r)
          u.exchange
        have silent : (endState (Exchange.publish project.bus Event.logName (rejectionEvent r)
            u.exchange)).heralded = u.exchange.heralded := by
          rw [Exchange.heralded, published, List.filter_append]
          exact List.append_nil _
        rw [visit_of_rejected processed, bind_apply, onExchange, endState_error, ← silent]
        cases Exchange.publish project.bus Event.logName (rejectionEvent r) u.exchange <;> rfl

theorem heralded_run (continueOnError : Bool) (paths : List String) (w : World σ) :
    (endState (run project continueOnError paths w)).exchange.heralded =
      w.exchange.heralded ++ (visits project continueOnError paths w).flatMap (heralds project) := by
  refine @run_appends σ project continueOnError w _ (fun w => w.exchange.heralded) (heralds project)
    paths ?_ ?_
  · intro report w
    exact (Logs.observe (completed report) w.exchange).heralded
  · rintro ⟨path, u⟩ -
    exact heralded_visit continueOnError path u

/-! ### Whole runs -/

/-- What is true of a visit of a run in whose course records are committed before they are announced. -/
structure Commits (project : Project σ) (continueOnError : Bool) (ledger : Ledger σ)
    (paths : List String) (w : World σ) (visit : String × World σ) : Prop where
  /-- A record that is settled is announced when the cache holds it, and is held to the end of the run. -/
  settled : ∀ {record hit}, settled? project visit = some (record, hit) →
    (∃ u, Announced project ledger visit record hit u) ∧
      ledger.kept (endState (run project continueOnError paths w)).store visit.1 = some record
  /-- No other record is reported. -/
  reported : ∀ {outcome}, reported? project continueOnError visit = some outcome →
    settled? project visit = some outcome
  /-- A store that fails is not followed by an announcement; the file and the run fail with it. -/
  unkept : ∀ {failure}, Unkept project visit failure →
    ∃ u, process project visit.1 visit.2 = .error failure u ∧
      u.exchange.publications = visit.2.exchange.publications ∧
      EndsAt project continueOnError paths w visit failure u

theorem kept_run (faithful : project.cache.Faithful ledger) (fits : project.Fits ledger)
    (legal : ledger.legal w.store) {visit : String × World σ}
    (member : visit ∈ visits project continueOnError paths w)
    (settled : settled? project visit = some (record, hit)) :
    ledger.kept (endState (run project continueOnError paths w)).store visit.1 = some record := by
  have ended := (committed_threads visit.1 record continueOnError paths faithful fits legal).endState.2
  rw [foldl_or] at ended
  obtain ⟨data, -, kept, -⟩ := ended (.inr ⟨visit, member, rfl, hit, settled⟩)
  exact kept

theorem settled_of_reported {visit : String × World σ} {outcome : FileRecord × Bool}
    (reported : reported? project continueOnError visit = some outcome) :
    settled? project visit = some outcome := by
  obtain ⟨u, done⟩ := process_of_reported reported
  cases settled : settle project visit.1 visit.2 with
  | error failure v => exact absurd done (process_of_settle_error settled)
  | ok found v =>
      obtain rfl := process_settled settled done
      exact settled?_eq_some_iff.mpr ⟨v, settled⟩

/-- **Records are committed before they are announced.**  At every visit of a run, whoever listens and
however it ends: a record is announced, as found or as made, when the cache holds it and answers with
it, and if a listener fails then, it is still held, and found without an examination the next time; no
announcement follows a store that failed.  What a run publishes about files is what its visits announce
in this way, and a record that it has announced or reported the cache holds when the run is over. -/
theorem commit_before_announce (recalls : project.cache.Recalls ledger) (fits : project.Fits ledger)
    (legal : ledger.legal w.store) :
    (∀ visit ∈ visits project continueOnError paths w,
      Commits project continueOnError ledger paths w visit) ∧
    (endState (run project continueOnError paths w)).exchange.heralded =
      w.exchange.heralded ++ (visits project continueOnError paths w).flatMap (heralds project) ∧
    ∀ report w', run project continueOnError paths w = .ok report w' →
      report.records = (visits project continueOnError paths w).filterMap
        fun visit => (reported? project continueOnError visit).map Prod.fst := by
  have faithful := recalls.toFaithful
  refine ⟨?_, heralded_run continueOnError paths w, ?_⟩
  · intro visit member
    have legal' := legal_visits faithful fits legal visit member
    refine ⟨fun settled => ⟨announced recalls fits legal' settled, ?_⟩, settled_of_reported, ?_⟩
    · exact kept_run faithful fits legal member settled
    · intro failure unkept
      obtain ⟨u, failed, untold⟩ := process_of_unkept unkept
      refine ⟨u, failed, untold, endsAt_of_failed member (visit_unpassed failed (.inr ?_))⟩
      obtain ⟨data, text, problems, found, s, t, read, lookup, stale, decode, examine, store⟩ := unkept
      have legal'' := (faithful.lookup_ok legal' lookup).2.1
      exact (faithful.store_error legal'' store).1
  · intro report w' done
    have records := (run_reports done).records
    rw [Report.empty, List.nil_append, List.map_filterMap] at records
    exact records

/-- A listener fails when the first record is announced, which is kept and found by the next run. -/
theorem commit_before_announce_unwelcome :
    let start := unwelcoming (.listener "no")
    ∃ record u, settled? mixed ("a.py", start) = some (record, false) ∧
      Announced mixed Ledger.memory ("a.py", start) record false u ∧
      (∃ w', process mixed "a.py" start = .error (.listener "no") w') ∧
      (endState (run mixed true ["a.py", "c.py"] start)).store.memory.lookup "a.py" = some record := by
  intro start
  obtain ⟨u', disturbs⟩ := disturbs_unwelcoming (.listener "no")
  have failed := process_of_disturbs disturbs
  have settled : settled? mixed ("a.py", start) =
      some (recordMade mixed "a.py" [] 0 [⟨.error, "%s is empty", [.text "file"], some 1⟩], false) := rfl
  have member : ("a.py", start) ∈ visits mixed true ["a.py", "c.py"] start :=
    visits_unwelcoming true (.listener "no") ["c.py"]
  have commits := (commit_before_announce FileCache.memory_recalls (fun _ _ _ => trivial) trivial).1 _ member
  obtain ⟨⟨u, announced⟩, kept⟩ := commits.settled settled
  exact ⟨_, u, settled, announced, ⟨u', failed⟩, kept⟩

end Build

end Docwright
