import Docwright.Proofs.Build.Conservation

/-!
# What a file leaves that fails

A file that fails leaves the world as it found it, but for the log: no record of any
file has changed in the cache, nothing was published, and a file that was rejected has
not even cost a timestamp (`Undone`).  This is read off the ways out of settling; all
that it asks of a cache is that lookups, and stores that fail, leave its records alone
(`Unspoilt`).

So a run that is brought to an end leaves what the run over the files before leaves
(`Aborted`), and the files behind have no part in it: with any other files behind, and
with any other contents of them, the run is the same.  Where listeners do not fail,
every failure that is not passed over brings a run to its end in this way, and a
failure of the cache is never passed over (`failing_leaves_finished`).
-/

namespace Docwright

/-- Whether an effect is more than an entry of the log. -/
def Effect.isDeed : Effect → Bool
  | .logged _ => false
  | .noted .. | .printed .. | .published .. => true

namespace Exchange

/-- An exchange without the entries of its log. -/
def unlogged (x : Exchange) : Exchange :=
  { x with trace := x.trace.filter Effect.isDeed }

theorem Logs.unlogged {x y : Exchange} (logs : Logs x y) : y.unlogged = x.unlogged := by
  obtain ⟨entries, rfl⟩ := logs
  have silent : (entries.map Effect.logged).filter Effect.isDeed = [] := by
    rw [List.filter_eq_nil_iff]
    rintro effect member
    obtain ⟨entry, -, rfl⟩ := List.mem_map.mp member
    exact Bool.false_ne_true
  rw [Exchange.unlogged, List.filter_append, silent, List.append_nil]
  rfl

end Exchange

namespace Build

open Exchange (Logs)

variable {σ τ : Type} {project project' : Project σ} {continueOnError : Bool} {path : String}
  {w w' : World σ} {view : σ → τ} {failure : Failure} {paths : List String}

/-! ### One file -/

/-- A lookup for a file, and a store of it that fails, leave alone what is seen of the cache. -/
structure Unspoilt (project : Project σ) (view : σ → τ) (visit : String × World σ) : Prop where
  lookup : view (endState (project.cache.lookup visit.1 visit.2.store)) = view visit.2.store
  store : ∀ {record failure s},
    project.cache.store visit.1 record (endState (project.cache.lookup visit.1 visit.2.store)) =
      .error failure s → view s = view visit.2.store

/-- What a file leaves that fails. -/
structure Undone (project : Project σ) (view : σ → τ) (path : String) (failure : Failure)
    (before after : World σ) : Prop where
  /-- The cache has the records that it had. -/
  kept : view after.store = view before.store
  /-- Nothing was published, and nothing else was done on the exchange but to write to the log. -/
  published : after.exchange.publications = before.exchange.publications
  exchange : after.exchange.unlogged = before.exchange.unlogged
  /-- A rejection takes no timestamp. -/
  untimed : ∀ r, failure = .rejected r → ¬ project.cache.Raises failure → after.ticks = before.ticks
  /-- No other file was examined. -/
  examined : after.examined = before.examined ∨ after.examined = before.examined ++ [path]

/-- **Settling a file that fails undoes nothing and does nothing.** -/
theorem Settling.undone (settling : Settling project path w (.error failure w'))
    (unspoilt : Unspoilt project view (path, w)) : Undone project view path failure w w' := by
  have logs := settling.logs
  obtain ⟨looked, stored⟩ := unspoilt
  have published : w'.exchange.publications = w.exchange.publications := logs.publications
  have exchange : w'.exchange.unlogged = w.exchange.unlogged := logs.unlogged
  cases settling with
  | null | unread => exact ⟨rfl, published, exchange, fun _ _ _ => rfl, .inl rfl⟩
  | unanswered read lookup =>
      rw [lookup] at looked
      exact ⟨looked, published, exchange, fun _ _ _ => rfl, .inl rfl⟩
  | undecoded read lookup =>
      rw [lookup] at looked
      exact ⟨looked, published, exchange, fun _ _ _ => rfl, .inl rfl⟩
  | unexamined read lookup =>
      rw [lookup] at looked
      exact ⟨looked, published, exchange, fun _ _ _ => rfl, .inr rfl⟩
  | unkept read lookup stale decode examine store =>
      -- the timestamp is gone by then, but no rejection comes from here
      rw [lookup] at stored
      exact ⟨stored store, published, exchange,
        fun _ _ distinct => absurd ⟨_, _, _, .inr ⟨_, store⟩⟩ distinct, .inr rfl⟩

theorem process_undone (failed : process project path w = .error failure w')
    (heard : Heard project (path, w)) (unspoilt : Unspoilt project view (path, w)) :
    Undone project view path failure w w' := by
  have coming := settling project path w
  rw [settle_of_failed failed heard] at coming
  exact coming.undone unspoilt

/-- A faithful cache is not spoilt by the visits of a run. -/
theorem unspoilt_of_faithful {ledger : Ledger σ} (faithful : project.cache.Faithful ledger)
    (fits : project.Fits ledger) (legal : ledger.legal w.store) :
    ∀ visit ∈ visits project continueOnError paths w, Unspoilt project ledger.kept visit := by
  rintro ⟨path, u⟩ member
  have legal' := legal_visits faithful fits legal _ member
  cases lookup : project.cache.lookup path u.store with
  | ok found s =>
      obtain ⟨-, legal'', same⟩ := faithful.lookup_ok legal' lookup
      refine ⟨by rw [lookup, endState_ok, same], fun {record failure t} store => ?_⟩
      rw [lookup, endState_ok] at store
      exact (faithful.store_error legal'' store).2.2.trans same
  | error failure s =>
      obtain ⟨-, legal'', same⟩ := faithful.lookup_error legal' lookup
      refine ⟨by rw [lookup, endState_error, same], fun {record failure t} store => ?_⟩
      rw [lookup, endState_error] at store
      exact (faithful.store_error legal'' store).2.2.trans same

/-! ### The file at which a run ends -/

/-- Among calm listeners, a visit fails only where processing its file fails in a way that is not passed
over. -/
theorem process_of_visit_failed {calm : Exchange → Prop} (quiet : Exchange.Calm project.bus calm)
    (calmly : calm w.exchange) (failed : visit project continueOnError path w = .error failure w') :
    process project path w = .error failure w' ∧ ∀ r, failure = .rejected r → continueOnError = false := by
  have calmly' := quiet.logs calmly (settling project path w).logs
  cases settled : settle project path w with
  | ok outcome u =>
      obtain ⟨record, hit⟩ := outcome
      rw [settled] at calmly'
      obtain ⟨x, -, -, run⟩ := visit_accepted continueOnError settled quiet calmly'
      rw [run] at failed
      cases failed
  | error failure' u =>
      rw [settled] at calmly'
      obtain ⟨unpassed, run⟩ | ⟨r, x, -, -, -, -, run⟩ :=
        visit_failed_cases continueOnError settled quiet calmly'
      · cases failed.symm.trans run
        refine ⟨process_error settled, fun r same => ?_⟩
        exact unpassed.resolve_right fun other => other r same
      · -- a rejection that is passed over is announced, and nobody fails then
        cases failed.symm.trans run

/-- A run that fails has come to an end over the files before some file, and fails there. -/
theorem foldlM_aborted {report : Report}
    (failed : paths.foldlM (advance project continueOnError) report w = .error failure w') :
    ∃ before path after report' u, paths = before ++ path :: after ∧
      before.foldlM (advance project continueOnError) report w = .ok report' u ∧
      (path, u) ∈ visits project continueOnError paths w ∧
      visit project continueOnError path u = .error failure w' := by
  induction paths generalizing report w with
  | nil => cases failed
  | cons path rest ih =>
      rw [List.foldlM_cons, bind_apply, advance_apply] at failed
      rw [visits]
      cases visited : visit project continueOnError path w with
      | error failure' u =>
          rw [visited] at failed
          cases failed
          exact ⟨[], path, rest, report, w, rfl, rfl, List.mem_cons_self, visited⟩
      | ok outcome u =>
          rw [visited] at failed
          obtain ⟨before, last, after, report', v, rfl, done, member, ended⟩ := ih failed
          refine ⟨path :: before, last, after, report', v, rfl, ?_, List.mem_cons_of_mem _ member, ended⟩
          rw [List.foldlM_cons, bind_apply, advance_apply, visited]
          exact done

/-- A project that is the same as far as the given files are concerned. -/
structure Project.Agrees (project project' : Project σ) (paths : List String) : Prop where
  read : ∀ path ∈ paths, project'.read path = project.read path
  examine : ∀ path ∈ paths, project'.examine path = project.examine path
  cache : project'.cache = project.cache
  bus : project'.bus = project.bus
  clock : project'.clock = project.clock

theorem Project.Agrees.mono {paths' : List String} (agrees : project.Agrees project' paths)
    (within : paths' ⊆ paths) : project.Agrees project' paths' :=
  ⟨fun q member => agrees.read q (within member), fun q member => agrees.examine q (within member),
    agrees.cache, agrees.bus, agrees.clock⟩

theorem settle_agrees (agrees : project.Agrees project' paths) (member : path ∈ paths) (w : World σ) :
    settle project' path w = settle project path w := by
  have timed : now project' = now project := by
    funext w
    rw [now, now, agrees.clock]
  simp only [settle, content, renew, examine, timed, agrees.read path member, agrees.examine path member,
    agrees.cache]

theorem visit_agrees (agrees : project.Agrees project' paths) (member : path ∈ paths) (w : World σ) :
    visit project' continueOnError path w = visit project continueOnError path w := by
  simp only [visit, attempt, process, announce, bind_apply, settle_agrees agrees member, agrees.bus]

theorem foldlM_agrees (agrees : project.Agrees project' paths) (report : Report) (w : World σ) :
    paths.foldlM (advance project' continueOnError) report w =
      paths.foldlM (advance project continueOnError) report w := by
  induction paths generalizing report w with
  | nil => rfl
  | cons path rest ih =>
      have later : project.Agrees project' rest := agrees.mono (List.subset_cons_self _ _)
      rw [List.foldlM_cons, List.foldlM_cons, bind_apply, bind_apply, advance_apply, advance_apply,
        visit_agrees agrees List.mem_cons_self]
      cases visit project continueOnError path w with
      | ok outcome u => exact ih later _ u
      | error failure u => rfl

/-- A run goes no further than to a file that fails. -/
theorem run_of_failed {before : List String} {report : Report} {u : World σ} (rest : List String)
    (done : before.foldlM (advance project continueOnError) Report.empty w = .ok report u)
    (failed : visit project continueOnError path u = .error failure w') :
    run project continueOnError (before ++ path :: rest) w = .error failure w' := by
  rw [run_eq, List.foldlM_append, bind_ok done, List.foldlM_cons, bind_apply, advance_apply, failed]

/-! ### A run -/

/-- How a run ends at a file, and what it leaves. -/
structure Aborted (project : Project σ) (continueOnError : Bool) (view : σ → τ) (paths : List String)
    (w : World σ) (failure : Failure) (w' : World σ) (before : List String) (path : String)
    (after : List String) : Prop where
  split : paths = before ++ path :: after
  /-- The run over the files before comes to its end, and what the whole run leaves is what that run leaves;
  the file at which it ends has added nothing. -/
  finished : ∃ report u, run project continueOnError before w = .ok report u ∧
    Undone project view path failure u w'
  /-- A rejection ends a run only if it is not to be passed over. -/
  unpassed : ∀ r, failure = .rejected r → continueOnError = false
  /-- The run is the same whatever files are behind, and whatever is in them. -/
  unseen : ∀ project' rest, project.Agrees project' (before ++ [path]) →
    run project' continueOnError (before ++ path :: rest) w = .error failure w'

theorem run_aborted {calm : Exchange → Prop} (quiet : Exchange.Calm project.bus calm)
    (calmly : calm w.exchange)
    (unspoilt : ∀ visit ∈ visits project continueOnError paths w, Unspoilt project view visit)
    (failed : run project continueOnError paths w = .error failure w') :
    ∃ before path after, Aborted project continueOnError view paths w failure w' before path after := by
  obtain ⟨before, path, after, report, u, split, done, member, ended⟩ :=
    foldlM_aborted (run_eq_error_iff.mp failed)
  obtain ⟨stopped, unpassed⟩ := process_of_visit_failed quiet (calm_visits quiet calmly _ member) ended
  obtain ⟨kept, published, exchange, untimed, examined⟩ :=
    process_undone stopped (heard_of_calm quiet calmly _ member) (unspoilt _ member)
  have closing : Logs u.exchange (u.exchange.observe (.logged (completed report))) := Logs.observe _ _
  refine ⟨before, path, after, split, ?_, unpassed, fun project' rest agrees => ?_⟩
  · refine ⟨report, { u with exchange := u.exchange.observe (.logged (completed report)) }, ?_, kept, ?_, ?_,
      untimed, examined⟩
    · rw [run_eq, done]
    · rw [published, closing.publications]
    · rw [exchange, closing.unlogged]
  · have agrees' : project.Agrees project' before := agrees.mono (List.subset_append_left _ _)
    refine run_of_failed rest ((foldlM_agrees agrees' Report.empty w).trans done) ?_
    rw [visit_agrees agrees (List.mem_append_right _ (List.mem_singleton.mpr rfl)), ended]

/-- **A file that fails leaves the state of the files before it.**  Among listeners that do not fail, and
with a cache whose lookups and failing stores leave its records alone: processing a file that fails changes
no record and publishes nothing; the run ends with it, unless it is a rejection that is to be passed over;
and a run that ends leaves what the run over the files before leaves. -/
theorem failing_leaves_finished {calm : Exchange → Prop} (quiet : Exchange.Calm project.bus calm)
    (calmly : calm w.exchange)
    (unspoilt : ∀ visit ∈ visits project continueOnError paths w, Unspoilt project view visit) :
    (∀ visit ∈ visits project continueOnError paths w, ∀ failure w',
      process project visit.1 visit.2 = .error failure w' →
        Undone project view visit.1 failure visit.2 w' ∧
        (continueOnError = false ∨ (∀ r, failure ≠ .rejected r) →
          run project continueOnError paths w = .error failure w')) ∧
    ∀ failure w', run project continueOnError paths w = .error failure w' →
      ∃ before path after,
        Aborted project continueOnError view paths w failure w' before path after := by
  refine ⟨fun visit member failure w' failed => ⟨?_, fun unpassed => ?_⟩, fun failure w' failed => ?_⟩
  · exact process_undone failed (heard_of_calm quiet calmly visit member) (unspoilt visit member)
  · obtain ⟨before, after, split⟩ := List.append_of_mem member
    have folded := (foldlM_failed split (visit_unpassed failed unpassed) Report.empty).2
    rw [run_eq, folded]
  · exact run_aborted quiet calmly unspoilt failed

/-! ### A run that its cache ends -/

/-- A project of empty files, one of which cannot be found, with a cache that fails to keep records. -/
def unkeeping : Project Storage := { mixed with cache := .unavailable }

theorem unspoilt_unkeeping (visit : String × World Storage) : Unspoilt unkeeping Storage.memory visit where
  lookup := rfl
  store := by
    rintro record failure s ⟨⟩
    rfl

/-- A file that is rejected is passed over, and the run ends at the next one, which cannot be kept. -/
theorem failing_leaves_finished_unkept :
    ∃ w' before path after,
      run unkeeping true ["b.py", "c.py", "a.py", "b.py"] noted = .error (.cache ⟨.disk, none⟩) w' ∧
      Aborted unkeeping true Storage.memory ["b.py", "c.py", "a.py", "b.py"] noted
        (.cache ⟨.disk, none⟩) w' before path after := by
  have ended : answer (run unkeeping true ["b.py", "c.py", "a.py", "b.py"] noted) =
      .error (.cache ⟨.disk, none⟩) := by
    decide +kernel
  have failed := eq_error_of_answer ended
  have quiet : Exchange.Calm unkeeping.bus fun x =>
      ∀ name, ∀ l ∈ x.listeners 0 name, Listener.Passive l := calm_passive 0
  obtain ⟨before, path, after, aborted⟩ :=
    (failing_leaves_finished quiet passive_noted fun visit _ => unspoilt_unkeeping visit).2 _ _ failed
  exact ⟨_, before, path, after, failed, aborted⟩

end Build

end Docwright
