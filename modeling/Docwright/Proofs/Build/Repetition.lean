import Docwright.Proofs.Build.Final
import Docwright.Proofs.Exchange.Parallel

/-!
# Repeating a run

A run is repeated with the cache that it left, over the same contents and with any
clock.  Every visit of the second run then comes to what it came to in the first
run, except that a record that was made there is found here (`settle_again`), and a
run comes to the same report, with every record found (`run_again`).

The argument looks ahead: what the second run sees for a file is what the first
run left for it at its very end, and `seen_final` says that this is what the visit
of the file left.  The first run may fail at any point; then the second one fails
there as well, with the same failure.
-/

namespace Docwright

/-- A visit whose record, if there is one, was found. -/
def Visit.found : Visit → Visit
  | accepted record _ => accepted record true
  | rejected r => rejected r

/-- A report of the same, with every record found. -/
def Report.found (report : Report) : Report :=
  ⟨report.records, report.failures, report.records.length, 0⟩

theorem Report.found_add (report : Report) (v : Visit) :
    (report.add v).found = report.found.add v.found := by
  cases v with
  | rejected r => rfl
  | accepted record hit =>
      simp only [Report.add, Report.accept, Report.found, Visit.found, List.length_append,
        List.length_singleton, if_true]

end Docwright

namespace Docwright.Build

open Exchange (Act Logs)

variable {σ γ : Type}

section

variable {project project' : Project σ} {continueOnError : Bool} {path : String} {w w' : World σ}
  {ledger : Ledger σ} {outlook : Outlook σ γ}

/-! ### A file settled again -/

/-- A project that builds the same files with the same cache, at other times. -/
structure Project.Alike (project project' : Project σ) (paths : List String) : Prop where
  read : ∀ path ∈ paths, project'.read path = project.read path
  examine : project'.examine = project.examine
  cache : project'.cache = project.cache
  bus : project'.bus = project.bus

/-- Two states of a cache look the same from a file, as far as that can be read. -/
def LooksSame (project : Project σ) (outlook : Outlook σ γ) (path : String) (s s' : σ) : Prop :=
  ∀ data, project.read path = .ok data → outlook.seen s' path = outlook.seen s path

/-- **Settling a file again comes to the same**, except that a record which was made is now found. -/
theorem settle_again (steady : project.cache.Steady ledger outlook) (fits : project.Fits ledger)
    (alike : project.Alike project' [path]) (legal : ledger.legal w.store)
    (legal' : ledger.legal w'.store)
    (seen : LooksSame project outlook path (endState (settle project path w)).store w'.store) :
    answer (settle project' path w') =
      (answer (settle project path w)).map fun outcome => (outcome.1, true) := by
  have stirred := stirs path steady fits legal
  have read' := alike.read path (List.mem_singleton.mpr rfl)
  -- where no record was made, the cache answers as it did then
  have answers : ∀ data, project.read path = .ok data →
      (∀ record, settled? project (path, w) ≠ some (record, false)) →
        answer (project.cache.lookup path w'.store) = answer (project.cache.lookup path w.store) :=
    fun data read other =>
      steady.lookup_answer path ((seen data read).trans (congrFun (stirred.other other).1 path))
  have coming := settling project path w
  unfold settled? at stirred answers
  generalize settle project path w = result at coming stirred seen answers
  cases coming with
  | null unread | unread unread =>
      rw [unread] at read'
      rw [answer_settle_unread read']
      rfl
  | unanswered read lookup =>
      rw [answer_settle (read'.trans read), Project.settled, alike.cache, answers _ read (by rintro _ ⟨⟩), lookup]
      rfl
  | hit read lookup same =>
      rw [answer_settle (read'.trans read), Project.settled, alike.cache, answers _ read (by rintro _ ⟨⟩), lookup]
      simp only [answer_ok, current?_of_same same, Except.map]
  | undecoded read lookup stale decode =>
      rw [answer_settle (read'.trans read), Project.settled, alike.cache, answers _ read (by rintro _ ⟨⟩), lookup]
      simp only [answer_ok, answer_error, stale, Project.anew, decode, Except.map]
  | unexamined read lookup stale decode examine =>
      rw [answer_settle (read'.trans read), Project.settled, alike.cache, answers _ read (by rintro _ ⟨⟩), lookup]
      simp only [answer_ok, answer_error, stale, Project.anew, decode, alike.examine, examine,
        Except.map]
  | @unkept data found s t x text problems failure read lookup stale decode examine store =>
      have begun := steady.lookup_seen path legal
      rw [lookup, endState_ok] at begun
      -- the cache is asked again, and again it does not keep the record
      let s' := endState (project.cache.lookup path w'.store)
      have seen' : outlook.seen s' path = outlook.seen s path := by
        rw [(steady.lookup_seen path legal').2, seen data read]
        exact congrFun (steady.store_error begun.1 store).2.1 path
      have stores : answer (project.cache.store path
          (recordMade project' path data w'.ticks problems) s') = .error failure := by
        rw [← answer_error (α := Unit) failure t, ← store]
        exact steady.store_answer seen' rfl
      rw [answer_settle (read'.trans read), Project.settled, alike.cache, answers _ read (by rintro _ ⟨⟩), lookup]
      simp only [answer_ok, answer_error, stale, Project.anew, decode, alike.examine, examine,
        alike.cache, stores, s', Except.map]
  | @made data found s t x text problems read lookup stale decode examine store =>
      have answers' : answer (project.cache.lookup path w'.store) =
          .ok (some (recordMade project path data w.ticks problems)) :=
        (steady.lookup_answer path (seen data read)).trans (stirred.found rfl)
      have current : current? (Digest.fingerprint data)
          (some (recordMade project path data w.ticks problems)) = some _ := current?_of_same rfl
      rw [answer_settle (read'.trans read), Project.settled, alike.cache, answers']
      simp only [answer_ok, current, Except.map]

/-! ### A visit repeated -/

/-- Steps with the same outcome, up to what was found in the second one, that leave exchanges which are
alike. -/
inductive Repeats {α : Type} (alike : Exchange → Exchange → Prop) (found : α → α) :
    EStateM.Result Failure (World σ) α → EStateM.Result Failure (World σ) α → Prop
  | ok {a : α} {w w' : World σ} (exchanges : alike w.exchange w'.exchange) :
      Repeats alike found (.ok a w) (.ok (found a) w')
  | error {failure : Failure} {w w' : World σ} (exchanges : alike w.exchange w'.exchange) :
      Repeats alike found (.error failure w) (.error failure w')

variable {alike : Exchange → Exchange → Prop}

theorem Repeats.of_ok {α : Type} {found : α → α} {a : α} {result : EStateM.Result Failure (World σ) α}
    (repeats : Repeats alike found (.ok a w) result) :
    ∃ w', result = .ok (found a) w' ∧ alike w.exchange w'.exchange := by
  cases repeats with
  | ok exchanges => exact ⟨_, rfl, exchanges⟩

theorem Repeats.of_error {α : Type} {found : α → α} {failure : Failure}
    {result : EStateM.Result Failure (World σ) α} (repeats : Repeats alike found (.error failure w) result) :
    ∃ w', result = .error failure w' ∧ alike w.exchange w'.exchange := by
  cases repeats with
  | error exchanges => exact ⟨_, rfl, exchanges⟩

/-- In sequence: the second steps may use what the first ones gave. -/
theorem Repeats.bind {α β : Type} {found : α → α} {found' : β → β} {act act' : Step σ α}
    {next next' : α → Step σ β} (first : Repeats alike found (act w) (act' w'))
    (second : ∀ (a : α) (w w' : World σ), alike w.exchange w'.exchange →
      Repeats alike found' (next a w) (next' (found a) w')) :
    Repeats alike found' ((act >>= next) w) ((act' >>= next') w') := by
  rw [bind_apply, bind_apply]
  revert first
  generalize act w = result
  generalize act' w' = result'
  intro first
  cases first with
  | ok exchanges => exact second _ _ _ exchanges
  | error exchanges => exact .error exchanges

theorem repeats_onExchange {act act' : Act Unit} (twin : Twin alike act act')
    (exchanges : alike w.exchange w'.exchange) :
    Repeats alike id (onExchange act w) (onExchange act' w') := by
  have both := twin exchanges
  unfold onExchange
  revert both
  cases act w.exchange with
  | ok _ x =>
      cases act' w'.exchange with
      | ok _ y => exact fun alike => .ok alike
      | error failure y => exact False.elim
  | error failure x =>
      cases act' w'.exchange with
      | ok _ y => exact False.elim
      | error failure' y =>
          rintro ⟨rfl, alike⟩
          exact .error alike

/-- A record is announced, and announced again as one that was found. -/
theorem announce_again (parallel : Exchange.Parallel project.bus alike)
    (bus : project'.bus = project.bus) (record : FileRecord) (hit : Bool)
    (exchanges : alike w.exchange w'.exchange) :
    Repeats alike id (announce project path record hit w) (announce project' path record true w') := by
  rw [announce_apply, announce_apply, bus]
  refine repeats_onExchange (parallel.announcement record hit) ?_
  exact parallel.logs exchanges (Logs.observe _ _) (Logs.observe _ _)

/-- A file is taken through the build again. -/
theorem process_again (steady : project.cache.Steady ledger outlook) (fits : project.Fits ledger)
    (parallel : Exchange.Parallel project.bus alike) (same : project.Alike project' [path])
    (legal : ledger.legal w.store) (legal' : ledger.legal w'.store)
    (seen : LooksSame project outlook path (endState (settle project path w)).store w'.store)
    (exchanges : alike w.exchange w'.exchange) :
    Repeats alike (fun outcome => (outcome.1, true)) (process project path w)
      (process project' path w') := by
  have again := settle_again steady fits same legal legal' seen
  have logs := (settling project path w).logs
  have logs' := (settling project' path w').logs
  have exchanges' := parallel.logs exchanges logs logs'
  cases settled : settle project path w with
  | error failure w₁ =>
      rw [settled] at again exchanges'
      rw [process_error settled, process_error (eq_error_of_answer again)]
      exact .error exchanges'
  | ok outcome w₁ =>
      obtain ⟨record, hit⟩ := outcome
      rw [settled] at again exchanges'
      rw [process_ok settled, process_ok (eq_ok_of_answer again)]
      exact (announce_again parallel same.bus record hit exchanges').bind
        fun _ _ _ exchanges => .ok exchanges

/-- **A file is visited again.** -/
theorem visit_again (continueOnError : Bool) (steady : project.cache.Steady ledger outlook) (fits : project.Fits ledger)
    (parallel : Exchange.Parallel project.bus alike) (same : project.Alike project' [path])
    (legal : ledger.legal w.store) (legal' : ledger.legal w'.store)
    (seen : LooksSame project outlook path (endState (settle project path w)).store w'.store)
    (exchanges : alike w.exchange w'.exchange) :
    Repeats alike Visit.found (visit project continueOnError path w)
      (visit project' continueOnError path w') := by
  have again := process_again steady fits parallel same legal legal' seen exchanges
  have attempts : Repeats alike Visit.found (attempt project path w) (attempt project' path w') := by
    unfold attempt
    revert again
    generalize process project path w = result
    generalize process project' path w' = result'
    intro again
    cases again with
    | ok exchanges => exact .ok exchanges
    | @error failure _ _ exchanges =>
        cases failure with
        | rejected r => exact Repeats.ok (a := Visit.rejected r) exchanges
        | _ => exact .error exchanges
  unfold visit
  rw [same.bus]
  refine attempts.bind fun v w₁ w₁' exchanges => ?_
  cases v with
  | accepted record hit => exact Repeats.ok (a := Visit.accepted record hit) exchanges
  | rejected r =>
      cases continueOnError with
      | false => exact .error exchanges
      | true =>
          exact (repeats_onExchange (parallel.rejection r) exchanges).bind
            fun _ _ _ exchanges => Repeats.ok (a := Visit.rejected r) exchanges

/-! ### A run repeated -/

theorem Project.Alike.mono {paths paths' : List String} (same : project.Alike project' paths)
    (within : paths' ⊆ paths) : project.Alike project' paths' :=
  ⟨fun q member => same.read q (within member), same.examine, same.cache, same.bus⟩

/-- A visit that goes on does not change the cache when it is repeated, if the cache stands by then. -/
theorem settle_again_still (faithful : project.cache.Faithful ledger)
    (steady : project.cache.Steady ledger outlook) (fits : project.Fits ledger)
    (fits' : project'.Fits ledger) (same : project.Alike project' [path])
    (legal : ledger.legal w.store) (legal' : ledger.legal w'.store)
    (seen : LooksSame project outlook path (endState (settle project path w)).store w'.store)
    (stands : outlook.stands (endState (settle project path w)).store → outlook.stands w'.store)
    {v : Visit} {w₁ : World σ} (visited : visit project continueOnError path w = .ok v w₁) :
    (endState (settle project' path w')).store = w'.store := by
  have steady' : project'.cache.Steady ledger outlook := by
    rw [same.cache]
    exact steady
  have stirred := stirs path steady fits legal
  have stirred' := stirs path steady' fits' legal'
  have read' := same.read path (List.mem_singleton.mpr rfl)
  cases read : project.read path with
  | error fault => exact stirred'.unread (read'.trans read)
  | ok data =>
      obtain ⟨found, answered⟩ := answered_of_visit faithful legal read visited
      refine (stirred'.other fun record made => ?_).2 (stands (stirred.opened read answered))
      -- what is settled again is found, if it is settled at all
      have again := settled?_of_answer (settle_again steady fits same legal legal' seen)
      rw [made] at again
      cases settled : answer (settle project path w) with
      | error failure =>
          rw [settled] at again
          cases again
      | ok outcome =>
          rw [settled] at again
          cases again

/-- A visit that goes on comes to the same when it is repeated with a cache that looks as the rest of the
run leaves it, and does not change that cache. -/
theorem visit_again_ok (continueOnError : Bool) (faithful : project.cache.Faithful ledger)
    (steady : project.cache.Steady ledger outlook) (fits : project.Fits ledger)
    (fits' : project'.Fits ledger) (parallel : Exchange.Parallel project.bus alike)
    (same : project.Alike project' [path]) (legal : ledger.legal w.store) (legal' : ledger.legal w'.store)
    {v : Visit} {w₁ : World σ} (visited : visit project continueOnError path w = .ok v w₁)
    {rest : List String} {report : Report}
    (seen : LooksSame project outlook path
      (endState (rest.foldlM (advance project continueOnError) report w₁)).store w'.store)
    (stands : outlook.stands (endState (rest.foldlM (advance project continueOnError) report w₁)).store →
      outlook.stands w'.store)
    (exchanges : alike w.exchange w'.exchange) :
    ledger.legal w₁.store ∧ ∃ w₁', visit project' continueOnError path w' = .ok v.found w₁' ∧
      alike w₁.exchange w₁'.exchange ∧ w₁'.store = w'.store := by
  have final := final_of_visit continueOnError faithful steady fits legal visited
  have left : w₁.store = (endState (settle project path w)).store := by
    obtain ⟨x, ending⟩ := endState_visit project continueOnError path w
    rw [visited, endState_ok] at ending
    rw [ending]
  have legal₁ : ledger.legal w₁.store := by
    rw [left]
    exact (stirs path steady fits legal).legal
  -- the rest of the run does not touch what the visit left to be seen of its file
  have seen₁ : LooksSame project outlook path (endState (settle project path w)).store w'.store := by
    intro data read
    rw [← left]
    exact (seen data read).trans (seen_final steady fits legal₁ final report)
  have still := settle_again_still faithful steady fits fits' same legal legal' seen₁
    (fun stood => stands (stands_foldlM _ _ steady fits legal₁ (left ▸ stood) report)) visited
  have again := visit_again continueOnError steady fits parallel same legal legal' seen₁ exchanges
  rw [visited] at again
  obtain ⟨w₁', visited', exchanges'⟩ := again.of_ok
  obtain ⟨x', ending'⟩ := endState_visit project' continueOnError path w'
  rw [visited', endState_ok] at ending'
  refine ⟨legal₁, w₁', visited', exchanges', ?_⟩
  rw [ending']
  exact still

/-- The files of a run are taken up again. -/
theorem foldlM_again (continueOnError : Bool) (faithful : project.cache.Faithful ledger)
    (steady : project.cache.Steady ledger outlook) (fits : project.Fits ledger)
    (fits' : project'.Fits ledger) (parallel : Exchange.Parallel project.bus alike)
    {paths : List String} (same : project.Alike project' paths) (report : Report)
    (legal : ledger.legal w.store) (legal' : ledger.legal w'.store)
    (seen : ∀ path ∈ paths, LooksSame project outlook path
      (endState (paths.foldlM (advance project continueOnError) report w)).store w'.store)
    (stands : outlook.stands
      (endState (paths.foldlM (advance project continueOnError) report w)).store →
        outlook.stands w'.store)
    (exchanges : alike w.exchange w'.exchange) :
    Repeats alike Report.found (paths.foldlM (advance project continueOnError) report w)
        (paths.foldlM (advance project' continueOnError) report.found w') ∧
      ∀ report' w₁, paths.foldlM (advance project continueOnError) report w = .ok report' w₁ →
        (endState (paths.foldlM (advance project' continueOnError) report.found w')).store =
          w'.store := by
  induction paths generalizing report w w' with
  | nil => exact ⟨.ok exchanges, fun _ _ _ => rfl⟩
  | cons path rest ih =>
      have one : project.Alike project' [path] :=
        same.mono (List.cons_subset.mpr ⟨List.mem_cons_self, List.nil_subset _⟩)
      simp only [List.foldlM_cons, bind_apply, advance_apply] at seen stands ⊢
      cases visited : visit project continueOnError path w with
      | error failure w₁ =>
          -- here the first run ends, and the second one with it
          obtain ⟨x, ending⟩ := endState_visit project continueOnError path w
          rw [visited, endState_error] at ending
          subst ending
          rw [visited] at seen
          have again := visit_again continueOnError steady fits parallel one legal legal'
            (seen path List.mem_cons_self) exchanges
          rw [visited] at again
          obtain ⟨w₁', visited', exchanges'⟩ := again.of_error
          rw [visited']
          exact ⟨.error exchanges', nofun⟩
      | ok v w₁ =>
          rw [visited] at seen stands
          obtain ⟨legal₁, w₁', visited', exchanges', store⟩ :=
            visit_again_ok continueOnError faithful steady fits fits' parallel one legal legal' visited
              (seen path List.mem_cons_self) stands exchanges
          rw [visited']
          dsimp only
          rw [← Report.found_add, ← store]
          rw [← store] at legal' stands
          refine ih (same.mono (List.subset_cons_self _ _)) (report.add v) legal₁ legal'
            (fun q member => ?_) stands exchanges'
          rw [store]
          exact seen q (List.mem_cons_of_mem _ member)

/-- **A run comes to the same when it is repeated** with a cache that looks as the run left it: to the same
failure, or to the same report with every record found; then the cache is left as it was. -/
theorem run_again (continueOnError : Bool) (faithful : project.cache.Faithful ledger)
    (steady : project.cache.Steady ledger outlook) (fits : project.Fits ledger)
    (fits' : project'.Fits ledger) (parallel : Exchange.Parallel project.bus alike)
    {paths : List String} (same : project.Alike project' paths)
    (legal : ledger.legal w.store) (legal' : ledger.legal w'.store)
    (seen : ∀ path ∈ paths, LooksSame project outlook path
      (endState (run project continueOnError paths w)).store w'.store)
    (stands : outlook.stands (endState (run project continueOnError paths w)).store →
      outlook.stands w'.store)
    (exchanges : alike w.exchange w'.exchange) :
    Repeats alike Report.found (run project continueOnError paths w)
        (run project' continueOnError paths w') ∧
      ∀ report w₁, run project continueOnError paths w = .ok report w₁ →
        (endState (run project' continueOnError paths w')).store = w'.store := by
  have store : (endState (run project continueOnError paths w)).store =
      (endState (paths.foldlM (advance project continueOnError) Report.empty w)).store := by
    rw [run_eq]
    cases paths.foldlM (advance project continueOnError) Report.empty w <;> rfl
  rw [store] at seen stands
  have again := foldlM_again continueOnError faithful steady fits fits' parallel
    same Report.empty legal legal' seen stands exchanges
  have empty : Report.empty.found = Report.empty := rfl
  rw [empty] at again
  obtain ⟨repeats, still⟩ := again
  rw [run_eq, run_eq]
  revert repeats still
  generalize paths.foldlM (advance project continueOnError) Report.empty w = result
  generalize paths.foldlM (advance project' continueOnError) Report.empty w' = result'
  intro repeats still
  cases repeats with
  | error exchanges => exact ⟨.error exchanges, nofun⟩
  | ok exchanges =>
      refine ⟨.ok ?_, fun _ _ _ => still _ _ rfl⟩
      exact parallel.logs exchanges (Logs.observe _ _) (Logs.observe _ _)

end

end Docwright.Build
