import Docwright.Proofs.Build.Judgement

/-!
# Builds among listeners that do not fail

`Exchange.Calm bus calm` says that from the exchanges in `calm` no announcement
of a build fails, and that announcements and entries of the log do not lead out
of `calm`.  It is an invariant rather than a condition on the registered
listeners, since listeners may register others and publish in turn.

Among such listeners a visit is settled by its record alone: the announcement
adds its event and nothing else that the build could notice (`visit_accepted`,
`visit_rejected`, `visit_ended`).  `foldlM_advance_judged` puts the visits of a
run together: it follows the course of a build without a cache, unless the cache
fails.
-/

namespace Docwright

open Exchange (Logs)

/-- From the given exchanges no announcement of a build on the bus fails. -/
structure Exchange.Calm (bus : Nat) (calm : Exchange → Prop) : Prop where
  logs : ∀ {x y : Exchange}, calm x → Logs x y → calm y
  publish : ∀ {x : Exchange} {event : Event}, calm x →
    (∃ record hit, event = Build.announcement record hit) ∨
      (∃ r, event = Build.rejectionEvent r) →
    ∃ y, Exchange.publish bus event.name event x = .ok () y ∧ calm y

/-- A bus without listeners is calm. -/
theorem Exchange.calm_silent (bus : Nat) : Exchange.Calm bus fun x => x.registrations bus = [] where
  logs := by
    rintro x y silent ⟨entries, rfl⟩
    exact silent
  publish := by
    intro x event silent _
    refine ⟨x.observe (.published bus event.name event), ?_, silent⟩
    have unheard : (x.observe (.published bus event.name event)).listeners bus event.name = [] := by
      have silent' : (x.observe (.published bus event.name event)).registrations bus = [] := silent
      rw [listeners, silent', List.filter_nil, List.map_nil]
    unfold publish
    rw [emit, bind_apply, modify_apply]
    change publishWithin (999 + 1) bus event.name event _ = _
    rw [publishWithin_succ, unheard]
    rfl

namespace Build

variable {σ : Type} {project : Project σ} {continueOnError : Bool} {path : String} {w : World σ}
  {calm : Exchange → Prop}

/-- An announcement of a build among calm listeners. -/
theorem onExchange_publish (quiet : Exchange.Calm project.bus calm) (calmly : calm w.exchange)
    {event : Event} (ours : (∃ record hit, event = announcement record hit) ∨
      (∃ r, event = rejectionEvent r)) :
    ∃ x, calm x ∧ x.announced = w.exchange.announced ++ [event] ∧
      onExchange (Exchange.publish project.bus event.name event) w =
        .ok () { w with exchange := x } := by
  obtain ⟨x, published, calmly'⟩ := quiet.publish calmly ours
  refine ⟨x, calmly', ?_, ?_⟩
  · have announced := Exchange.announced_publish project.bus event.name event w.exchange
    rwa [published] at announced
  · simp only [onExchange, published]

/-- A record that is settled is announced, and accepted. -/
theorem visit_accepted (continueOnError : Bool) {record : FileRecord} {hit : Bool} {w' : World σ}
    (settled : settle project path w = .ok (record, hit) w')
    (quiet : Exchange.Calm project.bus calm) (calmly : calm w'.exchange) :
    ∃ x, calm x ∧ x.announced = w'.exchange.announced ++ [announcement record hit] ∧
      visit project continueOnError path w =
        .ok (.accepted record hit) { w' with exchange := x } := by
  let entry := if hit then hitEntry path record else missEntry path record
  have logs : Logs w'.exchange (w'.exchange.observe (.logged entry)) := Logs.observe _ _
  obtain ⟨x, calmly', announced, run⟩ :=
    onExchange_publish (w := { w' with exchange := w'.exchange.observe (.logged entry) }) quiet
      (quiet.logs calmly logs) (.inl ⟨record, hit, rfl⟩)
  have announcing : announce project path record hit w' = .ok () { w' with exchange := x } := run
  have processed :
      process project path w = .ok (record, hit) { w' with exchange := x } := by
    rw [process_ok settled, bind_ok announcing, pure_apply]
  refine ⟨x, calmly', by rw [announced, logs.announced], ?_⟩
  have attempted : attempt project path w =
      .ok (.accepted record hit) { w' with exchange := x } := by
    simp only [attempt, processed]
  unfold visit
  rw [bind_ok attempted]
  rfl

/-- A rejection that is passed over is announced. -/
theorem visit_rejected {r : Rejection} {w' : World σ}
    (settled : settle project path w = .error (.rejected r) w')
    (quiet : Exchange.Calm project.bus calm) (calmly : calm w'.exchange) :
    ∃ x, calm x ∧ x.announced = w'.exchange.announced ++ [rejectionEvent r] ∧
      visit project true path w = .ok (.rejected r) { w' with exchange := x } := by
  have attempted : attempt project path w = .ok (.rejected r) w' := by
    simp only [attempt, process_error settled]
  obtain ⟨x, calmly', announced, run⟩ := onExchange_publish quiet calmly (.inr ⟨r, rfl⟩)
  refine ⟨x, calmly', announced, ?_⟩
  have publishing : onExchange (Exchange.publish project.bus Event.logName (rejectionEvent r))
      w' = .ok () { w' with exchange := x } := run
  unfold visit
  rw [bind_ok attempted]
  simp only [if_true]
  rw [bind_ok publishing, pure_apply]

/-- A file whose processing fails ends the run, whatever the listeners, if the failure is not passed over. -/
theorem visit_unpassed {failure : Failure} {w' : World σ}
    (failed : process project path w = .error failure w')
    (unpassed : continueOnError = false ∨ ∀ r, failure ≠ .rejected r) :
    visit project continueOnError path w = .error failure w' := by
  by_cases rejection : ∃ r, failure = .rejected r
  · obtain ⟨r, rfl⟩ := rejection
    rcases unpassed with rfl | other
    · have attempted : attempt project path w = .ok (.rejected r) w' := by
        simp only [attempt, failed]
      rw [visit, bind_ok attempted]
      rfl
    · exact absurd rfl (other r)
  · have attempted : attempt project path w = .error failure w' := by
      cases failure with
      | rejected r => exact absurd ⟨r, rfl⟩ rejection
      | _ => simp only [attempt, failed]
    rw [visit, bind_error attempted]

/-- A failure to settle that is not passed over ends the run, whatever the listeners. -/
theorem visit_ended {failure : Failure} {w' : World σ}
    (settled : settle project path w = .error failure w')
    (unpassed : continueOnError = false ∨ ∀ r, failure ≠ .rejected r) :
    visit project continueOnError path w = .error failure w' :=
  visit_unpassed (process_error settled) unpassed

/-- A file that cannot be settled ends the run, or is rejected and passed over. -/
theorem visit_failed_cases (continueOnError : Bool) {failure : Failure} {w' : World σ}
    (settled : settle project path w = .error failure w')
    (quiet : Exchange.Calm project.bus calm) (calmly : calm w'.exchange) :
    ((continueOnError = false ∨ ∀ r, failure ≠ .rejected r) ∧
      visit project continueOnError path w = .error failure w') ∨
    ∃ r x, failure = .rejected r ∧ continueOnError = true ∧ calm x ∧
      x.announced = w'.exchange.announced ++ [rejectionEvent r] ∧
      visit project continueOnError path w = .ok (.rejected r) { w' with exchange := x } := by
  by_cases unpassed : continueOnError = false ∨ ∀ r, failure ≠ .rejected r
  · exact .inl ⟨unpassed, visit_ended settled unpassed⟩
  · rw [not_or, Bool.not_eq_false, not_forall] at unpassed
    obtain ⟨rfl, r, rejection⟩ := unpassed
    obtain rfl := not_not.mp rejection
    obtain ⟨x, stays, announced, run⟩ := visit_rejected settled quiet calmly
    exact .inr ⟨r, x, rfl, rfl, stays, announced, run⟩

/-- A visit that goes on leads to a calm exchange. -/
theorem calm_of_visit (quiet : Exchange.Calm project.bus calm) (calmly : calm w.exchange) {v : Visit}
    {w' : World σ} (visited : visit project continueOnError path w = .ok v w') : calm w'.exchange := by
  have calmly' := quiet.logs calmly (settling project path w).logs
  cases settled : settle project path w with
  | ok outcome u =>
      obtain ⟨record, hit⟩ := outcome
      rw [settled] at calmly'
      obtain ⟨x, stays, -, run⟩ := visit_accepted continueOnError settled quiet calmly'
      rw [visited] at run
      cases run
      exact stays
  | error failure u =>
      rw [settled] at calmly'
      obtain ⟨-, run⟩ | ⟨r, x, rfl, rfl, stays, -, run⟩ :=
        visit_failed_cases continueOnError settled quiet calmly'
      · cases visited.symm.trans run
      · cases visited.symm.trans run
        exact stays

/-! ### A run -/

/-- What the events that were announced say. -/
def World.gists (w : World σ) : List (Finding ⊕ Severity × Message) :=
  w.exchange.announced.map Event.gist

theorem gist_announcement (record : FileRecord) (hit : Bool) :
    (announcement record hit).gist = .inl record.finding := by
  cases hit <;> rfl

/-- A report says what the verdicts say, after what another report says. -/
structure Report.Follows (report before : Report) (verdicts : List Verdict) : Prop where
  findings : report.records.map FileRecord.finding =
    before.records.map FileRecord.finding ++ verdicts.filterMap Verdict.finding?
  failures : report.failures = before.failures ++ verdicts.filterMap Verdict.rejection?

theorem Report.Follows.refl (report : Report) : Follows report report [] :=
  ⟨by simp, by simp⟩

/-- A visit in front: its verdict is added first. -/
theorem Report.Follows.cons {report before : Report} {verdicts : List Verdict} {v : Visit}
    {verdict : Verdict} (add : Follows (before.add v) before [verdict])
    (rest : Follows report (before.add v) verdicts) : Follows report before (verdict :: verdicts) where
  findings := by
    rw [rest.findings, add.findings, List.append_assoc, ← List.filterMap_append]
    rfl
  failures := by
    rw [rest.failures, add.failures, List.append_assoc, ← List.filterMap_append]
    rfl

theorem Report.follows_accept (report : Report) (record : FileRecord) (hit : Bool) :
    Follows (report.add (.accepted record hit)) report [.found record.finding] :=
  ⟨by simp [Report.add, Report.accept, Verdict.finding?],
    by simp [Report.add, Report.accept, Verdict.rejection?]⟩

theorem Report.follows_reject (report : Report) (r : Rejection) :
    Follows (report.add (.rejected r)) report [.rejected r] :=
  ⟨by simp [Report.add, Report.reject, Verdict.finding?],
    by simp [Report.add, Report.reject, Verdict.rejection?]⟩

/-- A run is ended by its cache. -/
def EndedByCache (project : Project σ) {α : Type} : EStateM.Result Failure (World σ) α → Prop
  | .ok _ _ => False
  | .error failure _ => project.cache.Raises failure

section

variable {ledger : Ledger σ} {occurs : List UInt8 → Prop}

/-- What comes of a visit: the cache fails, or a verdict is passed and announced, or the run ends as the
course of a build without a cache does. -/
inductive Visited (project : Project σ) (continueOnError : Bool) (path : String) (w : World σ)
    (trusted : σ → Prop) (calm : Exchange → Prop) : EStateM.Result Failure (World σ) Visit → Prop
  | byCache {failure : Failure} {w' : World σ} (raised : project.cache.Raises failure) :
      Visited project continueOnError path w trusted calm (.error failure w')
  | passed {v : Visit} (verdict : Verdict) {w' : World σ} (kept : trusted w'.store)
      (calmly : calm w'.exchange) (gists : w'.gists = w.gists ++ [verdict.gist])
      (follows : ∀ before : Report, Report.Follows (before.add v) before [verdict])
      (course : ∀ rest, project.course continueOnError (path :: rest) =
        (project.course continueOnError rest).after verdict) :
      Visited project continueOnError path w trusted calm (.ok v w')
  | ended {failure : Failure} {w' : World σ} (gists : w'.gists = w.gists)
      (course : ∀ rest, project.course continueOnError (path :: rest) = ⟨[], some failure⟩) :
      Visited project continueOnError path w trusted calm (.error failure w')

theorem visited (continueOnError : Bool) (faithful : project.cache.Faithful ledger)
    (fits : project.Fits ledger) (distinguishes : Distinguishes occurs)
    (quiet : Exchange.Calm project.bus calm)
    (occur : ∀ data, project.read path = .ok data → occurs data)
    (trusted : Trusted ledger project.examine occurs w.store) (calmly : calm w.exchange) :
    Visited project continueOnError path w (Trusted ledger project.examine occurs) calm
      (visit project continueOnError path w) := by
  have kept := (settling project path w).trusted faithful fits occur trusted
  have judges := (settling project path w).judges faithful occur distinguishes trusted
  have logs := (settling project path w).logs
  have announced := logs.announced
  cases settled : settle project path w with
  | ok outcome w' =>
      obtain ⟨record, hit⟩ := outcome
      rw [settled] at kept judges logs announced
      obtain ⟨x, calmly', event, run⟩ := visit_accepted continueOnError
        settled quiet (quiet.logs calmly logs)
      rw [run]
      refine .passed (.found record.finding) kept calmly' ?_
        (fun before => Report.follows_accept before record hit) fun rest => ?_
      · rw [endState_ok] at announced
        simp only [World.gists, event, announced, List.map_append, List.map_cons, List.map_nil,
          gist_announcement, Verdict.gist]
      · have judged : project.judge path = .ok record.finding := judges
        simp only [Project.course, judged]
  | error failure w' =>
      rw [settled] at kept judges logs announced
      rw [endState_error] at announced
      rcases judges with judged | ⟨raised, other⟩
      · obtain ⟨unpassed, run⟩ | ⟨r, x, rfl, rfl, calmly', event, run⟩ :=
          visit_failed_cases continueOnError settled quiet (quiet.logs calmly logs)
        · rw [run]
          refine .ended (by rw [World.gists, announced, World.gists]) fun rest => ?_
          obtain rfl | other := unpassed
          · cases failure <;> simp only [Project.course, judged, Bool.false_eq_true, if_false]
          · simp only [Project.course, judged]
        · rw [run]
          refine .passed (.rejected r) kept calmly' ?_
            (fun before => Report.follows_reject before r) fun rest => ?_
          · simp only [World.gists, event, announced, List.map_append, List.map_cons,
              List.map_nil, Verdict.gist]
          · simp only [Project.course, judged, if_true]
      · rw [visit_ended settled (.inr other)]
        exact .byCache raised

/-- What a result has in common with a course: the ending, what was announced, and for a run that came
to its end what it reports. -/
def Matches (before : Report) (gists : List (Finding ⊕ Severity × Message)) (course : Course) :
    EStateM.Result Failure (World σ) Report → Prop
  | .ok report w => course.ending = none ∧ Report.Follows report before course.verdicts ∧
      w.gists = gists ++ course.verdicts.map Verdict.gist
  | .error failure w => course.ending = some failure ∧
      w.gists = gists ++ course.verdicts.map Verdict.gist

theorem Matches.cons {before : Report} {v : Visit} {verdict : Verdict} {course : Course}
    {gists : List (Finding ⊕ Severity × Message)}
    {result : EStateM.Result Failure (World σ) Report}
    (add : Report.Follows (before.add v) before [verdict])
    (rest : Matches (before.add v) (gists ++ [verdict.gist]) course result) :
    Matches before gists (course.after verdict) result := by
  cases result with
  | ok report w =>
      obtain ⟨ending, follows, announced⟩ := rest
      exact ⟨ending, add.cons follows, by simpa [Course.after] using announced⟩
  | error failure w =>
      obtain ⟨ending, announced⟩ := rest
      exact ⟨ending, by simpa [Course.after] using announced⟩

/-- The visits of a run follow the course of a build without a cache.  The induction is on the paths;
the cache stays trusted and the exchange calm from visit to visit. -/
theorem foldlM_advance_judged (continueOnError : Bool) (faithful : project.cache.Faithful ledger)
    (fits : project.Fits ledger) (distinguishes : Distinguishes occurs)
    (quiet : Exchange.Calm project.bus calm) {paths : List String}
    (occur : ∀ path ∈ paths, ∀ data, project.read path = .ok data → occurs data)
    (before : Report) (w : World σ) (trusted : Trusted ledger project.examine occurs w.store)
    (calmly : calm w.exchange) :
    EndedByCache project (paths.foldlM (advance project continueOnError) before w) ∨
      Matches before w.gists (project.course continueOnError paths)
        (paths.foldlM (advance project continueOnError) before w) := by
  induction paths generalizing before w with
  | nil => exact .inr ⟨rfl, .refl before, by simp [Project.course]⟩
  | cons path rest ih =>
      have coming := visited continueOnError faithful fits distinguishes quiet
        (occur path List.mem_cons_self) trusted calmly
      rw [List.foldlM_cons, bind_apply, advance_apply]
      revert coming
      cases visit project continueOnError path w with
      | ok v w' =>
          rintro (_ | ⟨verdict, kept, calmly', gists, follows, course⟩)
          rw [course]
          have next := ih (fun p member => occur p (List.mem_cons_of_mem _ member)) (before.add v) w'
            kept calmly'
          rw [gists] at next
          exact next.imp_right (.cons (follows before))
      | error failure w' =>
          rintro (raised | _ | ⟨gists, course⟩)
          · exact .inl raised
          · rw [course]
            exact .inr ⟨rfl, by simp [gists]⟩

/-- **A run follows the course of a build without a cache**, unless its cache fails. -/
theorem run_judged (faithful : project.cache.Faithful ledger) (fits : project.Fits ledger)
    (distinguishes : Distinguishes occurs) (quiet : Exchange.Calm project.bus calm)
    {paths : List String} (occur : ∀ path ∈ paths, ∀ data, project.read path = .ok data → occurs data)
    (trusted : Trusted ledger project.examine occurs w.store) (calmly : calm w.exchange) :
    EndedByCache project (run project continueOnError paths w) ∨
      Matches Report.empty w.gists (project.course continueOnError paths)
        (run project continueOnError paths w) := by
  have fold := foldlM_advance_judged continueOnError faithful fits distinguishes
    quiet occur Report.empty w trusted calmly
  rw [run_eq]
  revert fold
  cases paths.foldlM (advance project continueOnError) Report.empty w with
  | error failure w' => exact id
  | ok report w' =>
      rintro (impossible | ⟨ending, follows, announced⟩)
      · exact impossible.elim
      · refine .inr ⟨ending, follows, ?_⟩
        rw [← announced]
        simp only [World.gists, (Logs.observe (completed report) w'.exchange).announced]

end

end Build

end Docwright
