import Docwright.Proofs.Build.Conservation

/-!
# Where the failure of a listener goes

A build publishes in two places: the record of a file, while the file is processed, and a
rejection that it passes over.  A listener can fail in both, with any failure.  A
publication fails exactly where a listener of it does (`publish_eq_error_iff`), and its
failure ends the processing of the file and then the run, in whose list no further file
is taken up (`listener_failures_end_runs`).

There is one way around this.  A run that passes over rejections does so for every
rejection that comes out of the processing of a file, and it cannot tell whether the
file was rejected or a listener has failed with a rejection of its own.  Then the file,
whose record is kept and was announced, is reported as a failure, and the run goes on
(`listener_rejection_passed_over`).
-/

namespace Docwright

namespace Exchange

variable {bus : Nat} {name : String} {event : Event} {failure : Failure} {x x' : Exchange}

/-- What a listener does about an event, where publications may nest so far. -/
def call (depth : Nat) (event : Event) (listener : Listener) : Act Unit :=
  (listener event).forM (perform (publishWithin depth))

/-- A publication is interrupted: of the listeners that are registered, some come to the end of what they
do, and the next one fails. -/
def Interrupted (bus : Nat) (name : String) (event : Event) (x : Exchange) (failure : Failure)
    (x' : Exchange) : Prop :=
  ∃ before listener after y, x.listeners bus name = before ++ listener :: after ∧
    before.forM (call (depthLimit - 1) event) (x.observe (.published bus name event)) = .ok () y ∧
    call (depthLimit - 1) event listener y = .error failure x'

/-- A publication asks the listeners that are registered when it begins, one after another. -/
theorem publish_apply (bus : Nat) (name : String) (event : Event) (x : Exchange) :
    publish bus name event x =
      (x.listeners bus name).forM (call (depthLimit - 1) event) (x.observe (.published bus name event)) := by
  rw [publish, emit, bind_apply, modify_apply]
  exact publishWithin_succ (depthLimit - 1) bus name event _

/-- **A publication fails exactly where a listener does**, and with its failure. -/
theorem publish_eq_error_iff :
    publish bus name event x = .error failure x' ↔ Interrupted bus name event x failure x' := by
  rw [publish_apply]
  exact forM_eq_error_iff

end Exchange

namespace Build

open Exchange (Logs Interrupted)

variable {σ : Type} {project : Project σ} {continueOnError : Bool} {failure : Failure}
  {visit : String × World σ} {w u' : World σ}

/-- A listener fails while the record is announced that a visit has settled. -/
def Disturbs (project : Project σ) (visit : String × World σ) (failure : Failure) (u' : World σ) : Prop :=
  ∃ record hit u x, settle project visit.1 visit.2 = .ok (record, hit) u ∧
    Interrupted project.bus (announcement record hit).name (announcement record hit)
      (u.exchange.observe (.logged (if hit then hitEntry visit.1 record else missEntry visit.1 record)))
      failure x ∧
    u' = { u with exchange := x }

/-- A listener fails while the rejection is announced that processing a file has ended with. -/
def DisturbsRejection (project : Project σ) (visit : String × World σ) (failure : Failure)
    (u' : World σ) : Prop :=
  ∃ r u x, process project visit.1 visit.2 = .error (.rejected r) u ∧
    Interrupted project.bus Event.logName (rejectionEvent r) u.exchange failure x ∧
    u' = { u with exchange := x }

/-- A run fails at a visit, and takes up no further file. -/
structure EndsAt (project : Project σ) (continueOnError : Bool) (paths : List String) (w : World σ)
    (visit : String × World σ) (failure : Failure) (u' : World σ) : Prop where
  raised : run project continueOnError paths w = .error failure u'
  last : ∃ before, visits project continueOnError paths w = before ++ [visit]

theorem endsAt_of_failed {paths : List String} (member : visit ∈ visits project continueOnError paths w)
    (failed : Build.visit project continueOnError visit.1 visit.2 = .error failure u') :
    EndsAt project continueOnError paths w visit failure u' := by
  obtain ⟨raised, last⟩ := run_of_visit_failed member failed
  exact ⟨raised, last⟩

/-- A file fails whose record cannot be announced to a listener. -/
theorem process_of_disturbs (disturbs : Disturbs project visit failure u') :
    process project visit.1 visit.2 = .error failure u' := by
  obtain ⟨record, hit, u, x, settled, interrupted, rfl⟩ := disturbs
  have announced : announce project visit.1 record hit u = .error failure { u with exchange := x } := by
    rw [announce_apply]
    simp only [onExchange, Exchange.publish_eq_error_iff.mpr interrupted]
  rw [process_ok settled, bind_error announced]

/-- **The failure of a listener ends the run.**  Where a listener fails while a record is announced, the
file fails with its failure, and so does the run, which takes up no further file; but a rejection is
passed over like one of the file, if rejections are.  Where a listener fails while a rejection is
announced that is passed over, the run fails with its failure, whatever that is. -/
theorem listener_failures_end_runs {paths : List String}
    (member : visit ∈ visits project continueOnError paths w) :
    (Disturbs project visit failure u' →
      process project visit.1 visit.2 = .error failure u' ∧
      (continueOnError = false ∨ (∀ r, failure ≠ .rejected r) →
        EndsAt project continueOnError paths w visit failure u') ∧
      (∀ r, failure = .rejected r → Build.visit project true visit.1 visit.2 = (do
        onExchange (Exchange.publish project.bus Event.logName (rejectionEvent r))
        return Visit.rejected r) u')) ∧
    (continueOnError = true → DisturbsRejection project visit failure u' →
      EndsAt project continueOnError paths w visit failure u') := by
  refine ⟨fun disturbs => ?_, ?_⟩
  · have failed := process_of_disturbs disturbs
    refine ⟨failed, fun unpassed => endsAt_of_failed member (visit_unpassed failed unpassed), ?_⟩
    rintro r rfl
    exact visit_of_rejected failed
  · rintro rfl ⟨r, u, x, rejected, interrupted, rfl⟩
    have published : onExchange (Exchange.publish project.bus Event.logName (rejectionEvent r)) u =
        .error failure { u with exchange := x } := by
      simp only [onExchange, Exchange.publish_eq_error_iff.mpr interrupted]
    refine endsAt_of_failed member ?_
    rw [visit_of_rejected rejected, bind_error published]

/-! ### A listener that fails at every record that was made -/

/-- A world with a listener that fails whenever a record was made. -/
def unwelcoming (failure : Failure) : World Storage :=
  { noted with exchange :=
      noted.exchange.register 0 ⟨Event.analyzedName, fun _ => [.fail failure]⟩ }

theorem visits_unwelcoming (continueOnError : Bool) (failure : Failure) (paths : List String) :
    ("a.py", unwelcoming failure) ∈
      visits mixed continueOnError ("a.py" :: paths) (unwelcoming failure) := by
  rw [visits]
  exact List.mem_cons_self

/-- That listener fails when the first file is announced. -/
theorem disturbs_unwelcoming (failure : Failure) :
    ∃ u', Disturbs mixed ("a.py", unwelcoming failure) failure u' := by
  have made : answer (settle mixed "a.py" (unwelcoming failure)) =
      .ok (recordMade mixed "a.py" [] 0 [⟨.error, "%s is empty", [.text "file"], some 1⟩], false) := rfl
  exact ⟨_, _, _, _, _, eq_ok_of_answer made, ⟨[], _, [], _, rfl, rfl, rfl⟩, rfl⟩

/-- A run that is to go on after rejections ends when a listener fails otherwise. -/
theorem listener_failures_end_runs_told :
    ∃ u', run mixed true ["a.py", "c.py"] (unwelcoming (.listener "no")) = .error (.listener "no") u' := by
  obtain ⟨u', disturbs⟩ := disturbs_unwelcoming (.listener "no")
  have ends := ((listener_failures_end_runs (visits_unwelcoming true (.listener "no") ["c.py"])).1 disturbs).2.1
  exact ⟨u', (ends (.inr nofun)).raised⟩

/-- **A rejection by a listener is passed over.**  A listener fails with a rejection when the first file is
announced; the run comes to its end, with the second file in its report, and with the first one among
the failures though the cache keeps its record. -/
theorem listener_rejection_passed_over :
    let refusal : Rejection := ⟨"a.py", "no"⟩
    let start := unwelcoming (.rejected refusal)
    ("a.py", start) ∈ visits mixed true ["a.py", "c.py"] start ∧
      (∃ u', Disturbs mixed ("a.py", start) (.rejected refusal) u') ∧
      ∃ report w', run mixed true ["a.py", "c.py"] start = .ok report w' ∧
        report.failures = [refusal] ∧ report.records.map FileRecord.path = ["c.py"] ∧
        (w'.store.memory.lookup "a.py").isSome := by
  intro refusal start
  refine ⟨visits_unwelcoming true _ ["c.py"], disturbs_unwelcoming _, ?_⟩
  have counts : (answer (run mixed true ["a.py", "c.py"] start)).toOption.map
      (fun report => (report.failures, report.records.map FileRecord.path)) =
        some ([refusal], ["c.py"]) := by
    decide +kernel
  have kept : ((endState (run mixed true ["a.py", "c.py"] start)).store.memory.lookup "a.py").isSome := by
    decide +kernel
  cases ended : answer (run mixed true ["a.py", "c.py"] start) with
  | error failure =>
      rw [ended] at counts
      cases counts
  | ok report =>
      rw [ended] at counts
      obtain ⟨failures, records⟩ := Prod.mk.inj (Option.some.inj counts)
      exact ⟨report, _, eq_ok_of_answer ended, failures, records, kept⟩

end Build

end Docwright
