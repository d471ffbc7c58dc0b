import Docwright.Proofs.Build.Current
import Docwright.Proofs.Build.Display
import Docwright.Proofs.Build.Failing
import Mathlib.Data.List.Basic

/-!
# How runs end

A run ends in one of three ways: it comes to its end, and then its report says of every
file what a build without a cache would say; a file is rejected that is not to be passed
over; or the cache reports a fault (`run_ends`).  This takes a cache that is `Honest`,
that is, one that answers with true records and fails by reporting a fault only; no
ledger is needed, so a cache that forgets everything may be honest.

The verdicts of a run are those of `Project.judge`, so whether a run reports a rejection
depends on the files alone (`Reports.failures_eq_nil_iff`).
-/

namespace Docwright

variable {σ : Type}

/-- A cache whose records have a property, if those that it is given have, and that fails by reporting a
fault only.  `good` are the states that it may be in. -/
structure FileCache.Honest (cache : FileCache σ) (good : σ → Prop) (Q : String → FileRecord → Prop) :
    Prop where
  lookup_ok : ∀ {path : String} {s s' : σ} {found : Option FileRecord}, good s →
    cache.lookup path s = .ok found s' → good s' ∧ ∀ record ∈ found, Q path record
  lookup_error : ∀ {path : String} {s s' : σ} {failure : Failure}, good s →
    cache.lookup path s = .error failure s' → good s' ∧ ∃ fault, failure = .cache fault
  store_ok : ∀ {path : String} {record : FileRecord} {s s' : σ}, good s → Q path record →
    cache.store path record s = .ok () s' → good s'
  store_error : ∀ {path : String} {record : FileRecord} {s s' : σ} {failure : Failure}, good s →
    Q path record → cache.store path record s = .error failure s' →
      good s' ∧ ∃ fault, failure = .cache fault

namespace Build

open Exchange (Wired)

variable {project : Project σ} {continueOnError : Bool} {path : String} {w w' : World σ}
  {good : σ → Prop} {Q : String → FileRecord → Prop} {paths : List String} {report : Report}

/-! ### One visit -/

/-- The records of a file that a cache may hold are those that the file would get. -/
structure Project.Sound (project : Project σ) (Q : String → FileRecord → Prop) (path : String) : Prop where
  named : project.read path ≠ .error .null
  makes : ∀ {data : List UInt8} {text : List Char} {problems : List Problem} (ticks : Nat),
    project.read path = .ok data → Text.Utf8.decode data = .ok text →
      (project.examine path (String.ofList text)).result = .ok problems →
        Q path (recordMade project path data ticks problems)
  binds : ∀ {record : FileRecord} {data : List UInt8}, Q path record → project.read path = .ok data →
    record.fingerprint = Digest.fingerprint data → project.judge path = .ok record.finding

/-- What settling a file comes to is the verdict on it, or the cache reports a fault. -/
inductive Sincere (project : Project σ) (path : String) : Except Failure (FileRecord × Bool) → Prop
  | found {record : FileRecord} {hit : Bool} (judged : project.judge path = .ok record.finding) :
      Sincere project path (.ok (record, hit))
  | rejected {r : Rejection} (judged : project.judge path = .error (.rejected r)) :
      Sincere project path (.error (.rejected r))
  | faulty {fault : Cache.Fault} : Sincere project path (.error (.cache fault))

/-- An honest cache stays good, and a file is settled by its verdict. -/
theorem Settling.sincere {result} (settling : Settling project path w result)
    (honest : project.cache.Honest good Q) (sound : project.Sound Q path) (held : good w.store) :
    good (endState result).store ∧ Sincere project path (answer result) := by
  cases settling with
  | null unread => exact absurd unread sound.named
  | unread unread => exact ⟨held, .rejected (by simp only [Project.judge, unread])⟩
  | unanswered read lookup =>
      obtain ⟨held', fault, rfl⟩ := honest.lookup_error held lookup
      exact ⟨held', .faulty⟩
  | hit read lookup same =>
      obtain ⟨held', kept⟩ := honest.lookup_ok held lookup
      exact ⟨held', .found (sound.binds (kept _ rfl) read same)⟩
  | undecoded read lookup stale decode =>
      exact ⟨(honest.lookup_ok held lookup).1, .rejected (by simp only [Project.judge, read, decode])⟩
  | unexamined read lookup stale decode examine =>
      exact ⟨(honest.lookup_ok held lookup).1,
        .rejected (by simp only [Project.judge, read, decode, examine])⟩
  | unkept read lookup stale decode examine store =>
      have held' := (honest.lookup_ok held lookup).1
      obtain ⟨held'', fault, rfl⟩ := honest.store_error held' (sound.makes _ read decode examine) store
      exact ⟨held'', .faulty⟩
  | made read lookup stale decode examine store =>
      have held' := (honest.lookup_ok held lookup).1
      refine ⟨honest.store_ok held' (sound.makes _ read decode examine) store, .found ?_⟩
      simp only [Project.judge, read, decode, examine, recordMade, FileRecord.finding]

/-- All visits of a run are settled by the verdicts on their files. -/
theorem sincere_visits (honest : project.cache.Honest good Q)
    (sound : ∀ path ∈ paths, project.Sound Q path) (held : good w.store) :
    ∀ visit ∈ visits project continueOnError paths w,
      Sincere project visit.1 (answer (settle project visit.1 visit.2)) := by
  have kept : ∀ visit ∈ visits project continueOnError paths w, good visit.2.store := by
    refine visits_invariant (P := fun w => good w.store) ?_ held
    rintro ⟨path, u⟩ member outcome u' visited held
    have next : good (endState (visit project continueOnError path u)).store :=
      visit_invariant (P := fun w => good w.store) (fun _ _ => id)
        ((settling project path u).sincere honest (sound path (path_of_visit member)) held).1
    rwa [visited] at next
  intro visit member
  exact ((settling project visit.1 visit.2).sincere honest (sound visit.1 (path_of_visit member))
    (kept visit member)).2

/-- An honest cache stays good through a run. -/
theorem good_run (honest : project.cache.Honest good Q) (sound : ∀ path ∈ paths, project.Sound Q path)
    (held : good w.store) : good (endState (run project continueOnError paths w)).store :=
  run_invariant (P := fun w => good w.store) (fun _ _ => id)
    (fun path member w held => ((settling project path w).sincere honest (sound path member) held).1) w held

/-- The problems that a verdict finds are those of an examination. -/
theorem examined_of_judge {finding : Finding} (judged : project.judge path = .ok finding) :
    finding.path = path ∧ ∃ data text, project.read path = .ok data ∧ Text.Utf8.decode data = .ok text ∧
      finding.fingerprint = Digest.fingerprint data ∧
      (project.examine path (String.ofList text)).result = .ok finding.problems := by
  unfold Project.judge at judged
  split at judged
  · cases judged
  · cases judged
  · next data read =>
      split at judged
      · cases judged
      · next text decode =>
          split at judged
          · cases judged
          · next problems examine =>
              cases judged
              exact ⟨rfl, data, text, read, decode, rfl, examine⟩

/-- A rejection is one of the file that is judged. -/
theorem path_of_judge {r : Rejection} (judged : project.judge path = .error (.rejected r)) :
    r.path = path := by
  unfold Project.judge at judged
  split at judged
  · cases judged
  · cases judged
    rfl
  · split at judged
    · cases judged
      rfl
    · split at judged
      · cases judged
        rfl
      · cases judged

/-! ### The report of a run -/

/-- The rejection of a file, if it is rejected. -/
def Project.rejection? (project : Project σ) (path : String) : Option Rejection :=
  match project.judge path with
  | .error (.rejected r) => some r
  | _ => none

theorem Project.rejection?_eq_some_iff {r : Rejection} :
    project.rejection? path = some r ↔ project.judge path = .error (.rejected r) := by
  unfold rejection?
  split
  · next r' judged => simp [judged]
  · next other => exact ⟨nofun, fun judged => absurd judged (other r)⟩

/-- A report that gives the verdict on every file, in their order. -/
structure Reports (project : Project σ) (paths : List String) (report : Report) : Prop where
  judged : ∀ path ∈ paths, (project.judge path).toOption.isSome ∨ (project.rejection? path).isSome
  records : report.records.map FileRecord.finding = paths.filterMap fun path => (project.judge path).toOption
  failures : report.failures = paths.filterMap project.rejection?

/-- A report has a rejection exactly where a file is rejected. -/
theorem Reports.failures_eq_nil_iff (reports : Reports project paths report) :
    report.failures = [] ↔ ∀ path ∈ paths, project.rejection? path = none := by
  rw [reports.failures, List.filterMap_eq_nil_iff]

/-- **A report covers every file once.** -/
theorem Reports.covers (reports : Reports project paths report) :
    (report.records.map FileRecord.path ++ report.failures.map Rejection.path).Perm paths := by
  have recorded : report.records.map FileRecord.path =
      paths.filter fun path => (project.judge path).toOption.isSome := by
    have findings : report.records.map FileRecord.path =
        (report.records.map FileRecord.finding).map Finding.path := by
      rw [List.map_map]
      rfl
    rw [findings, reports.records, List.map_filterMap, ← List.filterMap_eq_filter]
    refine List.filterMap_congr fun path _ => ?_
    cases judged : project.judge path with
    | error failure => simp [Option.guard, judged, Except.toOption]
    | ok finding => simp [Option.guard, judged, Except.toOption, (examined_of_judge judged).1]
  have rejected : report.failures.map Rejection.path =
      paths.filter fun path => !(project.judge path).toOption.isSome := by
    rw [reports.failures, List.map_filterMap, ← List.filterMap_eq_filter]
    refine List.filterMap_congr fun path member => ?_
    rcases reports.judged path member with found | refused
    · cases judged : project.judge path with
      | error failure => simp [judged, Except.toOption] at found
      | ok finding => simp [Option.guard, judged, Except.toOption, Project.rejection?]
    · obtain ⟨r, refused⟩ := Option.isSome_iff_exists.mp refused
      have judged := Project.rejection?_eq_some_iff.mp refused
      simp [Option.guard, judged, Except.toOption, refused, path_of_judge judged]
  rw [recorded, rejected]
  exact List.filter_append_perm _ paths

/-! ### A run -/

/-- The cache reports a fault at one of the visits. -/
def Faulty (project : Project σ) (visits : List (String × World σ)) : Prop :=
  ∃ visit ∈ visits, ∃ fault u, settle project visit.1 visit.2 = .error (.cache fault) u

/-- The ways in which a run ends. -/
inductive Ends (project : Project σ) (continueOnError : Bool) (paths : List String)
    (visits : List (String × World σ)) : EStateM.Result Failure (World σ) Report → Prop
  /-- It comes to its end. -/
  | finished {report : Report} {w' : World σ} (healthy : ¬ Faulty project visits)
      (reports : Reports project paths report) : Ends project continueOnError paths visits (.ok report w')
  /-- A file is rejected that is not to be passed over. -/
  | rejected {path : String} {r : Rejection} {w' : World σ} (healthy : ¬ Faulty project visits)
      (stops : continueOnError = false) (member : path ∈ paths)
      (judged : project.judge path = .error (.rejected r)) :
      Ends project continueOnError paths visits (.error (.rejected r) w')
  /-- The cache reports a fault. -/
  | faulty {fault : Cache.Fault} {w' : World σ} (faulty : Faulty project visits) :
      Ends project continueOnError paths visits (.error (.cache fault) w')

/-- A visit at which the cache reports a fault ends the run. -/
theorem run_of_faulty (faulty : Faulty project (visits project continueOnError paths w)) :
    ∃ fault u, run project continueOnError paths w = .error (.cache fault) u := by
  obtain ⟨visit, member, fault, u, settled⟩ := faulty
  have visited : Build.visit project continueOnError visit.1 visit.2 = .error (.cache fault) u :=
    visit_ended settled (.inr nofun)
  exact ⟨fault, u, (run_of_visit_failed member visited).1⟩

/-- The visits of a run come to what settling their files has come to. -/
def Conclusive (project : Project σ) (continueOnError : Bool) (visits : List (String × World σ)) : Prop :=
  ∀ visit ∈ visits, ∃ x, Build.visit project continueOnError visit.1 visit.2 =
    concluded continueOnError x (settle project visit.1 visit.2)

/-- A visit that goes on gives the verdict on its file. -/
theorem outcome_judged {visit : String × World σ} {x : Exchange} {v : Visit}
    (comes : Build.visit project continueOnError visit.1 visit.2 =
      concluded continueOnError x (settle project visit.1 visit.2))
    (sincere : Sincere project visit.1 (answer (settle project visit.1 visit.2)))
    (outcome : outcome? project continueOnError visit = some v) :
    v.record?.map FileRecord.finding = (project.judge visit.1).toOption ∧
      v.rejection? = project.rejection? visit.1 := by
  rw [outcome?, comes] at outcome
  revert sincere outcome
  cases settle project visit.1 visit.2 with
  | ok found u =>
      intro sincere outcome
      cases sincere with
      | found judged =>
          cases outcome
          rw [Project.rejection?, judged]
          exact ⟨rfl, rfl⟩
  | error failure u =>
      intro sincere outcome
      cases sincere with
      | rejected judged =>
          cases continueOnError with
          | false => cases outcome
          | true =>
              cases outcome
              rw [Project.rejection?, judged]
              exact ⟨rfl, rfl⟩
      | faulty => cases outcome

/-- **A run that comes to its end reports the verdict on every file.** -/
theorem reports_of_run {w' : World σ}
    (sincere : ∀ visit ∈ visits project continueOnError paths w,
      Sincere project visit.1 (answer (settle project visit.1 visit.2)))
    (comes : Conclusive project continueOnError (visits project continueOnError paths w))
    (done : run project continueOnError paths w = .ok report w') : Reports project paths report := by
  obtain ⟨outcomes, ends, taken, sum⟩ := run_outcomes done
  obtain ⟨records, failures, -, -⟩ := sum ▸ Report.sums_foldl outcomes Report.empty
  have each : ∀ visit ∈ visits project continueOnError paths w, ∀ v,
      outcome? project continueOnError visit = some v →
        v.record?.map FileRecord.finding = (project.judge visit.1).toOption ∧
          v.rejection? = project.rejection? visit.1 := by
    intro visit member v outcome
    obtain ⟨x, run⟩ := comes visit member
    exact outcome_judged run (sincere visit member) outcome
  -- what is read off each outcome is read off its file
  have read : ∀ {α : Type} (f : Visit → Option α) (g : String → Option α),
      (∀ visit ∈ visits project continueOnError paths w, ∀ v,
        outcome? project continueOnError visit = some v → f v = g visit.1) →
        outcomes.filterMap f = paths.filterMap g := by
    intro α f g same
    calc outcomes.filterMap f = (outcomes.map f).filterMap id := by
          rw [List.filterMap_map]
          rfl
      _ = ((visits project continueOnError paths w).map fun visit => g visit.1).filterMap id := by
          rw [map_outcomes ends same]
      _ = paths.filterMap g := by
          conv_rhs => rw [← taken]
          rw [List.filterMap_map, List.filterMap_map]
          rfl
  refine ⟨fun path member => ?_, ?_, ?_⟩
  · have visited : path ∈ (visits project continueOnError paths w).map Prod.fst := by rwa [taken]
    obtain ⟨visit, within, rfl⟩ := List.mem_map.mp visited
    obtain ⟨v, -, -, outcome⟩ := outcome_of_mem ends within
    obtain ⟨found, rejected⟩ := each visit within v outcome
    rw [← found, ← rejected]
    cases v with
    | accepted record hit => exact .inl rfl
    | rejected r => exact .inr rfl
  · rw [records, Report.empty, List.nil_append, List.map_filterMap]
    exact read _ _ fun visit member v outcome => (each visit member v outcome).1
  · rw [failures, Report.empty, List.nil_append]
    exact read _ _ fun visit member v outcome => (each visit member v outcome).2

/-- **A run that fails** has met a rejection that is not to be passed over, or a fault of the cache. -/
theorem ends_of_run_failed {failure : Failure}
    (sincere : ∀ visit ∈ visits project continueOnError paths w,
      Sincere project visit.1 (answer (settle project visit.1 visit.2)))
    (comes : Conclusive project continueOnError (visits project continueOnError paths w))
    (ran : run project continueOnError paths w = .error failure w') :
    Ends project continueOnError paths (visits project continueOnError paths w) (.error failure w') := by
  obtain ⟨before, path, after, report, u, -, -, member, ended⟩ :=
    foldlM_aborted (run_eq_error_iff.mp ran)
  obtain ⟨x, run⟩ := comes _ member
  have coming := sincere _ member
  dsimp only at run coming
  rw [run] at ended
  cases settled : settle project path u with
  | ok found u' =>
      rw [settled] at ended
      cases ended
  | error failure' u' =>
      rw [settled] at ended coming
      cases coming with
      | faulty =>
          cases ended
          exact .faulty ⟨_, member, _, _, settled⟩
      | rejected judged =>
          cases continueOnError with
          | true => cases ended
          | false =>
              cases ended
              refine .rejected (fun faulty => ?_) rfl (path_of_visit member) judged
              obtain ⟨fault, v, stopped⟩ := run_of_faulty faulty
              cases ran.symm.trans stopped

/-- **A run ends in one of three ways**, if its cache is honest and a console listens to it. -/
theorem run_ends {console : Nat} {threshold : Severity} (honest : project.cache.Honest good Q)
    (sound : ∀ path ∈ paths, project.Sound Q path) (held : good w.store)
    (wired : Wired console project.bus threshold w.exchange)
    (words : ∀ {path source problems}, (project.examine path source).result = .ok problems →
      ∀ p ∈ problems, ∃ text, p.render = .ok text) :
    Ends project continueOnError paths (visits project continueOnError paths w)
      (run project continueOnError paths w) := by
  have sincere := @sincere_visits _ _ continueOnError w _ _ _ honest sound held
  have renders : ∀ visit ∈ visits project continueOnError paths w, Renders project visit := by
    intro visit member record hit w' settled p within
    have coming := sincere visit member
    rw [settled] at coming
    cases coming with
    | found judged =>
        obtain ⟨-, data, text, -, -, -, examined⟩ := examined_of_judge judged
        exact p.render_text (words examined p within)
  have comes : Conclusive project continueOnError (visits project continueOnError paths w) := by
    intro visit member
    obtain ⟨x, run, -⟩ := visit_shows continueOnError (wired_visits wired renders visit member)
      (renders visit member)
    exact ⟨x, run⟩
  cases ran : run project continueOnError paths w with
  | ok report w' =>
      refine .finished (fun faulty => ?_) (reports_of_run sincere comes ran)
      obtain ⟨fault, u, stopped⟩ := run_of_faulty faulty
      cases ran.symm.trans stopped
  | error failure w' => exact ends_of_run_failed sincere comes ran

/-! ### What is kept -/

/-- **A run without a rejection leaves a record of the content of every file**, if it comes to its end. -/
theorem current_of_clean {ledger : Ledger σ} {w' : World σ} (faithful : project.cache.Faithful ledger)
    (fits : project.Fits ledger) (legal : ledger.legal w.store)
    (done : run project continueOnError paths w = .ok report w') (clean : report.failures = []) :
    ∀ path ∈ paths, Current project ledger path w'.store := by
  intro path member
  obtain ⟨outcomes, ends, taken, sum⟩ := run_outcomes done
  obtain ⟨-, failures, -, -⟩ := sum ▸ Report.sums_foldl outcomes Report.empty
  have accepted : ∀ v ∈ outcomes, v.rejection? = none := by
    rw [clean, Report.empty, List.nil_append] at failures
    exact List.filterMap_eq_nil_iff.mp failures.symm
  have visited : path ∈ (visits project continueOnError paths w).map Prod.fst := by rwa [taken]
  obtain ⟨⟨path, u⟩, within, rfl⟩ := List.mem_map.mp visited
  have succeeds : Succeeds project path (path, u) := by
    refine ⟨rfl, ?_⟩
    obtain ⟨v, u', run, outcome⟩ := outcome_of_mem ends within
    have known : v ∈ outcomes := by
      have listed : some v ∈ outcomes.map some := by
        rw [← ends, ← outcome]
        exact List.mem_map_of_mem within
      simpa using listed
    cases settled : settle project path u with
    | ok found u'' => rw [settled?_eq_some_iff.mpr ⟨u'', settled⟩, Option.isSome_some]
    | error failure u'' =>
        obtain ⟨_, _, processed, -⟩ | ⟨r, _, -, rfl⟩ := visit_ok run
        · exact absurd processed (process_of_settle_error settled)
        · cases accepted _ known
  have kept := (current_threads path continueOnError paths faithful fits legal).ended
  rw [done] at kept
  exact kept.2 (foldl_since _ |>.mpr (.inr ⟨_, within, succeeds⟩))

end Build

end Docwright
