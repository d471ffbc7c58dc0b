import Docwright.Proofs.Build.Display
import Docwright.Proofs.Build.Failing

/-!
# Runs with a truthful cache

A cache is `Truthful` if it answers with records of a kind, provided that it is given
records of that kind, and fails in known ways.  Such a cache passes on to a run what is
known of it: whatever is settled is a record of the kind or a rejection, or a failure that
is known (`told_visits`).

If records of the kind can be put in words, a console that shows the run adds no failure
of its own.  No announcement fails (`announced_visits`), a run that fails has a file
rejected or fails as its cache does (`failure_told`), and all records of a report are of
the kind (`records_told`).
-/

namespace Docwright

variable {σ : Type}

/-- A cache whose records are of a kind, if those that it is given are, and that fails in known ways only.
`good` are the states that it may be in; a store may fail by what the record holds besides. -/
structure FileCache.Truthful (cache : FileCache σ) (good : σ → Prop) (Q : String → FileRecord → Prop)
    (known : Failure → Prop) (refuses : FileRecord → Failure → Prop) : Prop where
  lookup_good : ∀ {path s}, good s → good (endState (cache.lookup path s))
  lookup_ok : ∀ {path s record}, good s → answer (cache.lookup path s) = .ok (some record) → Q path record
  lookup_error : ∀ {path s failure}, good s → answer (cache.lookup path s) = .error failure → known failure
  store_good : ∀ {path record s}, good s → Q path record → good (endState (cache.store path record s))
  store_error : ∀ {path record s failure}, good s → Q path record →
    answer (cache.store path record s) = .error failure → known failure ∨ refuses record failure

namespace Build

open Exchange (Wired Shows)

variable {project : Project σ} {continueOnError : Bool} {path : String} {w w' : World σ}
  {good : σ → Prop} {Q : String → FileRecord → Prop} {known : Failure → Prop}
  {refuses : FileRecord → Failure → Prop} {paths : List String} {console : Nat} {threshold : Severity}

/-- Whatever is made of a file is a record of the kind. -/
def Project.Yields (project : Project σ) (Q : String → FileRecord → Prop) : Prop :=
  ∀ {path data text problems} (ticks : Nat), project.read path = .ok data →
    Text.Utf8.decode data = .ok text → (project.examine path (String.ofList text)).result = .ok problems →
      Q path (recordMade project path data ticks problems)

/-- A file is examined, and the record that is made of it is refused. -/
inductive Refused (project : Project σ) (refuses : FileRecord → Failure → Prop) (path : String)
    (failure : Failure) : Prop
  | mk {data : List UInt8} {text : List Char} {problems : List Problem} {ticks : Nat}
      (read : project.read path = .ok data) (decode : Text.Utf8.decode data = .ok text)
      (examine : (project.examine path (String.ofList text)).result = .ok problems)
      (refused : refuses (recordMade project path data ticks problems) failure)

/-- What settling a file comes to: a record of the kind, a rejection, or a failure that is known. -/
inductive Told (project : Project σ) (Q : String → FileRecord → Prop) (known : Failure → Prop)
    (refuses : FileRecord → Failure → Prop) (path : String) : Except Failure (FileRecord × Bool) → Prop
  | settled {record : FileRecord} {hit : Bool} (kind : Q path record) :
      Told project Q known refuses path (.ok (record, hit))
  | rejected {r : Rejection} : Told project Q known refuses path (.error (.rejected r))
  | null (unread : project.read path = .error .null) : Told project Q known refuses path (.error .nullByte)
  | failed {failure : Failure} (expected : known failure) : Told project Q known refuses path (.error failure)
  | refused {failure : Failure} (refused : Refused project refuses path failure) :
      Told project Q known refuses path (.error failure)

/-! ### One visit -/

/-- A truthful cache stays good, and passes on what is known of it. -/
theorem Settling.told {result} (settling : Settling project path w result)
    (truthful : project.cache.Truthful good Q known refuses) (yields : project.Yields Q) (held : good w.store) :
    good (endState result).store ∧ Told project Q known refuses path (answer result) := by
  have looked : good (endState (project.cache.lookup path w.store)) := truthful.lookup_good held
  cases settling with
  | null unread => exact ⟨held, .null unread⟩
  | unread unread => exact ⟨held, .rejected⟩
  | unanswered read lookup =>
      rw [lookup] at looked
      exact ⟨looked, .failed (truthful.lookup_error held (by rw [lookup, answer_error]))⟩
  | hit read lookup same =>
      rw [lookup] at looked
      exact ⟨looked, .settled (truthful.lookup_ok held (by rw [lookup, answer_ok]))⟩
  | undecoded read lookup | unexamined read lookup =>
      rw [lookup] at looked
      exact ⟨looked, .rejected⟩
  | unkept read lookup stale decode examine store =>
      rw [lookup] at looked
      have kind := yields w.ticks read decode examine
      have stored := truthful.store_good looked kind
      rw [endState_ok, store] at stored
      refine ⟨stored, ?_⟩
      obtain expected | refused := truthful.store_error looked kind (by rw [endState_ok, store, answer_error])
      · exact .failed expected
      · exact .refused ⟨read, decode, examine, refused⟩
  | made read lookup stale decode examine store =>
      rw [lookup] at looked
      have kind := yields w.ticks read decode examine
      have stored := truthful.store_good looked kind
      rw [endState_ok, store] at stored
      exact ⟨stored, .settled kind⟩

/-- All visits of a run are told of. -/
theorem told_visits (truthful : project.cache.Truthful good Q known refuses) (yields : project.Yields Q)
    (held : good w.store) : ∀ visit ∈ visits project continueOnError paths w,
      Told project Q known refuses visit.1 (answer (settle project visit.1 visit.2)) := by
  have kept : ∀ visit ∈ visits project continueOnError paths w, good visit.2.store := by
    refine visits_invariant (P := fun w => good w.store) ?_ held
    rintro ⟨path, u⟩ member outcome u' visited held
    have next : good (endState (visit project continueOnError path u)).store :=
      visit_invariant (P := fun w => good w.store) (fun _ _ => id)
        ((settling project path u).told truthful yields held).1
    rwa [visited] at next
  intro visit member
  exact ((settling project visit.1 visit.2).told truthful yields (kept visit member)).2

/-- A truthful cache stays good through a run. -/
theorem good_run_told (truthful : project.cache.Truthful good Q known refuses) (yields : project.Yields Q)
    (held : good w.store) : good (endState (run project continueOnError paths w)).store :=
  run_invariant (P := fun w => good w.store) (fun _ _ => id)
    (fun path _ w held => ((settling project path w).told truthful yields held).1) w held

/-! ### Among listeners -/

/-- A visit that fails among listeners that do not fails as settling its file has failed. -/
theorem answer_of_concluded {x : Exchange} {failure : Failure}
    {result : EStateM.Result Failure (World σ) (FileRecord × Bool)}
    (ended : concluded continueOnError x result = .error failure w') : answer result = .error failure := by
  cases result with
  | ok outcome u => cases ended
  | error failure' u =>
      cases failure' with
      | rejected r =>
          cases continueOnError <;> cases ended
          rfl
      | _ =>
          cases ended
          rfl

section

variable (told : ∀ visit ∈ visits project continueOnError paths w,
    Told project Q known refuses visit.1 (answer (settle project visit.1 visit.2)))

include told

/-- Every record that a visit settles is of the kind. -/
theorem kind_of_settled {u u' : World σ} {record : FileRecord} {hit : Bool}
    (member : (path, u) ∈ visits project continueOnError paths w)
    (settled : settle project path u = .ok (record, hit) u') : Q path record := by
  have coming := told (path, u) member
  dsimp only at coming
  rw [settled] at coming
  cases coming with
  | settled kind => exact kind

/-- **All records of a report are of the kind.** -/
theorem records_told {report : Report} (done : run project continueOnError paths w = .ok report w') :
    ∀ record ∈ report.records, ∃ path, Q path record := by
  intro record member
  rw [(run_reports done).records] at member
  obtain ⟨⟨_, hit⟩, among, rfl⟩ := List.mem_map.mp ((List.mem_append.mp member).resolve_left nofun)
  obtain ⟨⟨path, u⟩, visited, reported⟩ := List.mem_filterMap.mp among
  obtain ⟨v, processed⟩ := process_of_reported reported
  cases settled : settle project path u with
  | error failure u' => exact absurd processed (process_of_settle_error settled)
  | ok outcome u' =>
      obtain ⟨record', hit'⟩ := outcome
      cases process_settled settled processed
      exact ⟨path, kind_of_settled told visited settled⟩

variable (wired : Wired console project.bus threshold w.exchange)
  (words : ∀ {path record}, Q path record → record.Renders)

include words

/-- Every record that a visit settles can be put in words. -/
theorem renders_told : ∀ visit ∈ visits project continueOnError paths w, Renders project visit :=
  fun _ member _ _ _ settled => words (kind_of_settled told member settled)

include wired

/-- No record that is settled fails to be announced, and no rejection. -/
theorem announced_visits {u u' : World σ} (member : (path, u) ∈ visits project continueOnError paths w) :
    (∀ {record hit}, settle project path u = .ok (record, hit) u' →
      ∃ x, announce project path record hit u' = .ok () { u' with exchange := x }) ∧
    ∀ {r}, settle project path u = .error (.rejected r) u' →
      ∃ x, onExchange (Exchange.publish project.bus (rejectionEvent r).name (rejectionEvent r)) u' =
        .ok () { u' with exchange := x } := by
  have here := wired_visits wired (renders_told told words) (path, u) member
  have logs := (settling project path u).logs
  constructor
  · intro record hit settled
    rw [settled] at logs
    have silent : Shows console u.exchange u'.exchange [] := .logs logs
    obtain ⟨x, announced, -⟩ := announce_shows path hit (here.of_buses silent.buses)
      (renders_told told words (path, u) member record hit u' settled)
    exact ⟨x, announced⟩
  · intro r settled
    rw [settled] at logs
    have silent : Shows console u.exchange u'.exchange [] := .logs logs
    obtain ⟨x, announced, -⟩ := onExchange_prints
      (Exchange.prints_rejection (here.of_buses silent.buses) r)
    exact ⟨x, announced⟩

/-- **A run fails only where a file is rejected or as its cache does**, unless the name of a file has a null
character. -/
theorem failure_told {failure : Failure} (failed : run project continueOnError paths w = .error failure w') :
    (∃ r, failure = .rejected r) ∨
      (failure = .nullByte ∧ ∃ path ∈ paths, project.read path = .error .null) ∨ known failure ∨
      ∃ path ∈ paths, Refused project refuses path failure := by
  obtain ⟨-, path, -, -, u, -, -, member, ended⟩ := foldlM_aborted (run_eq_error_iff.mp failed)
  have renders := renders_told told words
  obtain ⟨x, concludes, -⟩ := visit_shows continueOnError (wired_visits wired renders _ member)
    (renders _ member)
  have coming := told (path, u) member
  rw [answer_of_concluded (concludes.symm.trans ended)] at coming
  cases coming with
  | rejected => exact .inl ⟨_, rfl⟩
  | null unread => exact .inr (.inl ⟨rfl, path, path_of_visit member, unread⟩)
  | failed expected => exact .inr (.inr (.inl expected))
  | refused refused => exact .inr (.inr (.inr ⟨path, path_of_visit member, refused⟩))

end

end Build

end Docwright
