import Docwright.Proofs.Build.Calm
import Docwright.Proofs.Build.Visits
import Docwright.Proofs.Exchange.Printing

/-!
# What a run conserves

A run that passes over rejections and comes to its end loses no file and doubles
none.  What it comes to at each position of the list of files is one of the two
cases of `Visit`, and everything the run leaves is read off this one list of
outcomes (`Conserved`): the records and the rejections are its two parts in order,
the counts are those of its hits and misses, and what was published is the event
of each outcome, one after another.

Two facts carry this.  A visit that goes on has an outcome for its own file and
publishes the event of the outcome and nothing else (`visit_conserves`), and a run
adds up the outcomes of its visits (`run_outcomes`, `run_appends`).
-/

namespace Docwright

namespace Visit

/-- The file that an outcome is about. -/
def path : Visit → String
  | accepted record _ => record.path
  | rejected r => r.path

/-- The record that was accepted. -/
def record? : Visit → Option FileRecord
  | accepted record _ => some record
  | rejected _ => none

/-- The rejection. -/
def rejection? : Visit → Option Rejection
  | accepted .. => none
  | rejected r => some r

/-- Whether the cache held the record that was accepted. -/
def hit? : Visit → Option Bool
  | accepted _ hit => some hit
  | rejected _ => none

/-- What a build announces about an outcome: a record as it was accepted, or a message for a rejection. -/
def event : Visit → Event
  | accepted record hit => Build.announcement record hit
  | rejected r => Build.rejectionEvent r

/-- The announcement of an outcome on a bus, under the name of its event. -/
def publication (bus : Nat) (v : Visit) : Nat × String × Event :=
  (bus, v.event.name, v.event)

end Visit

/-- A report that says what outcomes say, after what another report says. -/
structure Report.Sums (report before : Report) (outcomes : List Visit) : Prop where
  records : report.records = before.records ++ outcomes.filterMap Visit.record?
  failures : report.failures = before.failures ++ outcomes.filterMap Visit.rejection?
  cached : report.cached = before.cached + outcomes.countP fun v => v.hit? == some true
  analyzed : report.analyzed = before.analyzed + outcomes.countP fun v => v.hit? == some false

/-- Outcomes that are added one after another. -/
theorem Report.sums_foldl (outcomes : List Visit) (before : Report) :
    Sums (outcomes.foldl Report.add before) before outcomes := by
  induction outcomes generalizing before with
  | nil => exact ⟨(List.append_nil _).symm, (List.append_nil _).symm, rfl, rfl⟩
  | cons v rest ih =>
      obtain ⟨records, failures, cached, analyzed⟩ := ih (before.add v)
      rw [List.foldl_cons]
      rcases v with ⟨record, _ | _⟩ | r
      · refine ⟨?_, failures, cached, ?_⟩
        · rw [records]
          exact List.append_assoc _ _ _
        · rw [analyzed, List.countP_cons_of_pos rfl]
          exact Nat.add_right_comm _ _ _
      · refine ⟨?_, failures, ?_, analyzed⟩
        · rw [records]
          exact List.append_assoc _ _ _
        · rw [cached, List.countP_cons_of_pos rfl]
          exact Nat.add_right_comm _ _ _
      · refine ⟨records, ?_, cached, analyzed⟩
        rw [failures]
        exact List.append_assoc _ _ _

namespace Build

open Exchange (Logs)

variable {σ : Type} {project : Project σ} {continueOnError : Bool} {path : String} {w w' : World σ}

/-- No listener fails while the record that a visit settles is announced. -/
def Heard (project : Project σ) (visit : String × World σ) : Prop :=
  ∀ record hit w', settle project visit.1 visit.2 = .ok (record, hit) w' →
    ∃ w'', announce project visit.1 record hit w' = .ok () w''

/-- A record that the cache finds for a file is a record of this file. -/
def Filed (project : Project σ) (visit : String × World σ) : Prop :=
  ∀ record s, project.cache.lookup visit.1 visit.2.store = .ok (some record) s →
    record.path = visit.1

/-- A record is made of the file that is settled. -/
theorem path_of_settled {record : FileRecord} {hit : Bool}
    (settled : settle project path w = .ok (record, hit) w') (filed : Filed project (path, w)) :
    record.path = path := by
  have coming := settling project path w
  rw [settled] at coming
  cases coming with
  | hit read lookup => exact filed record _ lookup
  | made => rfl

/-- A rejection that is not a failure of the cache is about the file that is settled. -/
theorem path_of_rejected {r : Rejection} (rejected : settle project path w = .error (.rejected r) w')
    (distinct : ¬ project.cache.Raises (.rejected r)) : r.path = path := by
  have coming := settling project path w
  rw [rejected] at coming
  cases coming with
  | unread | undecoded | unexamined => rfl
  | unanswered read lookup => exact absurd ⟨_, _, _, .inl lookup⟩ distinct
  | unkept read lookup stale decode examine store => exact absurd ⟨_, _, _, .inr ⟨_, store⟩⟩ distinct

/-- Where its announcement does not fail, processing a file fails only if its record cannot be settled. -/
theorem settle_of_failed {failure : Failure} (failed : process project path w = .error failure w')
    (heard : Heard project (path, w)) : settle project path w = .error failure w' := by
  cases settled : settle project path w with
  | error failure w'' =>
      rw [process_error settled] at failed
      exact failed
  | ok outcome w'' =>
      obtain ⟨record, hit⟩ := outcome
      obtain ⟨u, announced⟩ := heard record hit w'' settled
      rw [process_ok settled, bind_ok announced] at failed
      cases failed

/-- A rejection that is passed over is published. -/
theorem visit_of_rejected {r : Rejection} (rejected : process project path w = .error (.rejected r) w') :
    visit project true path w = (do
      onExchange (Exchange.publish project.bus Event.logName (rejectionEvent r))
      return Visit.rejected r) w' := by
  have attempted : attempt project path w = .ok (.rejected r) w' := by
    simp only [attempt, rejected]
  rw [visit, bind_ok attempted]
  rfl

/-- A bus whose listeners take notes only is calm. -/
theorem calm_passive (bus : Nat) :
    Exchange.Calm bus fun x => ∀ name, ∀ l ∈ x.listeners bus name, Listener.Passive l where
  logs := by
    intro x y passive logs name l member
    have shows : Exchange.Shows 0 x y [] := .logs logs
    exact passive name l (shows.listeners bus name ▸ member)
  publish := by
    intro x event passive _
    have begun : Exchange.Shows 0 x (x.observe (.published bus event.name event)) [] :=
      .silent (fun _ => rfl) x
    obtain ⟨y, done, shows⟩ := @Exchange.prints_unheard 0 bus 999 event.name event
      (x.observe (.published bus event.name event))
      fun l member => passive event.name l (begun.listeners bus event.name ▸ member)
    refine ⟨y, done, fun name l member => passive name l ?_⟩
    exact (begun.trans shows).listeners bus name ▸ member

/-- Listeners that are calm stay calm through a run. -/
theorem calm_visits {calm : Exchange → Prop} {paths : List String}
    (quiet : Exchange.Calm project.bus calm) (calmly : calm w.exchange) :
    ∀ visit ∈ visits project continueOnError paths w, calm visit.2.exchange := by
  refine visits_invariant (P := fun w => calm w.exchange) ?_ calmly
  exact fun _ _ _ _ visited calmly => calm_of_visit quiet calmly visited

/-- Among calm listeners none fails. -/
theorem heard_of_calm {calm : Exchange → Prop} {paths : List String}
    (quiet : Exchange.Calm project.bus calm) (calmly : calm w.exchange) :
    ∀ visit ∈ visits project continueOnError paths w, Heard project visit := by
  rintro ⟨path, u⟩ member record hit u' settled
  have calmly' := quiet.logs (calm_visits quiet calmly _ member) (settling project path u).logs
  rw [settled] at calmly'
  let entry := if hit then hitEntry path record else missEntry path record
  obtain ⟨x, -, -, run⟩ :=
    onExchange_publish (w := { u' with exchange := u'.exchange.observe (.logged entry) }) quiet
      (quiet.logs calmly' (Logs.observe entry _)) (.inl ⟨record, hit, rfl⟩)
  exact ⟨_, run⟩

/-- What a visit comes to, if it goes on. -/
def outcome? (project : Project σ) (continueOnError : Bool) (visit : String × World σ) : Option Visit :=
  match Build.visit project continueOnError visit.1 visit.2 with
  | .ok v _ => some v
  | .error _ _ => none

/-- **A run that comes to its end has an outcome for every file**, and its report adds them up. -/
theorem run_outcomes {paths : List String} {report : Report}
    (done : run project continueOnError paths w = .ok report w') :
    ∃ outcomes : List Visit,
      (visits project continueOnError paths w).map (outcome? project continueOnError) =
        outcomes.map some ∧
      (visits project continueOnError paths w).map Prod.fst = paths ∧
      report = outcomes.foldl Report.add Report.empty := by
  refine @run_accumulates σ project continueOnError w
    (fun before paths visits report => ∃ outcomes : List Visit,
      visits.map (outcome? project continueOnError) = outcomes.map some ∧
        visits.map Prod.fst = paths ∧ report = outcomes.foldl Report.add before)
    paths report w' (fun report => ⟨[], rfl, rfl, rfl⟩) ?_ done
  rintro path w v w' rest later before report visited ⟨outcomes, ends, files, sum⟩
  refine ⟨v :: outcomes, ?_, ?_, sum⟩
  · rw [List.map_cons, List.map_cons, ← ends, outcome?, visited]
  · rw [List.map_cons, files]

section

variable {α : Type} {paths : List String} {outcomes : List Visit} {visits : List (String × World σ)}

/-- Every visit has an outcome where the outcomes of visits are given. -/
theorem outcome_of_mem (ends : visits.map (outcome? project continueOnError) = outcomes.map some)
    {visit : String × World σ} (member : visit ∈ visits) :
    ∃ v w', Build.visit project continueOnError visit.1 visit.2 = .ok v w' ∧
      outcome? project continueOnError visit = some v := by
  have here : outcome? project continueOnError visit ∈ outcomes.map some := by
    rw [← ends]
    exact List.mem_map_of_mem member
  obtain ⟨v, -, same⟩ := List.mem_map.mp here
  cases visited : Build.visit project continueOnError visit.1 visit.2 with
  | ok v w' => exact ⟨v, w', rfl, by rw [outcome?, visited]⟩
  | error failure w' =>
      rw [outcome?, visited] at same
      cases same

/-- What is known of each visit from its outcome is known of all of them. -/
theorem map_outcomes (ends : visits.map (outcome? project continueOnError) = outcomes.map some)
    {f : Visit → α} {g : String × World σ → α}
    (each : ∀ visit ∈ visits, ∀ v, outcome? project continueOnError visit = some v → f v = g visit) :
    outcomes.map f = visits.map g := by
  apply (List.map_inj_right fun _ _ => Option.some.inj).mp
  calc (outcomes.map f).map some
      = (outcomes.map some).map (Option.map f) := by
        rw [List.map_map, List.map_map]
        rfl
    _ = visits.map (Option.map f ∘ outcome? project continueOnError) := by
        rw [← ends, List.map_map]
    _ = visits.map (some ∘ g) := by
        refine List.map_congr_left fun visit member => ?_
        obtain ⟨v, -, -, outcome⟩ := outcome_of_mem ends member
        rw [Function.comp_apply, outcome, Option.map_some, each visit member v outcome,
          Function.comp_apply]
    _ = (visits.map g).map some := by rw [List.map_map]

end

/-- A project of empty files, one of which cannot be found.  Examining a file finds one thing. -/
def mixed : Project Storage where
  read path := if path = "b.py" then .error (.disk .notFound ⟨"", ["b.py"]⟩) else .ok []
  examine _ _ := ⟨.ok [⟨.error, "%s is empty", [.text "file"], some 1⟩], []⟩
  cache := .memory
  bus := 0
  clock _ := ⟨⟨2026, 5, 1⟩, 12, 0, 0, 0, none⟩

/-- A record of an empty file. -/
def empty : FileRecord :=
  ⟨"c.py", Digest.fingerprint [], ⟨⟨2026, 4, 1⟩, 12, 0, 0, 0, none⟩, []⟩

/-- A world where the cache holds that record and a listener takes notes. -/
def noted : World Storage :=
  ⟨⟨.directory [], [("c.py", empty)]⟩,
    (Exchange.new 1 []).register 0 ⟨Event.cachedName, Listener.recorder "notes"⟩, 0, []⟩

theorem passive_noted : ∀ name, ∀ l ∈ noted.exchange.listeners 0 name, Listener.Passive l := by
  refine Exchange.passive_of_registrations fun r member => ?_
  rw [List.mem_singleton.mp member]
  exact Listener.recorder_passive "notes"

end Build

end Docwright
