import Docwright.Proofs.Build.Judgement

/-!
# What is made of each visit

`settled?` is the record that a visit settles, with whether the cache held it,
and `reported?` is what a run takes into its report.  They differ only where an
announcement fails: then the record is settled, and kept if it was made, but not
reported.

`processed` says everything else that a visit with a settled record does: a
record that the cache held costs neither a timestamp nor an examination, a record
that was made costs exactly one of each, and either way the record itself is what
is announced.
-/

namespace Docwright.Build

open Exchange (Logs)

variable {σ : Type} {project : Project σ} {continueOnError hit : Bool} {path : String} {w : World σ}
  {record : FileRecord}

/-- The record that a visit settles, and whether the cache held it. -/
def settled? (project : Project σ) (visit : String × World σ) : Option (FileRecord × Bool) :=
  match settle project visit.1 visit.2 with
  | .ok outcome _ => some outcome
  | .error _ _ => none

theorem settled?_eq_some_iff {outcome : FileRecord × Bool} :
    settled? project (path, w) = some outcome ↔ ∃ w', settle project path w = .ok outcome w' := by
  unfold settled?
  cases settle project path w with
  | ok found w' => simp
  | error failure w' => simp

/-- The record that a run takes into its report for a visit, and whether the cache held it. -/
def reported? (project : Project σ) (continueOnError : Bool) (visit : String × World σ) :
    Option (FileRecord × Bool) :=
  match Build.visit project continueOnError visit.1 visit.2 with
  | .ok (.accepted record hit) _ => some (record, hit)
  | .ok (.rejected _) _ | .error _ _ => none

/-- Everything that is done about a file whose record is settled.  A record that is reported, or
returned, is the one that was settled; after an announcement that did not fail it is. -/
structure Processed (project : Project σ) (continueOnError : Bool) (path : String) (w : World σ)
    (record : FileRecord) (hit : Bool) : Prop where
  settled : settled? project (path, w) = some (record, hit)
  ticks : (endState (process project path w)).ticks = w.ticks + if hit then 0 else 1
  examined : (endState (process project path w)).examined =
    w.examined ++ if hit then [] else [path]
  announced : (endState (process project path w)).exchange.announced =
    w.exchange.announced ++ [announcement record hit]
  returned : ∀ outcome w', process project path w = .ok outcome w' →
    outcome = (record, hit) ∧ reported? project continueOnError (path, w) = some (record, hit)
  reported : ∀ outcome, reported? project continueOnError (path, w) = some outcome →
    outcome = (record, hit)

/-! ### The parts of a visit -/

/-- A visit that goes on has settled its record or was rejected. -/
theorem visit_ok {v : Visit} {w' : World σ} (visited : visit project continueOnError path w = .ok v w') :
    (∃ outcome w'', process project path w = .ok outcome w'' ∧ v = .accepted outcome.1 outcome.2) ∨
      (∃ r w'', process project path w = .error (.rejected r) w'' ∧ v = .rejected r) := by
  unfold visit at visited
  rw [bind_apply] at visited
  unfold attempt at visited
  cases run : process project path w with
  | ok outcome w'' =>
      rw [run] at visited
      obtain ⟨record, hit⟩ := outcome
      cases visited
      exact .inl ⟨_, _, rfl, rfl⟩
  | error failure w'' =>
      rw [run] at visited
      cases failure with
      | rejected r =>
          refine .inr ⟨r, w'', rfl, ?_⟩
          cases continueOnError with
          | false => cases visited
          | true =>
              simp only [if_true] at visited
              rw [bind_apply] at visited
              revert visited
              cases onExchange (Exchange.publish project.bus Event.logName (rejectionEvent r)) w'' with
              | ok _ w''' =>
                  intro visited
                  cases visited
                  rfl
              | error failure w''' =>
                  intro visited
                  cases visited
      | _ => cases visited

/-- A file that was processed is reported. -/
theorem visit_of_process {outcome : FileRecord × Bool} {w' : World σ}
    (done : process project path w = .ok outcome w') :
    visit project continueOnError path w = .ok (.accepted outcome.1 outcome.2) w' := by
  have attempted : attempt project path w = .ok (.accepted outcome.1 outcome.2) w' := by
    simp only [attempt, done]
  unfold visit
  rw [bind_ok attempted]
  rfl

/-- What is processed is what was settled. -/
theorem process_settled {w' : World σ} (settled : settle project path w = .ok (record, hit) w')
    {outcome : FileRecord × Bool} {w'' : World σ}
    (done : process project path w = .ok outcome w'') : outcome = (record, hit) := by
  rw [process_ok settled, bind_apply] at done
  revert done
  cases announce project path record hit w' with
  | ok _ _ =>
      intro done
      cases done
      rfl
  | error _ _ =>
      intro done
      cases done

theorem process_of_settle_error {failure : Failure} {w' : World σ}
    (failed : settle project path w = .error failure w') {outcome : FileRecord × Bool}
    {w'' : World σ} : process project path w ≠ .ok outcome w'' := by
  rw [process_error failed]
  nofun

/-- Only what was processed is reported. -/
theorem process_of_reported {outcome : FileRecord × Bool}
    (reported : reported? project continueOnError (path, w) = some outcome) :
    ∃ w', process project path w = .ok outcome w' := by
  unfold reported? at reported
  split at reported
  · next record hit w' visited =>
      obtain rfl := Option.some.inj reported
      rcases visit_ok visited with ⟨outcome, w'', done, same⟩ | ⟨r, w'', -, same⟩
      · cases same
        exact ⟨w'', done⟩
      · cases same
  · cases reported
  · cases reported

theorem reported_of_process {outcome : FileRecord × Bool} {w' : World σ}
    (done : process project path w = .ok outcome w') :
    reported? project continueOnError (path, w) = some outcome := by
  unfold reported?
  rw [visit_of_process done]

/-- The announcement of a record is all that it publishes, also where it fails. -/
theorem publications_announce (project : Project σ) (path : String) (record : FileRecord) (hit : Bool)
    (w : World σ) :
    (endState (announce project path record hit w)).exchange.publications =
      w.exchange.publications ++
        [(project.bus, (announcement record hit).name, announcement record hit)] := by
  have published := fun entry => Exchange.publications_publish project.bus
    (announcement record hit).name (announcement record hit) (w.exchange.observe (.logged entry))
  rw [announce_apply]
  have said := published (if hit then hitEntry path record else missEntry path record)
  rw [(Logs.observe _ w.exchange).publications] at said
  rw [← said]
  dsimp only [onExchange]
  cases Exchange.publish project.bus (announcement record hit).name (announcement record hit) _ <;>
    rfl

theorem publications_process {w' : World σ}
    (settled : settle project path w = .ok (record, hit) w') :
    (endState (process project path w)).exchange.publications =
      w'.exchange.publications ++
        [(project.bus, (announcement record hit).name, announcement record hit)] := by
  rw [process_ok settled, bind_apply, ← publications_announce project path]
  cases announce project path record hit w' <;> rfl

/-- What settling a record costs. -/
theorem Settling.cost {w' : World σ} (settling : Settling project path w (.ok (record, hit) w')) :
    w'.ticks = w.ticks + (if hit then 0 else 1) ∧
      w'.examined = w.examined ++ if hit then [] else [path] := by
  cases settling with
  | hit => exact ⟨rfl, (List.append_nil _).symm⟩
  | made => exact ⟨rfl, rfl⟩

/-- **What is done about a file whose record is settled.** -/
theorem processed (continueOnError : Bool) (settled : settled? project (path, w) = some (record, hit)) :
    Processed project continueOnError path w record hit := by
  obtain ⟨w', settled'⟩ := settled?_eq_some_iff.mp settled
  obtain ⟨x, ending⟩ := endState_process project path w
  have coming := settling project path w
  rw [settled'] at coming ending
  obtain ⟨ticks, examined⟩ := coming.cost
  have logs := coming.logs.publications
  rw [endState_ok] at logs
  refine ⟨settled, ?_, ?_, ?_, ?_, ?_⟩
  · rw [ending]
    exact ticks
  · rw [ending]
    exact examined
  · rw [Exchange.announced_eq, publications_process settled', logs, List.map_append,
      ← Exchange.announced_eq]
    rfl
  · intro outcome w'' done
    obtain rfl := process_settled settled' done
    exact ⟨rfl, reported_of_process done⟩
  · intro outcome reported
    obtain ⟨w'', done⟩ := process_of_reported reported
    exact process_settled settled' done

/-! ### What is left of a cache -/

/-- What settling a file leaves of a cache: all of its records, except that one that was made takes the
place of the one before. -/
structure Leaves (project : Project σ) (ledger : Ledger σ) (path : String)
    (settled : Option (FileRecord × Bool)) (s s' : σ) : Prop where
  legal : ledger.legal s'
  other : (∀ record, settled ≠ some (record, false)) → ledger.kept s' = ledger.kept s
  made : ∀ {record : FileRecord}, settled = some (record, false) →
    (∃ data, project.read path = .ok data ∧ record.fingerprint = Digest.fingerprint data) ∧
      ledger.kept s' = Function.update (ledger.kept s) path (some record)

theorem leaves (path : String) {ledger : Ledger σ} (faithful : project.cache.Faithful ledger)
    (fits : project.Fits ledger) (legal : ledger.legal w.store) :
    Leaves project ledger path (settled? project (path, w)) w.store
      (endState (settle project path w)).store := by
  have coming := settling project path w
  unfold settled?
  generalize settle project path w = result at coming
  cases coming with
  | null | unread => exact ⟨legal, fun _ => rfl, nofun⟩
  | unanswered read lookup =>
      obtain ⟨-, legal', same⟩ := faithful.lookup_error legal lookup
      exact ⟨legal', fun _ => same, nofun⟩
  | hit read lookup =>
      obtain ⟨-, legal', same⟩ := faithful.lookup_ok legal lookup
      exact ⟨legal', fun _ => same, nofun⟩
  | undecoded read lookup | unexamined read lookup =>
      obtain ⟨-, legal', same⟩ := faithful.lookup_ok legal lookup
      exact ⟨legal', fun _ => same, nofun⟩
  | unkept read lookup stale decode examine store =>
      obtain ⟨-, legal', same⟩ := faithful.lookup_ok legal lookup
      obtain ⟨-, legal'', same'⟩ := faithful.store_error legal' store
      exact ⟨legal'', fun _ => same'.trans same, nofun⟩
  | made read lookup stale decode examine store =>
      obtain ⟨-, legal', same⟩ := faithful.lookup_ok legal lookup
      obtain ⟨legal'', updated⟩ := faithful.store_ok legal' (fits _ _ examine) rfl store
      refine ⟨legal'', fun other => absurd rfl (other _), fun {record} made => ?_⟩
      cases made
      rw [same] at updated
      exact ⟨⟨_, read, rfl⟩, updated⟩

/-- A cache that may occur at the beginning of a run may occur at all of its visits. -/
theorem legal_visits {ledger : Ledger σ} {paths : List String} (faithful : project.cache.Faithful ledger)
    (fits : project.Fits ledger) (legal : ledger.legal w.store) :
    ∀ visit ∈ visits project continueOnError paths w, ledger.legal visit.2.store := by
  refine visits_invariant (P := fun w => ledger.legal w.store) ?_ legal
  rintro ⟨path, u⟩ member outcome u' visited legal
  have next : ledger.legal (endState (visit project continueOnError path u)).store :=
    visit_invariant (P := fun w => ledger.legal w.store) (fun _ _ => id)
      (leaves path faithful fits legal).legal
  rwa [visited] at next

/-! ### What is vouched for -/

section

variable {ledger : Ledger σ} {Q : String → FileRecord → Prop}

/-- A cache all of whose records have a property. -/
structure Vouches (ledger : Ledger σ) (Q : String → FileRecord → Prop) (s : σ) : Prop where
  legal : ledger.legal s
  kept : ∀ {path record}, ledger.kept s path = some record → Q path record

/-- A memory vouches for what all of its entries have. -/
theorem vouches_memory {s : Storage} (entries : ∀ entry ∈ s.memory, Q entry.1 entry.2) :
    Vouches Ledger.memory Q s where
  legal := trivial
  kept := by
    intro path record kept
    obtain ⟨before, after, split, -⟩ := List.lookup_eq_some_iff.mp kept
    exact entries (path, record) (split ▸ List.mem_append_right before List.mem_cons_self)

/-- Whatever is made of a file has a property. -/
def Makes (project : Project σ) (Q : String → FileRecord → Prop) : Prop :=
  ∀ {path data text problems} (ticks : Nat), project.read path = .ok data →
    (project.examine path text).result = .ok problems →
      Q path (recordMade project path data ticks problems)

/-- Whatever the cache answers at a visit has a property, and whatever the visit settles. -/
structure Vouched (project : Project σ) (Q : String → FileRecord → Prop) (visit : String × World σ) :
    Prop where
  found : ∀ {record s}, project.cache.lookup visit.1 visit.2.store = .ok (some record) s →
    Q visit.1 record
  settled : ∀ {record hit w'}, settle project visit.1 visit.2 = .ok (record, hit) w' → Q visit.1 record

theorem vouched (path : String) (faithful : project.cache.Faithful ledger) (makes : Makes project Q)
    (vouches : Vouches ledger Q w.store) : Vouched project Q (path, w) := by
  have found : ∀ {record s}, project.cache.lookup path w.store = .ok (some record) s →
      Q path record :=
    fun lookup => vouches.kept (faithful.lookup_ok vouches.legal lookup).1.symm
  refine ⟨found, fun {record hit w'} settled => ?_⟩
  have coming := settling project path w
  rw [settled] at coming
  cases coming with
  | hit read lookup => exact found lookup
  | made read lookup stale decode examine => exact makes _ read examine

/-- A cache that holds what a file was settled to holds nothing else that is new. -/
theorem vouches_settle (path : String) (faithful : project.cache.Faithful ledger)
    (fits : project.Fits ledger) (makes : Makes project Q) (vouches : Vouches ledger Q w.store) :
    Vouches ledger Q (endState (settle project path w)).store := by
  obtain ⟨legal, other, made⟩ := leaves path faithful fits vouches.legal
  refine ⟨legal, fun {q record} kept => ?_⟩
  by_cases anew : ∃ record, settled? project (path, w) = some (record, false)
  · obtain ⟨new, settled⟩ := anew
    rw [(made settled).2, Function.update_apply] at kept
    split at kept
    · next same =>
        obtain rfl := Option.some.inj kept
        obtain ⟨w', settled'⟩ := settled?_eq_some_iff.mp settled
        exact same ▸ (vouched path faithful makes vouches).settled settled'
    · exact vouches.kept kept
  · rw [other fun record settled => anew ⟨record, settled⟩] at kept
    exact vouches.kept kept

/-- **The visits of a run are vouched for**, if the cache is faithful: a record that is made is one that
the cache may answer with later. -/
theorem visits_vouched {paths : List String} (faithful : project.cache.Faithful ledger)
    (fits : project.Fits ledger) (makes : Makes project Q) (vouches : Vouches ledger Q w.store) :
    ∀ visit ∈ visits project continueOnError paths w, Vouched project Q visit := by
  have passes : ∀ visit ∈ visits project continueOnError paths w, ∀ outcome w',
      Build.visit project continueOnError visit.1 visit.2 = .ok outcome w' →
        Vouches ledger Q visit.2.store → Vouches ledger Q w'.store := by
    rintro ⟨path, u⟩ member outcome w' visited vouches
    have next : Vouches ledger Q (endState (Build.visit project continueOnError path u)).store :=
      visit_invariant (P := fun w => Vouches ledger Q w.store) (fun _ _ => id)
        (vouches_settle path faithful fits makes vouches)
    rwa [visited] at next
  intro visit member
  exact vouched visit.1 faithful makes
    (visits_invariant (P := fun w => Vouches ledger Q w.store) passes vouches visit member)

end

/-! ### The report of a run -/

/-- A report with the given records, after those of another report, and with the counts of those that
the cache held and of those that were made. -/
structure Report.Lists (report before : Report) (outcomes : List (FileRecord × Bool)) : Prop where
  records : report.records = before.records ++ outcomes.map Prod.fst
  cached : report.cached = before.cached + outcomes.countP fun outcome => outcome.2
  analyzed : report.analyzed = before.analyzed + outcomes.countP fun outcome => !outcome.2

theorem Report.Lists.refl (report : Report) : Lists report report [] :=
  ⟨by simp, by simp, by simp⟩

theorem Report.Lists.trans {report middle before : Report} {first rest : List (FileRecord × Bool)}
    (one : Lists middle before first) (two : Lists report middle rest) :
    Lists report before (first ++ rest) where
  records := by rw [two.records, one.records, List.map_append, List.append_assoc]
  cached := by rw [two.cached, one.cached, List.countP_append, Nat.add_assoc]
  analyzed := by rw [two.analyzed, one.analyzed, List.countP_append, Nat.add_assoc]

/-- A report with one visit more lists one record more, or none. -/
theorem lists_add {v : Visit} {w' : World σ} (before : Report)
    (visited : visit project continueOnError path w = .ok v w') :
    Report.Lists (before.add v) before (reported? project continueOnError (path, w)).toList := by
  unfold reported?
  rw [visited]
  cases v with
  | rejected r => exact ⟨(List.append_nil _).symm, rfl, rfl⟩
  | accepted record hit =>
      cases hit with
      | true => exact ⟨rfl, rfl, rfl⟩
      | false => exact ⟨rfl, rfl, rfl⟩

/-- **A run reports the records that its visits report**, in their order. -/
theorem run_reports {paths : List String} {report : Report} {w' : World σ}
    (done : run project continueOnError paths w = .ok report w') :
    Report.Lists report Report.empty
      ((visits project continueOnError paths w).filterMap (reported? project continueOnError)) := by
  refine @run_accumulates σ project continueOnError w
    (fun before _ visits report => Report.Lists report before
      (visits.filterMap (reported? project continueOnError))) paths report w' .refl ?_ done
  intro path w v w' rest later before report visited lists
  have whole := (lists_add before visited).trans lists
  rw [List.filterMap_cons]
  revert whole
  cases reported? project continueOnError (path, w) <;> exact id

/-- A run takes up no more files than there are. -/
theorem length_visits_le (paths : List String) (w : World σ) :
    (visits project continueOnError paths w).length ≤ paths.length := by
  have taken : (visits project continueOnError paths w).map Prod.fst <+: paths := visits_prefix paths w
  exact List.length_map Prod.fst ▸ taken.length_le

/-- The counts of a report are no greater than that of the files. -/
theorem counts_le {paths : List String} {report : Report} {w' : World σ}
    (done : run project continueOnError paths w = .ok report w') :
    report.cached ≤ paths.length ∧ report.analyzed ≤ paths.length ∧
      report.records.length ≤ paths.length := by
  obtain ⟨records, cached, analyzed⟩ := run_reports done
  have few : ((visits project continueOnError paths w).filterMap
      (reported? project continueOnError)).length ≤ paths.length :=
    Nat.le_trans (List.length_filterMap_le _ _) (length_visits_le paths w)
  refine ⟨?_, ?_, ?_⟩
  · rw [cached, Report.empty, Nat.zero_add]
    exact Nat.le_trans List.countP_le_length few
  · rw [analyzed, Report.empty, Nat.zero_add]
    exact Nat.le_trans List.countP_le_length few
  · rw [records, Report.empty, List.nil_append, List.length_map]
    exact few

end Docwright.Build
