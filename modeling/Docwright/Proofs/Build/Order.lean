import Docwright.Proofs.Build.Conservation
import Docwright.Proofs.Build.Final
import Mathlib.Algebra.GroupWithZero.Nat

/-!
# The order of files

What comes of a file is `Due` to its own content and to the record that the cache holds
for it, and to nothing else: not to the files that were taken up before, nor to the time.
A visit that goes on gives its file what is due and touches the record of no other file
(`visit_comes`), so what comes of the files of a list, one after another, is what would
come of each of them alone (`Comes.append`).

Files can therefore be taken up in any order, and in any number of runs instead of one:
every file comes to the same, the counts and the status of all runs together are the same,
and the caches at the end differ at most in the times of the records that were made
(`arrangements_agree`).  A path that cannot be that of a file, since it has a null
character, is the one exception.  It is no rejection and ends the run, so there it does
matter which files come before it (`null_separates`).
-/

namespace Docwright

namespace Visit

/-- The record that was made. -/
def made? : Visit → Option FileRecord
  | accepted record false => some record
  | accepted _ true | rejected _ => none

/-- Whether an outcome leaves the report of its run clean. -/
def isClean : Visit → Bool
  | accepted record _ => !Report.isGrave record
  | rejected _ => false

/-- Two outcomes that are the same, but for the time of a record that was made. -/
inductive Like : Visit → Visit → Prop
  | found (record : FileRecord) : Like (accepted record true) (accepted record true)
  | made {record record' : FileRecord} (same : record.finding = record'.finding) :
      Like (accepted record false) (accepted record' false)
  | rejected (r : Rejection) : Like (rejected r) (rejected r)

variable {v v' : Visit}

theorem Like.hit? (like : Like v v') : v.hit? = v'.hit? := by
  cases like <;> rfl

theorem Like.isSome_record? (like : Like v v') : v.record?.isSome = v'.record?.isSome := by
  cases like <;> rfl

theorem Like.isSome_rejection? (like : Like v v') : v.rejection?.isSome = v'.rejection?.isSome := by
  cases like <;> rfl

/-- The gravity of a record lies in its problems. -/
theorem Like.isClean (like : Like v v') : v.isClean = v'.isClean := by
  cases like with
  | found | rejected => rfl
  | made same =>
      have problems := congrArg Finding.problems same
      simp only [FileRecord.finding] at problems
      simp only [Visit.isClean, Report.isGrave, FileRecord.maxSeverity?, problems]

end Visit

namespace Report

/-- The reports of several runs as one. -/
def total (reports : List Report) : Report :=
  ⟨reports.flatMap records, reports.flatMap failures, (reports.map cached).sum,
    (reports.map analyzed).sum⟩

/-- The report of a run that has come to the given outcomes. -/
def ofOutcomes (outcomes : List Visit) : Report :=
  outcomes.foldl add empty

theorem sums_ofOutcomes (outcomes : List Visit) : Sums (ofOutcomes outcomes) empty outcomes :=
  sums_foldl outcomes empty

/-- A report is determined by what it says. -/
theorem Sums.unique {report report' before : Report} {outcomes : List Visit}
    (sums : Sums report before outcomes) (sums' : Sums report' before outcomes) : report = report' := by
  obtain ⟨records, failures, cached, analyzed⟩ := report
  obtain ⟨rfl, rfl, rfl, rfl⟩ := sums
  obtain ⟨records', failures', cached', analyzed'⟩ := report'
  obtain ⟨rfl, rfl, rfl, rfl⟩ := sums'
  rfl

/-- Outcomes that are reported in groups add up to the same as in one report. -/
theorem total_ofOutcomes (groups : List (List Visit)) :
    total (groups.map ofOutcomes) = ofOutcomes groups.flatten := by
  induction groups with
  | nil => rfl
  | cons outcomes rest ih =>
      have first := sums_ofOutcomes outcomes
      have later := sums_ofOutcomes rest.flatten
      rw [← ih] at later
      refine Sums.unique ⟨?_, ?_, ?_, ?_⟩ (sums_ofOutcomes (outcomes ++ rest.flatten))
      · show (ofOutcomes outcomes).records ++ (total (rest.map ofOutcomes)).records = _
        rw [first.records, later.records, List.filterMap_append]
        rfl
      · show (ofOutcomes outcomes).failures ++ (total (rest.map ofOutcomes)).failures = _
        rw [first.failures, later.failures, List.filterMap_append]
        rfl
      · show (ofOutcomes outcomes).cached + (total (rest.map ofOutcomes)).cached = _
        rw [first.cached, later.cached, List.countP_append]
        show 0 + _ + (0 + _) = 0 + (_ + _)
        omega
      · show (ofOutcomes outcomes).analyzed + (total (rest.map ofOutcomes)).analyzed = _
        rw [first.analyzed, later.analyzed, List.countP_append]
        show 0 + _ + (0 + _) = 0 + (_ + _)
        omega

/-- A report is clean if all of its outcomes are. -/
theorem isClean_foldl (outcomes : List Visit) (report : Report) :
    (outcomes.foldl add report).isClean = (report.isClean && outcomes.all Visit.isClean) := by
  induction outcomes generalizing report with
  | nil => simp
  | cons v rest ih =>
      rw [List.foldl_cons, ih, List.all_cons, ← Bool.and_assoc]
      congr 1
      cases v with
      | accepted record hit =>
          simp [add, accept, isClean, Visit.isClean, Bool.and_assoc]
      | rejected r =>
          simp [add, reject, isClean, Visit.isClean]

theorem isClean_ofOutcomes (outcomes : List Visit) :
    (ofOutcomes outcomes).isClean = outcomes.all Visit.isClean :=
  (isClean_foldl outcomes empty).trans (Bool.true_and _)

end Report

namespace Build

variable {σ : Type} {project : Project σ} {ledger : Ledger σ} {calm : Exchange → Prop}
  {path : String} {paths paths' : List String} {w w' w₁ w₂ : World σ} {found : Option FileRecord}
  {outcome outcome' : String → Visit}

/-! ### What is due to a file -/

/-- What comes of a file with the content that it has, where the cache holds the given record. -/
inductive Due (project : Project σ) (path : String) (found : Option FileRecord) : Visit → Prop
  | found {data : List UInt8} {record : FileRecord} (read : project.read path = .ok data)
      (current : current? (Digest.fingerprint data) found = some record) :
      Due project path found (.accepted record true)
  | made {data : List UInt8} {text : List Char} {problems : List Problem} (ticks : Nat)
      (read : project.read path = .ok data)
      (stale : current? (Digest.fingerprint data) found = none)
      (decode : Text.Utf8.decode data = .ok text)
      (examine : (project.examine path (String.ofList text)).result = .ok problems) :
      Due project path found (.accepted (recordMade project path data ticks problems) false)
  | unread {fault : Disk.Fault} {place : Path}
      (unread : project.read path = .error (.disk fault place)) :
      Due project path found (.rejected ⟨path, fault.describe place⟩)
  | refused {data : List UInt8} {r : Rejection} (read : project.read path = .ok data)
      (stale : current? (Digest.fingerprint data) found = none)
      (refused : project.refusal? path data = some r) :
      Due project path found (.rejected r)

/-- Only one outcome is due to a file, but for the time. -/
theorem Due.like {v v' : Visit} (due : Due project path found v) (due' : Due project path found v') :
    v.Like v' := by
  cases due with
  | found read current =>
      cases due' with
      | found read' current' =>
          cases read.symm.trans read'
          cases current.symm.trans current'
          exact .found _
      | made _ read' stale' | refused read' stale' =>
          cases read.symm.trans read'
          cases current.symm.trans stale'
      | unread unread => cases read.symm.trans unread
  | made ticks read stale decode examine =>
      cases due' with
      | found read' current' =>
          cases read.symm.trans read'
          cases current'.symm.trans stale
      | made ticks' read' stale' decode' examine' =>
          cases read.symm.trans read'
          cases decode.symm.trans decode'
          cases examine.symm.trans examine'
          exact .made rfl
      | unread unread => cases read.symm.trans unread
      | refused read' stale' refused =>
          cases read.symm.trans read'
          simp only [Project.refusal?, decode, examine] at refused
          cases refused
  | unread unread =>
      cases due' with
      | found read' | made _ read' | refused read' => cases unread.symm.trans read'
      | unread unread' =>
          cases unread.symm.trans unread'
          exact .rejected _
  | refused read stale refused =>
      cases due' with
      | found read' current' =>
          cases read.symm.trans read'
          cases current'.symm.trans stale
      | made ticks' read' stale' decode' examine' =>
          cases read.symm.trans read'
          simp only [Project.refusal?, decode', examine'] at refused
          cases refused
      | unread unread => cases read.symm.trans unread
      | refused read' stale' refused' =>
          cases read.symm.trans read'
          cases refused.symm.trans refused'
          exact .rejected _

/-- What has come of files, each by itself, and what the cache holds then. -/
structure Comes (project : Project σ) (ledger : Ledger σ) (calm : Exchange → Prop) (paths : List String)
    (w : World σ) (outcome : String → Visit) (w' : World σ) : Prop where
  legal : ledger.legal w'.store
  calmly : calm w'.exchange
  due : ∀ path ∈ paths, Due project path (ledger.kept w.store path) (outcome path)
  inside : ∀ path ∈ paths,
    ledger.kept w'.store path = (outcome path).made?.or (ledger.kept w.store path)
  outside : ∀ path ∉ paths, ledger.kept w'.store path = ledger.kept w.store path

/-- The outcomes of some files, and those of the others. -/
def besides (paths : List String) (outcome outcome' : String → Visit) (path : String) : Visit :=
  if path ∈ paths then outcome path else outcome' path

theorem besides_of_mem (member : path ∈ paths) : besides paths outcome outcome' path = outcome path :=
  if_pos member

theorem besides_of_disjoint (disjoint : ∀ path ∈ paths, path ∉ paths') (member : path ∈ paths') :
    besides paths outcome outcome' path = outcome' path :=
  if_neg fun other => disjoint _ other member

/-- **The frame.**  Files leave alone what is due to other files. -/
theorem Comes.append (disjoint : ∀ path ∈ paths, path ∉ paths')
    (first : Comes project ledger calm paths w outcome w₁)
    (later : Comes project ledger calm paths' w₁ outcome' w₂) :
    Comes project ledger calm (paths ++ paths') w (besides paths outcome outcome') w₂ where
  legal := later.legal
  calmly := later.calmly
  due := by
    intro path member
    rcases List.mem_append.mp member with one | two
    · rw [besides_of_mem one]
      exact first.due path one
    · have due := later.due path two
      have other : besides paths outcome outcome' path = outcome' path := besides_of_disjoint disjoint two
      rwa [first.outside path fun one => disjoint path one two, ← other] at due
  inside := by
    intro path member
    rcases List.mem_append.mp member with one | two
    · rw [besides_of_mem one, later.outside path (disjoint path one), first.inside path one]
    · rw [besides_of_disjoint disjoint two, later.inside path two,
        first.outside path fun one => disjoint path one two]
  outside := by
    intro path absent
    rw [later.outside path fun two => absent (List.mem_append_right _ two),
      first.outside path fun one => absent (List.mem_append_left _ one)]

/-- How taking up files ends: by a failure of the cache, at a path with a null character, or with an
outcome for every file and a value that is made of them. -/
inductive Arrives (project : Project σ) (ledger : Ledger σ) (calm : Exchange → Prop)
    (paths : List String) (w : World σ) {α : Type} (value : (String → Visit) → α) :
    EStateM.Result Failure (World σ) α → Prop
  | byCache {failure : Failure} {w' : World σ} (raised : project.cache.Raises failure) :
      Arrives project ledger calm paths w value (.error failure w')
  | null {path : String} {w' : World σ} (member : path ∈ paths)
      (unread : project.read path = .error .null) :
      Arrives project ledger calm paths w value (.error .nullByte w')
  | done {outcome : String → Visit} {w' : World σ}
      (comes : Comes project ledger calm paths w outcome w') :
      Arrives project ledger calm paths w value (.ok (value outcome) w')

/-! ### Files one after another -/

/-- The record that a visit makes of its file. -/
def anew? (project : Project σ) (visit : String × World σ) : Option FileRecord :=
  (settled? project visit).bind fun outcome => (Visit.accepted outcome.1 outcome.2).made?

theorem anew?_of_settled {outcome : Option (FileRecord × Bool)}
    (settled : settled? project (path, w) = outcome) :
    anew? project (path, w) =
      outcome.bind fun outcome => (Visit.accepted outcome.1 outcome.2).made? := by
  rw [anew?, settled]

/-- Settling a file leaves the records of other files alone. -/
theorem kept_settle (faithful : project.cache.Faithful ledger) (fits : project.Fits ledger)
    (legal : ledger.legal w.store) (q : String) :
    ledger.kept (endState (settle project path w)).store q =
      if q = path then (anew? project (path, w)).or (ledger.kept w.store q)
      else ledger.kept w.store q := by
  have left := leaves path faithful fits legal
  cases settled : settled? project (path, w) with
  | none =>
      rw [left.other fun record same => (nomatch settled.symm.trans same), anew?_of_settled settled]
      exact (ite_self _).symm
  | some outcome =>
      obtain ⟨record, hit⟩ := outcome
      rw [anew?_of_settled settled]
      cases hit with
      | true =>
          rw [left.other fun record same => (nomatch settled.symm.trans same)]
          exact (ite_self _).symm
      | false =>
          rw [(left.made settled).2, Function.update_apply]
          split <;> rfl

/-- What a visit comes to, if its outcome is due to its file. -/
theorem comes_of_due (faithful : project.cache.Faithful ledger) (fits : project.Fits ledger)
    (legal : ledger.legal w.store) {v : Visit} (due : Due project path (ledger.kept w.store path) v)
    (made : anew? project (path, w) = v.made?) {x : Exchange} (calmly : calm x) :
    Comes project ledger calm [path] w (fun _ => v)
      { endState (settle project path w) with exchange := x } := by
  have kept : ∀ q, _ := @kept_settle _ _ _ path _ faithful fits legal
  refine ⟨(leaves path faithful fits legal).legal, calmly, fun q member => ?_, fun q member => ?_,
    fun q absent => ?_⟩
  · obtain rfl := List.mem_singleton.mp member
    exact due
  · obtain rfl := List.mem_singleton.mp member
    exact (kept q).trans (by rw [if_pos rfl, made])
  · exact (kept q).trans (if_neg fun same => absent (List.mem_singleton.mpr same))

/-- **What comes of a visit.** -/
theorem visit_comes (faithful : project.cache.Faithful ledger) (fits : project.Fits ledger)
    (quiet : Exchange.Calm project.bus calm) (legal : ledger.legal w.store) (calmly : calm w.exchange) :
    Arrives project ledger calm [path] w (fun outcome => outcome path) (visit project true path w) := by
  have coming := settling project path w
  have calmly' := quiet.logs calmly coming.logs
  cases settled : settle project path w with
  | ok outcome u =>
      obtain ⟨record, hit⟩ := outcome
      rw [settled] at coming calmly'
      obtain ⟨x, stays, -, run⟩ := visit_accepted true settled quiet calmly'
      have known := settled?_eq_some_iff.mpr ⟨u, settled⟩
      have due : Due project path (ledger.kept w.store path) (.accepted record hit) := by
        cases coming with
        | hit read lookup same =>
            obtain ⟨there, -⟩ := faithful.lookup_ok legal lookup
            exact .found read (by rw [← there, current?_of_same same])
        | made read lookup stale decode examine =>
            rw [(faithful.lookup_ok legal lookup).1] at stale
            exact .made _ read stale decode examine
      have comes := comes_of_due faithful fits legal due (anew?_of_settled known) stays
      rw [settled, endState_ok] at comes
      rw [run]
      exact .done comes
  | error failure u =>
      rw [settled] at coming calmly'
      have unsettled : anew? project (path, w) = none := by
        rw [anew?, settled?, settled]
        rfl
      -- a rejection is passed over, whatever it is for
      have passed : ∀ r, failure = .rejected r →
          Due project path (ledger.kept w.store path) (.rejected r) →
            Arrives project ledger calm [path] w (fun outcome => outcome path)
              (visit project true path w) := by
        rintro r rfl due
        obtain ⟨x, stays, -, run⟩ := visit_rejected settled quiet calmly'
        have comes := comes_of_due faithful fits legal due unsettled stays
        rw [settled, endState_error] at comes
        rw [run]
        exact .done comes
      cases coming with
      | null unread =>
          rw [visit_ended settled (.inr fun r other => by cases other)]
          exact .null List.mem_cons_self unread
      | unread unread => exact passed _ rfl (.unread unread)
      | unanswered read lookup =>
          rw [visit_ended settled (.inr (faithful.lookup_error legal lookup).1)]
          exact .byCache ⟨_, _, _, .inl lookup⟩
      | undecoded read lookup stale decode =>
          rw [(faithful.lookup_ok legal lookup).1] at stale
          exact passed _ rfl (.refused read stale (by simp only [Project.refusal?, decode]))
      | unexamined read lookup stale decode examine =>
          rw [(faithful.lookup_ok legal lookup).1] at stale
          exact passed _ rfl (.refused read stale (by simp only [Project.refusal?, decode, examine]))
      | unkept read lookup stale decode examine store =>
          have legal' := (faithful.lookup_ok legal lookup).2.1
          rw [visit_ended settled (.inr (faithful.store_error legal' store).1)]
          exact .byCache ⟨_, _, _, .inr ⟨_, store⟩⟩

section

variable {α β : Type} {value : (String → Visit) → α} {result : EStateM.Result Failure (World σ) α}

theorem Arrives.map {act : Step σ α} (f : α → β) (arrives : Arrives project ledger calm paths w value (act w)) :
    Arrives project ledger calm paths w (fun outcome => f (value outcome))
      ((do return f (← act)) w) := by
  rw [bind_apply]
  revert arrives
  generalize act w = result
  rintro (raised | ⟨member, unread⟩ | comes)
  · exact .byCache raised
  · exact .null member unread
  · exact .done comes

/-- Files after other files: what they come to does not depend on those. -/
theorem Arrives.bind {act : Step σ α} {next : α → Step σ β} {value' : (String → Visit) → β}
    (disjoint : ∀ path ∈ paths, path ∉ paths')
    (arrives : Arrives project ledger calm paths w value (act w))
    (later : ∀ outcome w', Comes project ledger calm paths w outcome w' →
      Arrives project ledger calm paths' w' (fun outcome' => value' (besides paths outcome outcome'))
        (next (value outcome) w')) :
    Arrives project ledger calm (paths ++ paths') w value' ((act >>= next) w) := by
  rw [bind_apply]
  revert arrives
  generalize act w = result
  rintro (raised | ⟨member, unread⟩ | @⟨outcome, w', comes⟩)
  · exact .byCache raised
  · exact .null (List.mem_append_left _ member) unread
  · have arrives' := later outcome w' comes
    dsimp only
    revert arrives'
    generalize next (value outcome) w' = result'
    rintro (raised | ⟨member, unread⟩ | comes')
    · exact .byCache raised
    · exact .null (List.mem_append_right _ member) unread
    · exact .done (comes.append disjoint comes')

end

/-- No files come to nothing. -/
theorem comes_nil (legal : ledger.legal w.store) (calmly : calm w.exchange) (outcome : String → Visit) :
    Comes project ledger calm [] w outcome w where
  legal := legal
  calmly := calmly
  due := fun _ member => nomatch member
  inside := fun _ member => nomatch member
  outside := fun _ _ => rfl

theorem map_besides (outcome outcome' : String → Visit) :
    paths.map (besides paths outcome outcome') = paths.map outcome :=
  List.map_congr_left fun _ member => besides_of_mem member

theorem map_besides_disjoint (disjoint : ∀ path ∈ paths, path ∉ paths') (outcome outcome' : String → Visit) :
    paths'.map (besides paths outcome outcome') = paths'.map outcome' :=
  List.map_congr_left fun _ member => besides_of_disjoint disjoint member

/-- What comes of files one after another.  The induction is on the files; each of them finds the cache as
the first one did, as far as its own record is concerned. -/
theorem foldlM_comes (faithful : project.cache.Faithful ledger) (fits : project.Fits ledger)
    (quiet : Exchange.Calm project.bus calm) (nodup : paths.Nodup) (report : Report) (w : World σ)
    (legal : ledger.legal w.store) (calmly : calm w.exchange) :
    Arrives project ledger calm paths w (fun outcome => (paths.map outcome).foldl Report.add report)
      (paths.foldlM (advance project true) report w) := by
  induction paths generalizing report w with
  | nil => exact .done (comes_nil legal calmly fun _ => .rejected ⟨"", ""⟩)
  | cons path rest ih =>
      obtain ⟨fresh, nodup'⟩ := List.nodup_cons.mp nodup
      have disjoint : ∀ q ∈ [path], q ∉ rest := by
        intro q member
        rwa [List.mem_singleton.mp member]
      have first := (@visit_comes _ _ _ _ path _ faithful fits quiet legal calmly).map report.add
      rw [List.foldlM_cons]
      refine Arrives.bind disjoint first fun outcome w' comes => ?_
      have later := ih nodup' (report.add (outcome path)) w' comes.legal comes.calmly
      simp only [List.map_cons, List.foldl_cons, map_besides_disjoint disjoint,
        besides_of_mem (List.mem_singleton.mpr rfl)]
      exact later

/-- What comes of a run. -/
theorem run_comes (faithful : project.cache.Faithful ledger) (fits : project.Fits ledger)
    (quiet : Exchange.Calm project.bus calm) (nodup : paths.Nodup) (w : World σ)
    (legal : ledger.legal w.store) (calmly : calm w.exchange) :
    Arrives project ledger calm paths w (fun outcome => Report.ofOutcomes (paths.map outcome))
      (run project true paths w) := by
  have arrives := foldlM_comes faithful fits quiet nodup Report.empty w legal calmly
  rw [run_eq]
  revert arrives
  generalize paths.foldlM (advance project true) Report.empty w = result
  rintro (raised | ⟨member, unread⟩ | @⟨outcome, w', comes⟩)
  · exact .byCache raised
  · exact .null member unread
  · obtain ⟨legal', calmly', due, inside, outside⟩ := comes
    exact .done ⟨legal', quiet.logs calmly' (Exchange.Logs.observe _ _), due, inside, outside⟩

/-- Takes groups of files through the build, each in a run of its own that passes over rejections. -/
def runs (project : Project σ) (groups : List (List String)) : Step σ (List Report) :=
  groups.mapM (run project true)

/-- The reports of runs that come to the given outcomes. -/
def reportsOf (groups : List (List String)) (outcome : String → Visit) : List Report :=
  groups.map fun paths => Report.ofOutcomes (paths.map outcome)

theorem total_reportsOf (groups : List (List String)) (outcome : String → Visit) :
    Report.total (reportsOf groups outcome) = Report.ofOutcomes (groups.flatten.map outcome) := by
  have grouped : reportsOf groups outcome = (groups.map (List.map outcome)).map Report.ofOutcomes := by
    rw [reportsOf, List.map_map]
    rfl
  rw [grouped, Report.total_ofOutcomes, List.map_flatten]

/-- What comes of files in several runs. -/
theorem runs_comes (faithful : project.cache.Faithful ledger) (fits : project.Fits ledger)
    (quiet : Exchange.Calm project.bus calm) {groups : List (List String)} (nodup : groups.flatten.Nodup)
    (w : World σ) (legal : ledger.legal w.store) (calmly : calm w.exchange) :
    Arrives project ledger calm groups.flatten w (reportsOf groups) (runs project groups w) := by
  induction groups generalizing w with
  | nil => exact .done (comes_nil legal calmly fun _ => .rejected ⟨"", ""⟩)
  | cons paths rest ih =>
      rw [List.flatten_cons] at nodup ⊢
      obtain ⟨nodup₁, nodup₂, apart⟩ := List.nodup_append.mp nodup
      have disjoint : ∀ path ∈ paths, path ∉ rest.flatten :=
        fun path one two => apart path one path two rfl
      have first := run_comes faithful fits quiet nodup₁ w legal calmly
      rw [runs, List.mapM_cons]
      refine Arrives.bind disjoint first fun outcome w' comes => ?_
      have later := (ih nodup₂ w' comes.legal comes.calmly).map
        fun reports => Report.ofOutcomes (paths.map outcome) :: reports
      have same : ∀ outcome', reportsOf (paths :: rest) (besides paths outcome outcome') =
          Report.ofOutcomes (paths.map outcome) :: reportsOf rest outcome' := by
        intro outcome'
        rw [reportsOf, List.map_cons, map_besides]
        congr 1
        refine List.map_congr_left fun group member => ?_
        have disjoint' : ∀ path ∈ paths, path ∉ group :=
          fun path one two => disjoint path one (List.mem_flatten_of_mem member two)
        rw [map_besides_disjoint disjoint']
      simp only [same]
      exact later

/-! ### Two arrangements of the same files -/

/-- What two ways to take up the same files agree in. -/
structure Concordant (project : Project σ) (ledger : Ledger σ) (paths : List String) (start : σ)
    (outcome outcome' : String → Visit) (total total' : Report) (s s' : σ) : Prop where
  /-- Every file comes to what is due to it, both times. -/
  due : ∀ path ∈ paths, Due project path (ledger.kept start path) (outcome path)
  like : ∀ path ∈ paths, (outcome path).Like (outcome' path)
  cached : total.cached = total'.cached
  analyzed : total.analyzed = total'.analyzed
  recorded : total.records.length = total'.records.length
  failed : total.failures.length = total'.failures.length
  status : total.status = total'.status
  /-- The caches hold the same, but for the times of records that were made. -/
  kept : ∀ path, ledger.kept s path = ledger.kept s' path ∨
    ∃ record record', path ∈ paths ∧ outcome path = .accepted record false ∧
      outcome' path = .accepted record' false ∧ record.finding = record'.finding ∧
      ledger.kept s path = some record ∧ ledger.kept s' path = some record'
  outside : ∀ path ∉ paths, ledger.kept s path = ledger.kept start path ∧
    ledger.kept s' path = ledger.kept start path

/-- What does not tell outcomes apart that are alike is counted equally often. -/
theorem countP_arranged (perm : paths.Perm paths')
    (like : ∀ path ∈ paths, (outcome path).Like (outcome' path)) {p : Visit → Bool}
    (respects : ∀ {v v' : Visit}, v.Like v' → p v = p v') :
    (paths.map outcome).countP p = (paths'.map outcome').countP p := by
  rw [List.countP_map, List.countP_map, ← perm.countP_eq]
  refine List.countP_congr fun path member => ?_
  rw [Function.comp_apply, Function.comp_apply, respects (like path member)]

/-- Files that come to the same are reported the same, and leave the same. -/
theorem Comes.agree (perm : paths.Perm paths')
    (comes : Comes project ledger calm paths w outcome w₁)
    (comes' : Comes project ledger calm paths' w outcome' w₂) :
    Concordant project ledger paths w.store outcome outcome' (Report.ofOutcomes (paths.map outcome))
      (Report.ofOutcomes (paths'.map outcome')) w₁.store w₂.store := by
  have like : ∀ path ∈ paths, (outcome path).Like (outcome' path) :=
    fun path member => (comes.due path member).like (comes'.due path (perm.mem_iff.mp member))
  obtain ⟨records, failures, cached, analyzed⟩ := Report.sums_ofOutcomes (paths.map outcome)
  obtain ⟨records', failures', cached', analyzed'⟩ := Report.sums_ofOutcomes (paths'.map outcome')
  refine ⟨comes.due, like, ?_, ?_, ?_, ?_, ?_, ?_, ?_⟩
  · rw [cached, cached', countP_arranged perm like fun same => by rw [same.hit?]]
  · rw [analyzed, analyzed', countP_arranged perm like fun same => by rw [same.hit?]]
  · rw [records, records', Report.empty, List.nil_append, List.nil_append,
      List.length_filterMap_eq_countP, List.length_filterMap_eq_countP]
    exact countP_arranged perm like Visit.Like.isSome_record?
  · rw [failures, failures', Report.empty, List.nil_append, List.nil_append,
      List.length_filterMap_eq_countP, List.length_filterMap_eq_countP]
    exact countP_arranged perm like Visit.Like.isSome_rejection?
  · have clean : (paths.map outcome).all Visit.isClean = (paths'.map outcome').all Visit.isClean := by
      rw [List.all_map, List.all_map, ← perm.all_eq, Bool.eq_iff_iff, List.all_eq_true, List.all_eq_true]
      refine forall₂_congr fun path member => ?_
      rw [Function.comp_apply, Function.comp_apply, (like path member).isClean]
    rw [Report.status, Report.status, Report.isClean_ofOutcomes, Report.isClean_ofOutcomes, clean]
  · intro path
    by_cases member : path ∈ paths
    · have member' := perm.mem_iff.mp member
      rw [comes.inside path member, comes'.inside path member']
      -- alike outcomes leave the same record, or two that were made at different times
      have same := like path member
      revert same
      generalize first : outcome path = v
      generalize second : outcome' path = v'
      rintro (record | same | r)
      · exact .inl rfl
      · exact .inr ⟨_, _, member, rfl, rfl, same, rfl, rfl⟩
      · exact .inl rfl
    · have absent' : path ∉ paths' := fun member' => member (perm.mem_iff.mpr member')
      rw [comes.outside path member, comes'.outside path absent']
      exact .inl rfl
  · intro path absent
    have absent' : path ∉ paths' := fun member' => absent (perm.mem_iff.mpr member')
    exact ⟨comes.outside path absent, comes'.outside path absent'⟩

/-- A path with a null character comes to nothing, so files among which there is one do not all come to
something. -/
theorem Comes.not_null (comes : Comes project ledger calm paths w outcome w₁) (member : path ∈ paths) :
    project.read path ≠ .error .null := by
  intro unread
  have due := comes.due path member
  generalize outcome path = v at due
  cases due with
  | found read | made _ read | refused read | unread read => cases unread.symm.trans read

/-- Taking up files that have proper paths comes to its end, unless the cache fails. -/
theorem Arrives.done_of_proper {α : Type} {value : (String → Visit) → α}
    {result : EStateM.Result Failure (World σ) α}
    (arrives : Arrives project ledger calm paths w value result)
    (answering : ¬ EndedByCache project result)
    (proper : ∀ path ∈ paths, project.read path ≠ .error .null) :
    ∃ outcome w', result = .ok (value outcome) w' ∧ Comes project ledger calm paths w outcome w' := by
  cases arrives with
  | byCache raised => exact absurd raised answering
  | null member unread => exact absurd unread (proper _ member)
  | done comes => exact ⟨_, _, rfl, comes⟩

/-- Taking up files ends with a failure if one of the paths has a null character. -/
theorem Arrives.failed_of_null {α : Type} {value : (String → Visit) → α}
    {result : EStateM.Result Failure (World σ) α}
    (arrives : Arrives project ledger calm paths w value result)
    (answering : ¬ EndedByCache project result) (member : path ∈ paths)
    (unread : project.read path = .error .null) : ∃ w', result = .error .nullByte w' := by
  cases arrives with
  | byCache raised => exact absurd raised answering
  | null => exact ⟨_, rfl⟩
  | done comes => exact absurd unread (comes.not_null member)

/-- **Files can be taken up in any order and in any number of runs.**  Of two ways to arrange files, none of
which is listed twice, into runs that pass over rejections, among listeners that do not fail, and with a
faithful cache that does not fail in either: both come to their end, every file comes to the same, which is
what is due to its content and to the record that the cache had of it, and counts, status and the caches
agree.  If one of the paths has a null character, both end with this failure instead. -/
theorem arrangements_agree {groups groups' : List (List String)} (faithful : project.cache.Faithful ledger)
    (fits : project.Fits ledger) (quiet : Exchange.Calm project.bus calm) (legal : ledger.legal w.store)
    (calmly : calm w.exchange) (nodup : groups.flatten.Nodup) (perm : groups.flatten.Perm groups'.flatten)
    (answering : ¬ EndedByCache project (runs project groups w))
    (answering' : ¬ EndedByCache project (runs project groups' w)) :
    ((∀ path ∈ groups.flatten, project.read path ≠ .error .null) →
      ∃ outcome outcome' w₁ w₂, runs project groups w = .ok (reportsOf groups outcome) w₁ ∧
        runs project groups' w = .ok (reportsOf groups' outcome') w₂ ∧
        Concordant project ledger groups.flatten w.store outcome outcome'
          (Report.total (reportsOf groups outcome)) (Report.total (reportsOf groups' outcome'))
          w₁.store w₂.store) ∧
    ((∃ path ∈ groups.flatten, project.read path = .error .null) →
      (∃ w₁, runs project groups w = .error .nullByte w₁) ∧
        ∃ w₂, runs project groups' w = .error .nullByte w₂) := by
  have arrives := runs_comes faithful fits quiet nodup w legal calmly
  have arrives' := runs_comes faithful fits quiet (perm.nodup_iff.mp nodup) w legal calmly
  refine ⟨fun proper => ?_, ?_⟩
  · have proper' : ∀ path ∈ groups'.flatten, project.read path ≠ .error .null :=
      fun path member => proper path (perm.mem_iff.mpr member)
    obtain ⟨outcome, w₁, done, comes⟩ := arrives.done_of_proper answering proper
    obtain ⟨outcome', w₂, done', comes'⟩ := arrives'.done_of_proper answering' proper'
    refine ⟨outcome, outcome', w₁, w₂, done, done', ?_⟩
    rw [total_reportsOf, total_reportsOf]
    exact comes.agree perm comes'
  · rintro ⟨path, member, unread⟩
    exact ⟨arrives.failed_of_null answering member unread,
      arrives'.failed_of_null answering' (perm.mem_iff.mp member) unread⟩

/-- A memory does not end anything. -/
theorem not_endedByCache_memory {project : Project Storage} (memory : project.cache = .memory) {α : Type}
    (result : EStateM.Result Failure (World Storage) α) : ¬ EndedByCache project result := by
  cases result with
  | ok a w => exact id
  | error failure w =>
      intro raised
      rw [EndedByCache, memory] at raised
      exact FileCache.memory_unfailing failure raised

/-- Three files, one of which is found and one rejected, in two runs and backwards in one. -/
theorem arrangements_agree_mixed :
    ∃ outcome outcome' w₁ w₂,
      runs mixed [["a.py", "b.py"], ["c.py"]] noted = .ok (reportsOf [["a.py", "b.py"], ["c.py"]] outcome) w₁ ∧
      runs mixed [["c.py", "b.py", "a.py"]] noted = .ok (reportsOf [["c.py", "b.py", "a.py"]] outcome') w₂ ∧
      Concordant mixed Ledger.memory ["a.py", "b.py", "c.py"] noted.store outcome outcome'
        (Report.total (reportsOf [["a.py", "b.py"], ["c.py"]] outcome))
        (Report.total (reportsOf [["c.py", "b.py", "a.py"]] outcome')) w₁.store w₂.store := by
  have nodup : ([["a.py", "b.py"], ["c.py"]] : List (List String)).flatten.Nodup := by decide
  have perm : ([["a.py", "b.py"], ["c.py"]] : List (List String)).flatten.Perm
      ([["c.py", "b.py", "a.py"]] : List (List String)).flatten := by decide
  have proper : ∀ path ∈ ["a.py", "b.py", "c.py"], mixed.read path ≠ .error .null := by decide
  have answering := fun groups => @not_endedByCache_memory mixed rfl _ (runs mixed groups noted)
  exact (arrangements_agree FileCache.memory_faithful (fun _ _ _ => trivial) (calm_passive 0) trivial
    passive_noted nodup perm (answering _) (answering _)).1 proper

/-- Files in a directory, where only one can be read. -/
def severed : Project Storage :=
  { mixed with read := readWithin (.directory [("c.py", .file (.bytes []))]) ⟨"", []⟩ }

/-- A world where nothing is known. -/
def blank : World Storage :=
  ⟨⟨.directory [], []⟩, Exchange.new 1 [], 0, []⟩

/-- **A path with a null character separates the files before it from those behind it.**  Of two files, one of
which has such a path, the other one is examined and kept if it is taken up first, and not at all if it is
taken up last, though the runs are to pass over what cannot be read. -/
theorem null_separates :
    ["\x00.py", "c.py"].Nodup ∧ ["\x00.py", "c.py"].Perm ["c.py", "\x00.py"] ∧
      (∃ w₁, run severed true ["\x00.py", "c.py"] blank = .error .nullByte w₁ ∧
        w₁.store.memory.lookup "c.py" = none ∧ w₁.examined = []) ∧
      ∃ w₂, run severed true ["c.py", "\x00.py"] blank = .error .nullByte w₂ ∧
        (w₂.store.memory.lookup "c.py").isSome ∧ w₂.examined = ["c.py"] := by
  have first : answer (run severed true ["\x00.py", "c.py"] blank) = .error .nullByte := by decide +kernel
  have second : answer (run severed true ["c.py", "\x00.py"] blank) = .error .nullByte := by decide +kernel
  refine ⟨by decide, by decide, ⟨_, eq_error_of_answer first, ?_, ?_⟩, _, eq_error_of_answer second, ?_, ?_⟩
  · decide +kernel
  · decide +kernel
  · decide +kernel
  · decide +kernel

end Build

end Docwright
