import Docwright.Proofs.Build.Settling

/-!
# From one file to a whole run

A visit to a file settles its record and then only touches the exchange, whatever
listeners do (`endState_visit`).  So the cache, the clock and the list of
examined files at the end of a run are what settling its files one after another
makes of them; `run_invariant` is the induction that every statement about them
uses.

`visits` lists the files that a run takes up, each with the world it finds.  A
run that fails takes up no further file, so the list ends with the one at which
it failed.
-/

namespace Docwright.Build

open Exchange (Logs)

variable {σ : Type} {project : Project σ} {continueOnError : Bool} {path : String} {w : World σ}

/-! ### A visit -/

theorem endState_onExchange {α : Type} (act : Exchange.Act α) (w : World σ) :
    ∃ x, endState (onExchange act w) = { w with exchange := x } := by
  cases run : act w.exchange with
  | ok a x => exact ⟨x, by simp only [onExchange, run, endState_ok]⟩
  | error failure x => exact ⟨x, by simp only [onExchange, run, endState_error]⟩

theorem announce_apply (project : Project σ) (path : String) (record : FileRecord) (hit : Bool)
    (w : World σ) :
    announce project path record hit w =
      let entry := if hit then hitEntry path record else missEntry path record
      onExchange (Exchange.publish project.bus (announcement record hit).name
        (announcement record hit))
        { w with exchange := w.exchange.observe (.logged entry) } := rfl

theorem endState_announce (project : Project σ) (path : String) (record : FileRecord) (hit : Bool)
    (w : World σ) :
    ∃ x, endState (announce project path record hit w) = { w with exchange := x } := by
  rw [announce_apply]
  exact endState_onExchange _ _

theorem process_ok {record : FileRecord} {hit : Bool} {w' : World σ}
    (h : settle project path w = .ok (record, hit) w') :
    process project path w =
      (do announce project path record hit; return (record, hit)) w' :=
  bind_ok h _

theorem process_error {failure : Failure} {w' : World σ}
    (h : settle project path w = .error failure w') :
    process project path w = .error failure w' :=
  bind_error h _

/-- Beyond settling a record, processing a file touches nothing but the exchange. -/
theorem endState_process (project : Project σ) (path : String) (w : World σ) :
    ∃ x, endState (process project path w) =
      { endState (settle project path w) with exchange := x } := by
  cases settled : settle project path w with
  | error failure w' => exact ⟨w'.exchange, by rw [process_error settled]; rfl⟩
  | ok outcome w' =>
      obtain ⟨record, hit⟩ := outcome
      obtain ⟨x, ending⟩ := endState_announce project path record hit w'
      refine ⟨x, ?_⟩
      rw [process_ok settled, bind_apply]
      cases run : announce project path record hit w' <;> simpa [run] using ending

/-- Taking a rejection for an outcome changes no state. -/
theorem endState_attempt :
    endState (attempt project path w) = endState (process project path w) := by
  unfold attempt
  cases process project path w with
  | ok outcome w' => rfl
  | error failure w' => cases failure <;> rfl

/-- Beyond settling a record, a visit touches nothing but the exchange. -/
theorem endState_visit (project : Project σ) (continueOnError : Bool) (path : String) (w : World σ) :
    ∃ x, endState (visit project continueOnError path w) =
      { endState (settle project path w) with exchange := x } := by
  obtain ⟨x, ending⟩ := endState_process project path w
  rw [← endState_attempt] at ending
  unfold visit
  rw [bind_apply]
  cases run : attempt project path w with
  | error failure w' => exact ⟨x, by simpa [run] using ending⟩
  | ok outcome w' =>
      have same : w' = { endState (settle project path w) with exchange := x } := by
        simpa [run] using ending
      subst same
      cases outcome with
      | accepted record hit => exact ⟨x, rfl⟩
      | rejected r =>
          cases continueOnError with
          | false => exact ⟨x, rfl⟩
          | true =>
              obtain ⟨y, published⟩ := endState_onExchange
                (Exchange.publish project.bus Event.logName (rejectionEvent r))
                { endState (settle project path w) with exchange := x }
              refine ⟨y, ?_⟩
              simp only [if_true]
              rw [bind_apply]
              cases out : onExchange (Exchange.publish project.bus Event.logName
                (rejectionEvent r)) { endState (settle project path w) with exchange := x } <;>
                simpa [out] using published

/-! ### A run -/

theorem advance_apply (report : Report) :
    advance project continueOnError report path w =
      match visit project continueOnError path w with
      | .ok outcome w' => .ok (report.add outcome) w'
      | .error failure w' => .error failure w' := by
  unfold advance
  rw [bind_apply]
  cases visit project continueOnError path w <;> rfl

/-- The end of a run is announced in the log alone. -/
theorem run_eq (project : Project σ) (continueOnError : Bool) (paths : List String) (w : World σ) :
    run project continueOnError paths w =
      match paths.foldlM (advance project continueOnError) Report.empty w with
      | .ok report w' =>
        .ok report { w' with exchange := w'.exchange.observe (.logged (completed report)) }
      | .error failure w' => .error failure w' := by
  unfold run
  rw [bind_apply]
  cases paths.foldlM (advance project continueOnError) Report.empty w <;> rfl

theorem run_eq_ok_iff {paths : List String} {report : Report} {w' : World σ} :
    run project continueOnError paths w = .ok report w' ↔
      ∃ u, paths.foldlM (advance project continueOnError) Report.empty w = .ok report u ∧
        w' = { u with exchange := u.exchange.observe (.logged (completed report)) } := by
  rw [run_eq]
  cases paths.foldlM (advance project continueOnError) Report.empty w with
  | ok report' u =>
      constructor
      · rintro ⟨⟩
        exact ⟨u, rfl, rfl⟩
      · rintro ⟨_, ⟨⟩, rfl⟩
        rfl
  | error failure u => exact ⟨nofun, nofun⟩

theorem run_eq_error_iff {paths : List String} {failure : Failure} {w' : World σ} :
    run project continueOnError paths w = .error failure w' ↔
      paths.foldlM (advance project continueOnError) Report.empty w = .error failure w' := by
  rw [run_eq]
  cases paths.foldlM (advance project continueOnError) Report.empty w with
  | ok report u => exact ⟨nofun, nofun⟩
  | error failure' u => exact Iff.rfl

/-- The files that a run takes up, each with the world it finds. -/
def visits (project : Project σ) (continueOnError : Bool) :
    List String → World σ → List (String × World σ)
  | [], _ => []
  | path :: rest, w =>
    (path, w) ::
      match visit project continueOnError path w with
      | .ok _ w' => visits project continueOnError rest w'
      | .error _ _ => []

/-- A fact about a world and an account of the visits so far, at each visit of a run and at its end. -/
structure Threads (project : Project σ) (continueOnError : Bool) (paths : List String) {α : Type}
    (account : α → String × World σ → α) (P Q : World σ → α → Prop) (w : World σ) (a : α) : Prop where
  visits : ∀ {before after : List (String × World σ)} {path : String} {w' : World σ},
    visits project continueOnError paths w = before ++ (path, w') :: after →
      P w' (before.foldl account a)
  ended : match run project continueOnError paths w with
    | .ok _ w' => P w' ((Build.visits project continueOnError paths w).foldl account a)
    | .error _ w' => Q w' ((Build.visits project continueOnError paths w).foldl account a)

/-- What every visit that succeeds keeps true holds at each visit and at the end, whatever report the
visits are added to. -/
theorem foldlM_threads {α : Type} (account : α → String × World σ → α) {P Q : World σ → α → Prop}
    {paths : List String}
    (passes : ∀ path ∈ paths, ∀ w a outcome w',
      visit project continueOnError path w = .ok outcome w' → P w a → P w' (account a (path, w)))
    (ends : ∀ path ∈ paths, ∀ w a failure w',
      visit project continueOnError path w = .error failure w' → P w a → Q w' (account a (path, w)))
    (report : Report) (w : World σ) (a : α) (start : P w a) :
    (∀ {before after : List (String × World σ)} {path : String} {w' : World σ},
      visits project continueOnError paths w = before ++ (path, w') :: after →
        P w' (before.foldl account a)) ∧
    match paths.foldlM (advance project continueOnError) report w with
    | .ok _ w' => P w' ((visits project continueOnError paths w).foldl account a)
    | .error _ w' => Q w' ((visits project continueOnError paths w).foldl account a) := by
  -- the invariant is handed on from visit to visit, with the account of those before
  induction paths generalizing report w a with
  | nil =>
      refine ⟨fun split => ?_, start⟩
      simp [visits] at split
  | cons path rest ih =>
      rw [List.foldlM_cons, bind_apply, advance_apply, visits]
      cases visited : visit project continueOnError path w with
      | error failure w' =>
          refine ⟨fun {before after q v} split => ?_,
            ends path List.mem_cons_self w a failure w' visited start⟩
          cases before with
          | nil =>
              obtain ⟨same, -⟩ := List.cons.inj split
              cases same
              exact start
          | cons first before => simp at split
      | ok outcome w' =>
          have next := passes path List.mem_cons_self w a outcome w' visited start
          obtain ⟨later, ending⟩ := ih (fun p member => passes p (List.mem_cons_of_mem _ member))
            (fun p member => ends p (List.mem_cons_of_mem _ member)) (report.add outcome) w' _ next
          refine ⟨fun {before after q v} split => ?_, ending⟩
          cases before with
          | nil =>
              obtain ⟨same, -⟩ := List.cons.inj split
              cases same
              exact start
          | cons first before =>
              have tail := (List.cons.inj split).2
              obtain rfl := (List.cons.inj split).1
              exact later tail

/-- **The rule for runs.**  What every visit that succeeds keeps true of the world and the account holds
at each visit of a run, and at its end if the run comes to one; a visit that fails ends the run with
what it makes true. -/
theorem run_threads {α : Type} (account : α → String × World σ → α) {P Q : World σ → α → Prop}
    {paths : List String} (blind : ∀ w x a, P w a → P { w with exchange := x } a)
    (passes : ∀ path ∈ paths, ∀ w a outcome w',
      visit project continueOnError path w = .ok outcome w' → P w a → P w' (account a (path, w)))
    (ends : ∀ path ∈ paths, ∀ w a failure w',
      visit project continueOnError path w = .error failure w' → P w a → Q w' (account a (path, w)))
    (w : World σ) (a : α) (start : P w a) :
    Threads project continueOnError paths account P Q w a := by
  obtain ⟨visits, ending⟩ := foldlM_threads account passes ends Report.empty w a start
  refine ⟨visits, ?_⟩
  rw [run_eq]
  revert ending
  cases paths.foldlM (advance project continueOnError) Report.empty w with
  | error failure w' => exact id
  | ok report w' => exact blind w' _ _

/-- What settling keeps true of a world, whatever the exchange, a visit keeps true of it. -/
theorem visit_invariant {P : World σ → Prop} (blind : ∀ w x, P w → P { w with exchange := x })
    (settles : P (endState (settle project path w))) :
    P (endState (visit project continueOnError path w)) := by
  obtain ⟨x, ending⟩ := endState_visit project continueOnError path w
  rw [ending]
  exact blind _ x settles

/-- What settling keeps true of a world and an account, whatever the exchange, a run keeps true. -/
theorem run_threads_settling {α : Type} (account : α → String × World σ → α)
    {P : World σ → α → Prop} {paths : List String}
    (blind : ∀ w x a, P w a → P { w with exchange := x } a)
    (settles : ∀ path ∈ paths, ∀ w a,
      P w a → P (endState (settle project path w)) (account a (path, w)))
    (w : World σ) (a : α) (start : P w a) :
    Threads project continueOnError paths account P P w a := by
  have visited : ∀ path ∈ paths, ∀ w a, P w a →
      P (endState (visit project continueOnError path w)) (account a (path, w)) :=
    fun path member w a holds => visit_invariant (P := fun w' => P w' (account a (path, w)))
      (fun w x => blind w x _) (settles path member w a holds)
  refine run_threads account blind ?_ ?_ w a start
  · intro path member w a outcome w' run holds
    have next := visited path member w a holds
    rwa [run] at next
  · intro path member w a failure w' run holds
    have next := visited path member w a holds
    rwa [run] at next

/-- What a run makes true of the world that it ends in, whether it came to its end or not. -/
theorem Threads.endState {α : Type} {account : α → String × World σ → α}
    {P : World σ → α → Prop} {paths : List String} {a : α}
    (threads : Threads project continueOnError paths account P P w a) :
    P (endState (run project continueOnError paths w))
      ((Build.visits project continueOnError paths w).foldl account a) := by
  have ended := threads.ended
  revert ended
  cases run project continueOnError paths w <;> exact id

/-- What settling keeps true of a world, whatever the exchange, the visits of a run keep true of it,
whatever report they are added to. -/
theorem foldlM_invariant {P : World σ → Prop} {paths : List String}
    (blind : ∀ w x, P w → P { w with exchange := x })
    (settles : ∀ path ∈ paths, ∀ w, P w → P (endState (settle project path w)))
    (report : Report) (w : World σ) (start : P w) :
    P (endState (paths.foldlM (advance project continueOnError) report w)) := by
  have visited : ∀ path ∈ paths, ∀ w, P w → P (endState (visit project continueOnError path w)) :=
    fun path member w holds => visit_invariant blind (settles path member w holds)
  have passes : ∀ path ∈ paths, ∀ w (_ : Unit) outcome w',
      visit project continueOnError path w = .ok outcome w' → P w → P w' := by
    intro path member w _ outcome w' run holds
    have next := visited path member w holds
    rwa [run] at next
  have ends : ∀ path ∈ paths, ∀ w (_ : Unit) failure w',
      visit project continueOnError path w = .error failure w' → P w → P w' := by
    intro path member w _ failure w' run holds
    have next := visited path member w holds
    rwa [run] at next
  obtain ⟨-, ending⟩ := foldlM_threads (fun (_ : Unit) _ => ()) (P := fun w _ => P w)
    (Q := fun w _ => P w) passes ends report w () start
  revert ending
  cases paths.foldlM (advance project continueOnError) report w <;> exact id

/-- What settling keeps true of a world, whatever the exchange, a run keeps true of it. -/
theorem run_invariant {P : World σ → Prop} {paths : List String}
    (blind : ∀ w x, P w → P { w with exchange := x })
    (settles : ∀ path ∈ paths, ∀ w, P w → P (endState (settle project path w)))
    (w : World σ) (start : P w) : P (endState (run project continueOnError paths w)) :=
  (run_threads_settling (fun (_ : Unit) _ => ()) (P := fun w _ => P w)
    (fun w x _ => blind w x) (fun path member w _ => settles path member w) w () start).endState

/-- What every visit that succeeds keeps true holds at each visit of a run. -/
theorem visits_invariant {P : World σ → Prop} {paths : List String}
    (passes : ∀ visit ∈ visits project continueOnError paths w, ∀ outcome w',
      Build.visit project continueOnError visit.1 visit.2 = .ok outcome w' → P visit.2 → P w')
    (start : P w) : ∀ visit ∈ visits project continueOnError paths w, P visit.2 := by
  induction paths generalizing w with
  | nil =>
      intro visit member
      cases member
  | cons path rest ih =>
      rw [visits] at passes ⊢
      intro visit member
      rcases List.mem_cons.mp member with rfl | later
      · exact start
      · cases visited : Build.visit project continueOnError path w with
        | error failure w' =>
            rw [visited] at later
            cases later
        | ok outcome w' =>
            simp only [visited] at later passes
            exact ih (fun other member => passes other (List.mem_cons_of_mem _ member))
              (passes (path, w) List.mem_cons_self outcome w' visited start) visit later

/-- Files are taken up in their order. -/
theorem visits_prefix (paths : List String) (w : World σ) :
    (visits project continueOnError paths w).map Prod.fst <+: paths := by
  induction paths generalizing w with
  | nil => exact List.prefix_refl []
  | cons path rest ih =>
      rw [visits, List.map_cons]
      refine List.cons_prefix_cons.mpr ⟨rfl, ?_⟩
      cases visit project continueOnError path w with
      | ok outcome w' => exact ih w'
      | error failure w' => exact List.nil_prefix

/-- A visit is to one of the files. -/
theorem path_of_visit {paths : List String} {visit : String × World σ}
    (member : visit ∈ visits project continueOnError paths w) : visit.1 ∈ paths := by
  have begins : (visits project continueOnError paths w).map Prod.fst <+: paths := visits_prefix paths w
  exact begins.subset (List.mem_map_of_mem member)

/-- A visit that fails is the last one, and the run fails with it. -/
theorem foldlM_failed {paths : List String} {before after : List (String × World σ)}
    {last : String × World σ} {failure : Failure} {w' : World σ}
    (split : visits project continueOnError paths w = before ++ last :: after)
    (failed : visit project continueOnError last.1 last.2 = .error failure w') (report : Report) :
    after = [] ∧ paths.foldlM (advance project continueOnError) report w = .error failure w' := by
  induction paths generalizing w before report with
  | nil => simp [visits] at split
  | cons path rest ih =>
      rw [List.foldlM_cons, bind_apply, advance_apply]
      rw [visits] at split
      cases before with
      | nil =>
          obtain ⟨rfl, others⟩ := List.cons.inj split
          rw [failed] at others ⊢
          exact ⟨others.symm, rfl⟩
      | cons first before =>
          obtain ⟨-, others⟩ := List.cons.inj split
          cases visited : visit project continueOnError path w with
          | error failure' w'' => simp [visited] at others
          | ok outcome w'' =>
              rw [visited] at others
              exact ih others (report.add outcome)

/-- A run fails with a visit that fails, and takes up no further file. -/
theorem run_of_visit_failed {paths : List String} {visit : String × World σ} {failure : Failure}
    {w' : World σ} (member : visit ∈ visits project continueOnError paths w)
    (failed : Build.visit project continueOnError visit.1 visit.2 = .error failure w') :
    run project continueOnError paths w = .error failure w' ∧
      ∃ before, visits project continueOnError paths w = before ++ [visit] := by
  obtain ⟨before, after, split⟩ := List.append_of_mem member
  obtain ⟨rfl, folded⟩ := foldlM_failed split failed Report.empty
  exact ⟨run_eq_error_iff.mpr folded, before, split⟩

/-- **The rule for parts.**  What relates the world that each visit finds to the one it leaves, and
composes, relates the ends of a run, whether it comes to its end or not. -/
theorem run_composes {α : Type} {relates : World σ → List α → World σ → Prop}
    {part : String × World σ → List α} {paths : List String} (refl : ∀ w, relates w [] w)
    (trans : ∀ {w₁ w₂ w₃ l m}, relates w₁ l w₂ → relates w₂ m w₃ → relates w₁ (l ++ m) w₃)
    (logs : ∀ report w, relates w [] (endState (log (completed report) w)))
    (each : ∀ visit ∈ visits project continueOnError paths w,
      relates visit.2 (part visit) (endState (Build.visit project continueOnError visit.1 visit.2))) :
    relates w ((visits project continueOnError paths w).flatMap part)
      (endState (run project continueOnError paths w)) := by
  -- what is related does not depend on the report that the visits are added to
  have fold : ∀ report, relates w ((visits project continueOnError paths w).flatMap part)
      (endState (paths.foldlM (advance project continueOnError) report w)) := by
    induction paths generalizing w with
    | nil => exact fun _ => refl w
    | cons path rest ih =>
        intro report
        simp only [visits] at each ⊢
        have first := each (path, w) List.mem_cons_self
        rw [List.foldlM_cons, bind_apply, advance_apply, List.flatMap_cons]
        dsimp only at first
        cases visited : visit project continueOnError path w with
        | error failure w' =>
            rw [visited] at first
            exact trans first (refl w')
        | ok outcome w' =>
            rw [visited] at first
            simp only [visited] at each
            exact trans first
              (ih (fun visit member => each visit (List.mem_cons_of_mem _ member)) (report.add outcome))
  have whole := fold Report.empty
  rw [run_eq]
  revert whole
  cases paths.foldlM (advance project continueOnError) Report.empty w with
  | error failure w' => exact id
  | ok report w' =>
      intro whole
      exact List.append_nil ((visits project continueOnError paths w).flatMap part) ▸
        trans whole (logs report w')

/-- What each visit of a run puts behind a list, one after another, is what the run puts behind it. -/
theorem run_appends {α : Type} {view : World σ → List α} {part : String × World σ → List α}
    {paths : List String}
    (blind : ∀ report w, view (endState (log (completed report) w)) = view w)
    (each : ∀ visit ∈ visits project continueOnError paths w,
      view (endState (Build.visit project continueOnError visit.1 visit.2)) =
        view visit.2 ++ part visit) :
    view (endState (run project continueOnError paths w)) =
      view w ++ (visits project continueOnError paths w).flatMap part := by
  refine @run_composes σ project continueOnError w α (fun w l w' => view w' = view w ++ l) part paths
    ?_ ?_ ?_ each
  · exact fun w => (List.append_nil _).symm
  · intro w₁ w₂ w₃ l m first second
    rw [second, first, List.append_assoc]
  · intro report w
    rw [blind report w, List.append_nil]

/-! ### What caches keep true -/

/-- **The rule for reports.**  What holds of a report and no visits, and goes on to hold with a visit in front
whose outcome was added before, holds of the visits of a run that comes to its end. -/
theorem run_accumulates {holds : Report → List String → List (String × World σ) → Report → Prop}
    {paths : List String} {report : Report} {w' : World σ} (refl : ∀ report, holds report [] [] report)
    (cons : ∀ {path w v w' rest later before report}, visit project continueOnError path w = .ok v w' →
      holds (before.add v) rest later report → holds before (path :: rest) ((path, w) :: later) report)
    (done : run project continueOnError paths w = .ok report w') :
    holds Report.empty paths (visits project continueOnError paths w) report := by
  have fold : ∀ {report w'} before,
      paths.foldlM (advance project continueOnError) before w = .ok report w' →
        holds before paths (visits project continueOnError paths w) report := by
    clear done
    induction paths generalizing w with
    | nil =>
        intro report w' before done
        cases done
        exact refl report
    | cons path rest ih =>
        intro report w' before done
        rw [List.foldlM_cons, bind_apply, advance_apply] at done
        simp only [visits]
        cases visited : visit project continueOnError path w with
        | error failure w'' =>
            rw [visited] at done
            cases done
        | ok v w'' =>
            rw [visited] at done
            exact cons visited (ih (before.add v) done)
  obtain ⟨u, folded, -⟩ := run_eq_ok_iff.mp done
  exact fold Report.empty folded

/-- What lookups and stores keep true of a cache, settling a file keeps true of it. -/
theorem store_settle {P : σ → Prop} (looks : ∀ path s, P s → P (endState (project.cache.lookup path s)))
    (stores : ∀ path record s, P s → P (endState (project.cache.store path record s)))
    (start : P w.store) : P (endState (settle project path w)).store := by
  have coming := settling project path w
  generalize settle project path w = result at coming
  have looked := looks path w.store start
  cases coming with
  | null | unread => exact start
  | unanswered read lookup =>
      rw [lookup] at looked
      exact looked
  | hit read lookup | undecoded read lookup | unexamined read lookup =>
      rw [lookup] at looked
      exact looked
  | @unkept data found s t x text problems failure read lookup stale decode examine store =>
      rw [lookup] at looked
      have stored := stores path (recordMade project path data w.ticks problems) s looked
      rw [store] at stored
      exact stored
  | @made data found s t x text problems read lookup stale decode examine store =>
      rw [lookup] at looked
      have stored := stores path (recordMade project path data w.ticks problems) s looked
      rw [store] at stored
      exact stored

/-- What lookups and stores keep true of a cache, a run keeps true of it. -/
theorem store_run {P : σ → Prop} {paths : List String}
    (looks : ∀ path s, P s → P (endState (project.cache.lookup path s)))
    (stores : ∀ path record s, P s → P (endState (project.cache.store path record s)))
    (start : P w.store) : P (endState (run project continueOnError paths w)).store :=
  run_invariant (P := fun w => P w.store) (fun _ _ holds => holds)
    (fun _ _ _ holds => store_settle looks stores holds) w start

end Docwright.Build
