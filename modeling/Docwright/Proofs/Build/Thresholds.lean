import Docwright.Proofs.Build.Display
import Mathlib.Data.List.Forall2

/-!
# Runs under two thresholds

What is shown of a run has no effect on it.  Settling a file does not look at the
exchange at all (`blind_settle`), and what a visit comes to is settled by that
(`visit_shows`).  So two runs that begin in the same world, but for exchanges whose
consoles have different thresholds, go the same way: the relation between them is
equality but for the exchange (`swapped`), and every visit keeps it up.

What the consoles show is then one list of lines, filtered by either threshold; the
higher one leaves out lines of the lower one and nothing else (`run_mutes`).
-/

namespace Docwright.Build

open Console (Shown)
open Exchange (Shows Wired)

variable {σ α β : Type} {project : Project σ} {continueOnError : Bool} {path : String} {w : World σ}
  {console : Nat} {threshold threshold' : Severity}

/-- The same result with another exchange. -/
def swapped (x : Exchange) :
    EStateM.Result Failure (World σ) α → EStateM.Result Failure (World σ) α
  | .ok a w => .ok a { w with exchange := x }
  | .error failure w => .error failure { w with exchange := x }

/-- A step that comes to the same whatever the exchange. -/
def Blind (act : Step σ α) : Prop :=
  ∀ w x, ∃ y, act { w with exchange := x } = swapped y (act w)

namespace Blind

theorem pure (a : α) : Blind (Pure.pure a : Step σ α) := fun _ x => ⟨x, rfl⟩

theorem throw (failure : Failure) : Blind (MonadExcept.throw failure : Step σ α) :=
  fun _ x => ⟨x, rfl⟩

/-- In sequence: the second step is told the same by the first one. -/
theorem bind {act : Step σ α} {next : α → Step σ β} (first : Blind act)
    (second : ∀ a, Blind (next a)) : Blind (act >>= next) := by
  intro w x
  obtain ⟨y, same⟩ := first w x
  rw [bind_apply, bind_apply, same]
  cases act w with
  | ok a w' => exact second a w' y
  | error failure w' => exact ⟨y, rfl⟩

theorem forM {γ : Type} {items : List γ} {each : γ → Step σ PUnit} (step : ∀ item, Blind (each item)) :
    Blind (items.forM each) := by
  induction items with
  | nil => exact pure _
  | cons item rest ih =>
      change Blind (each item >>= fun _ => rest.forM each)
      exact bind (step item) fun _ => ih

theorem log (entry : Log.Entry) : Blind (Build.log entry : Step σ Unit) := fun _ _ => ⟨_, rfl⟩

theorem onCache (act : EStateM Failure σ α) : Blind (Build.onCache act) := by
  intro w x
  unfold Build.onCache
  cases act w.store with
  | ok a s => exact ⟨x, rfl⟩
  | error failure s => exact ⟨_, rfl⟩

end Blind

/-! ### Settling a file -/

theorem blind_content (path : String) : Blind (content project path) := by
  unfold content
  cases project.read path with
  | ok data => exact .pure data
  | error fault =>
      cases fault with
      | null => exact .throw .nullByte
      | disk fault place => exact .bind (.log _) fun _ => .throw _

theorem blind_decoded (path : String) (data : List UInt8) :
    Blind (decoded path data : Step σ String) := by
  unfold decoded
  cases Text.Utf8.decode data with
  | ok text => exact .pure _
  | error fault => exact .bind (.log _) fun _ => .throw _

theorem blind_examine (path source : String) : Blind (examine project path source) := by
  refine .bind (fun _ x => ⟨x, rfl⟩) fun _ => .bind (.forM .log) fun _ => ?_
  cases (project.examine path source).result with
  | ok problems => exact .pure problems
  | error detail => exact .throw _

theorem blind_renew (path fingerprint : String) (data : List UInt8) :
    Blind (renew project path fingerprint data) :=
  .bind (blind_decoded path data) fun source => .bind (blind_examine path source) fun _ =>
    .bind (fun _ x => ⟨x, rfl⟩) fun _ => .bind (.onCache _) fun _ => .pure _

/-- **Settling a file does not look at the exchange.** -/
theorem blind_settle (path : String) : Blind (settle project path) := by
  refine .bind (blind_content path) fun data => .bind (.onCache _) fun found => ?_
  cases current? (Digest.fingerprint data) found with
  | some record => exact .pure (record, true)
  | none => exact .bind (blind_renew path _ data) fun _ => .pure _

/-! ### A visit under two thresholds -/

theorem answer_swapped (x : Exchange) (result : EStateM.Result Failure (World σ) α) :
    answer (swapped x result) = answer result := by
  cases result <;> rfl

theorem concluded_swapped (x y : Exchange)
    (result : EStateM.Result Failure (World σ) (FileRecord × Bool)) :
    concluded continueOnError x (swapped y result) = concluded continueOnError x result := by
  cases result with
  | ok outcome w => rfl
  | error failure w =>
      cases failure with
      | rejected r => cases continueOnError <;> rfl
      | _ => rfl

theorem swapped_concluded (x y : Exchange)
    (result : EStateM.Result Failure (World σ) (FileRecord × Bool)) :
    swapped x (concluded continueOnError y result) = concluded continueOnError x result := by
  cases result with
  | ok outcome w => rfl
  | error failure w =>
      cases failure with
      | rejected r => cases continueOnError <;> rfl
      | _ => rfl

/-- Two visits to the same file that find the same, but for the exchange. -/
def Alongside (visit visit' : String × World σ) : Prop :=
  ∃ x, visit' = (visit.1, { visit.2 with exchange := x })

theorem Alongside.settle (project : Project σ) {visit visit' : String × World σ}
    (alongside : Alongside visit visit') :
    ∃ y, Build.settle project visit'.1 visit'.2 = swapped y (Build.settle project visit.1 visit.2) := by
  obtain ⟨x, rfl⟩ := alongside
  exact blind_settle visit.1 visit.2 x

theorem Alongside.renders {visit visit' : String × World σ} (alongside : Alongside visit visit')
    (renders : Renders project visit) : Renders project visit' := by
  intro record hit w' settled
  obtain ⟨y, same⟩ := alongside.settle project
  rw [settled] at same
  cases first : Build.settle project visit.1 visit.2 with
  | ok outcome w =>
      rw [first] at same
      cases same
      exact renders record hit w first
  | error failure w =>
      rw [first] at same
      cases same

/-- **A visit under two thresholds** comes to the same, and leaves both consoles wired. -/
theorem visit_swapped (continueOnError : Bool) {x : Exchange}
    (wired : Wired console project.bus threshold w.exchange) (wired' : Wired console project.bus threshold' x)
    (renders : Renders project (path, w)) :
    ∃ y, visit project continueOnError path { w with exchange := x } =
        swapped y (visit project continueOnError path w) ∧
      Wired console project.bus threshold
        (endState (visit project continueOnError path w)).exchange ∧
      Wired console project.bus threshold' y := by
  have alongside : Alongside (path, w) (path, { w with exchange := x }) := ⟨x, rfl⟩
  obtain ⟨x₁, run, shows⟩ := visit_shows continueOnError wired renders
  obtain ⟨y, run', shows'⟩ := visit_shows (w := { w with exchange := x }) continueOnError wired'
    (alongside.renders renders)
  obtain ⟨z, same⟩ := alongside.settle project
  refine ⟨y, ?_, ?_, wired'.of_buses shows'.buses⟩
  · rw [run', run, same, concluded_swapped, swapped_concluded]
  · rw [run, endState_concluded]
    exact wired.of_buses shows.buses

/-! ### A run under two thresholds -/

/-- The files of a run are taken up under two thresholds. -/
theorem foldlM_swapped {paths : List String} {x : Exchange} (report : Report)
    (wired : Wired console project.bus threshold w.exchange) (wired' : Wired console project.bus threshold' x)
    (renders : ∀ visit ∈ visits project continueOnError paths w, Renders project visit) :
    (∃ y, paths.foldlM (advance project continueOnError) report { w with exchange := x } =
        swapped y (paths.foldlM (advance project continueOnError) report w)) ∧
      List.Forall₂ Alongside (visits project continueOnError paths w)
        (visits project continueOnError paths { w with exchange := x }) := by
  -- both worlds vary: after a visit they agree but for the exchange, and both consoles stay wired
  induction paths generalizing w x report with
  | nil => exact ⟨⟨x, rfl⟩, .nil⟩
  | cons path rest ih =>
      have here : Renders project (path, w) := renders _ List.mem_cons_self
      obtain ⟨y, same, stays, stays'⟩ := visit_swapped continueOnError wired wired' here
      simp only [visits] at renders ⊢
      rw [List.foldlM_cons, bind_apply, bind_apply, advance_apply, advance_apply, same]
      cases visited : visit project continueOnError path w with
      | error failure w₁ => exact ⟨⟨y, rfl⟩, .cons ⟨x, rfl⟩ .nil⟩
      | ok outcome w₁ =>
          rw [visited] at stays
          simp only [visited] at renders
          obtain ⟨both, others⟩ := ih (report.add outcome) stays stays'
            fun visit member => renders visit (List.mem_cons_of_mem _ member)
          exact ⟨both, .cons ⟨x, rfl⟩ others⟩

/-- Visits that find the same are shown by the same lines. -/
theorem display_alongside {visits visits' : List (String × World σ)}
    (alongside : List.Forall₂ Alongside visits visits') :
    (visits'.flatMap fun visit =>
        display continueOnError (answer (settle project visit.1 visit.2))) =
      visits.flatMap fun visit =>
        display continueOnError (answer (settle project visit.1 visit.2)) := by
  induction alongside with
  | nil => rfl
  | cons first _ ih =>
      obtain ⟨y, same⟩ := first.settle project
      rw [List.flatMap_cons, List.flatMap_cons, ih, same, answer_swapped]

theorem renders_alongside {visits visits' : List (String × World σ)}
    (alongside : List.Forall₂ Alongside visits visits')
    (renders : ∀ visit ∈ visits, Renders project visit) :
    ∀ visit ∈ visits', Renders project visit := by
  induction alongside with
  | nil => exact nofun
  | cons first _ ih =>
      rw [List.forall_mem_cons] at renders ⊢
      exact ⟨first.renders renders.1, ih renders.2⟩

/-- What reaches a threshold is left of what reaches a lower one. -/
theorem filter_reaches (above : threshold.rank ≤ threshold'.rank) (lines : List Shown) :
    (lines.filter (Shown.reaches threshold)).filter (Shown.reaches threshold') =
      lines.filter (Shown.reaches threshold') := by
  rw [List.filter_filter]
  refine List.filter_congr fun line _ => ?_
  cases line with
  | file origin path => rfl
  | log severity text =>
      rw [Shown.reaches, Shown.reaches, Bool.eq_iff_iff, Bool.and_eq_true, Severity.reaches_iff,
        Severity.reaches_iff]
      exact ⟨And.left, fun high => ⟨high, above.trans high⟩⟩

/-- Two runs come to the same, and the second one shows of the lines of the first one those that reach its
threshold. -/
structure Mutes (console : Nat) (threshold threshold' : Severity) (w w' : World σ)
    (result result' : EStateM.Result Failure (World σ) α) : Prop where
  answer : answer result' = answer result
  store : (endState result').store = (endState result).store
  ticks : (endState result').ticks = (endState result).ticks
  examined : (endState result').examined = (endState result).examined
  shown : ∃ lines : List Shown, (∀ line ∈ lines, line.reaches threshold) ∧
    Shows console w.exchange (endState result).exchange lines ∧
    Shows console w'.exchange (endState result').exchange (lines.filter (Shown.reaches threshold'))

/-- **A higher threshold leaves out lines and does nothing else.** -/
theorem run_mutes {paths : List String} {x : Exchange} (above : threshold.rank ≤ threshold'.rank)
    (wired : Wired console project.bus threshold w.exchange) (wired' : Wired console project.bus threshold' x)
    (renders : ∀ visit ∈ visits project continueOnError paths w, Renders project visit) :
    Mutes console threshold threshold' w { w with exchange := x }
      (run project continueOnError paths w)
      (run project continueOnError paths { w with exchange := x }) := by
  obtain ⟨⟨y, same⟩, alongside⟩ := foldlM_swapped Report.empty wired wired' renders
  have shown := run_shows wired renders
  have shown' := run_shows (w := { w with exchange := x }) wired' (renders_alongside alongside renders)
  rw [display_alongside alongside, ← filter_reaches above] at shown'
  have ended : ∃ z, run project continueOnError paths { w with exchange := x } =
      swapped z (run project continueOnError paths w) := by
    rw [run_eq, run_eq, same]
    cases paths.foldlM (advance project continueOnError) Report.empty w with
    | ok report w' => exact ⟨_, rfl⟩
    | error failure w' => exact ⟨y, rfl⟩
  obtain ⟨z, ended⟩ := ended
  refine ⟨?_, ?_, ?_, ?_, _, ?_, shown, shown'⟩
  · rw [ended, answer_swapped]
  · rw [ended]
    cases run project continueOnError paths w <;> rfl
  · rw [ended]
    cases run project continueOnError paths w <;> rfl
  · rw [ended]
    cases run project continueOnError paths w <;> rfl
  · exact fun line member => (List.mem_filter.mp member).2

end Docwright.Build
