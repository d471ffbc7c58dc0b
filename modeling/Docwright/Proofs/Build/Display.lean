import Docwright.Proofs.Build.Calm
import Docwright.Proofs.Build.Conservation
import Docwright.Proofs.Exchange.Printing

/-!
# What a build shows

A console that is wired to the bus of a build shows a block of lines for each file that
is taken up, and nothing else.  Which block is settled by what settling the file has
come to: the lines of its record, one line for a rejection that is passed over, and
nothing where the run ends (`display`).

`visit_shows` says this of one visit, together with what the visit comes to; `run_shows`
puts the visits of a run together.  The console may drop lines below its threshold, so
blocks are stated in full and filtered.
-/

namespace Docwright.Build

open Console (Shown)
open Exchange (Shows Prints Wired Logs)

variable {σ : Type} {project : Project σ} {continueOnError : Bool} {path : String} {w : World σ}
  {console : Nat} {threshold : Severity}

/-- The lines for what settling a file has come to. -/
def display (continueOnError : Bool) : Except Failure (FileRecord × Bool) → List Shown
  | .ok (record, hit) => record.lines hit
  | .error (.rejected r) => if continueOnError then [.log .critical (rejectionText r)] else []
  | .error _ => []

/-- What a visit comes to, by what settling has come to and where its announcements lead. -/
def concluded (continueOnError : Bool) (x : Exchange) :
    EStateM.Result Failure (World σ) (FileRecord × Bool) → EStateM.Result Failure (World σ) Visit
  | .ok (record, hit) w => .ok (.accepted record hit) { w with exchange := x }
  | .error (.rejected r) w =>
    if continueOnError then .ok (.rejected r) { w with exchange := x }
    else .error (.rejected r) { w with exchange := x }
  | .error failure w => .error failure { w with exchange := x }

theorem endState_concluded (continueOnError : Bool) (x : Exchange)
    (result : EStateM.Result Failure (World σ) (FileRecord × Bool)) :
    endState (concluded continueOnError x result) = { endState result with exchange := x } := by
  cases result with
  | ok outcome w => rfl
  | error failure w =>
      cases failure with
      | rejected r => cases continueOnError <;> rfl
      | _ => rfl

/-- A record that a visit settles can be put in words. -/
def Renders (project : Project σ) (visit : String × World σ) : Prop :=
  ∀ record hit w', settle project visit.1 visit.2 = .ok (record, hit) w' → record.Renders

/-! ### One visit -/

/-- What an announcement prints, as a step of a build. -/
theorem onExchange_prints {act : Exchange.Act Unit} {lines : List Shown}
    (prints : Prints console act w.exchange lines) :
    ∃ x, onExchange act w = .ok () { w with exchange := x } ∧ Shows console w.exchange x lines := by
  obtain ⟨x, done, shows⟩ := prints
  exact ⟨x, by rw [onExchange, done], shows⟩

theorem announce_shows (path : String) (hit : Bool) {record : FileRecord}
    (wired : Wired console project.bus threshold w.exchange) (renders : record.Renders) :
    ∃ x, announce project path record hit w = .ok () { w with exchange := x } ∧
      Shows console w.exchange x ((record.lines hit).filter (Shown.reaches threshold)) := by
  let entry := if hit then hitEntry path record else missEntry path record
  have begun : Shows console w.exchange (w.exchange.observe (.logged entry)) [] :=
    .logs (Logs.observe entry w.exchange)
  obtain ⟨x, run, shows⟩ :=
    onExchange_prints (w := { w with exchange := w.exchange.observe (.logged entry) })
      (Exchange.prints_announcement (wired.of_buses begun.buses) hit renders)
  exact ⟨x, run, begun.trans shows⟩

/-- **What a visit shows**, and what it comes to. -/
theorem visit_shows (continueOnError : Bool)
    (wired : Wired console project.bus threshold w.exchange) (renders : Renders project (path, w)) :
    ∃ x, visit project continueOnError path w =
        concluded continueOnError x (settle project path w) ∧
      Shows console w.exchange x
        ((display continueOnError (answer (settle project path w))).filter (Shown.reaches threshold)) := by
  have logs := (settling project path w).logs
  cases settled : settle project path w with
  | ok outcome w' =>
      obtain ⟨record, hit⟩ := outcome
      rw [settled] at logs
      -- settling only writes to the log, so the console is still wired when the record is announced
      have before : Shows console w.exchange w'.exchange [] := .logs logs
      obtain ⟨x, announced, shows⟩ := announce_shows path hit (wired.of_buses before.buses)
        (renders record hit w' settled)
      refine ⟨x, ?_, before.trans shows⟩
      have done : process project path w = .ok (record, hit) { w' with exchange := x } := by
        rw [process_ok settled, bind_ok announced, pure_apply]
      exact visit_of_process done
  | error failure w' =>
      rw [settled] at logs
      have before : Shows console w.exchange w'.exchange [] := .logs logs
      cases failure with
      | rejected r =>
          cases continueOnError with
          | false => exact ⟨w'.exchange, visit_ended settled (.inl rfl), before⟩
          | true =>
              obtain ⟨x, announced, shows⟩ := onExchange_prints
                (Exchange.prints_rejection (wired.of_buses before.buses) r)
              refine ⟨x, ?_, before.trans shows⟩
              rw [visit_of_rejected (process_error settled), bind_ok announced]
              rfl
      | _ => exact ⟨w'.exchange, visit_ended settled (.inr (by rintro _ ⟨⟩)), before⟩

/-! ### A run -/

/-- A console stays wired through a run. -/
theorem wired_visits {paths : List String} (wired : Wired console project.bus threshold w.exchange)
    (renders : ∀ visit ∈ visits project continueOnError paths w, Renders project visit) :
    ∀ visit ∈ visits project continueOnError paths w,
      Wired console project.bus threshold visit.2.exchange := by
  refine visits_invariant (P := fun w => Wired console project.bus threshold w.exchange) ?_ wired
  rintro ⟨path, w'⟩ member outcome w'' visited wired
  obtain ⟨x, run, shows⟩ := visit_shows continueOnError wired (renders _ member)
  have ending := endState_concluded continueOnError x (settle project path w')
  rw [← run, visited, endState_ok] at ending
  subst ending
  exact wired.of_buses shows.buses

/-- **What a run shows**: the lines of each visit, one after another. -/
theorem run_shows {paths : List String} (wired : Wired console project.bus threshold w.exchange)
    (renders : ∀ visit ∈ visits project continueOnError paths w, Renders project visit) :
    Shows console w.exchange (endState (run project continueOnError paths w)).exchange
      (((visits project continueOnError paths w).flatMap fun visit =>
        display continueOnError (answer (settle project visit.1 visit.2))).filter
          (Shown.reaches threshold)) := by
  rw [List.filter_flatMap]
  refine @run_composes σ project continueOnError w _
    (fun w lines w' => Shows console w.exchange w'.exchange lines) _ paths ?_ ?_ ?_ ?_
  · exact fun w => .refl console w.exchange
  · exact fun first second => first.trans second
  · exact fun report w => .logs (Logs.observe (completed report) w.exchange)
  · rintro ⟨path, w'⟩ member
    obtain ⟨x, run, shows⟩ := visit_shows continueOnError (wired_visits wired renders _ member)
      (renders _ member)
    rw [run, endState_concluded]
    exact shows

/-! ### Blocks of lines -/

/-- The block of lines that a file is shown by from a threshold on. -/
def block (threshold : Severity) (continueOnError : Bool) :
    Except Failure (FileRecord × Bool) → List Shown
  | .ok (record, hit) =>
    .file (if hit then .cached else .analyzed) record.path ::
      (record.problems.filter (·.severity.reaches threshold)).map fun p => .log p.severity p.text
  | .error (.rejected r) =>
    if continueOnError then [.log .critical s!"Unable to analyze file {r.path}: {r.detail}"] else []
  | .error _ => []

/-- Under a threshold that rejections reach, a block is what is left of all lines. -/
theorem filter_display (reached : Severity.critical.reaches threshold = true)
    (outcome : Except Failure (FileRecord × Bool)) :
    (display continueOnError outcome).filter (Shown.reaches threshold) =
      block threshold continueOnError outcome := by
  match outcome with
  | .ok (record, hit) =>
      rw [display, FileRecord.lines, List.filter_cons_of_pos rfl, List.filter_map]
      rfl
  | .error (.rejected r) =>
      cases continueOnError with
      | false => rfl
      | true => exact List.filter_cons_of_pos reached
  | .error (.cache _) | .error (.row _) | .error .integerRange | .error .unprintable
  | .error (.message _) | .error .blankName | .error (.listener _) | .error (.misdirected ..)
  | .error (.markup ..) | .error .tooDeep | .error .nullByte | .error (.disk ..) => rfl

/-- What is seen of a run on a console, from a threshold on. -/
structure Displayed (project : Project σ) (continueOnError : Bool) (paths : List String) (w : World σ)
    (console : Nat) (threshold : Severity) : Prop where
  /-- Every file that is taken up is shown by its block, one after another, and nothing else is shown. -/
  shown : ((endState (run project continueOnError paths w)).exchange.prints console).map some =
    (w.exchange.prints console).map some ++
      ((visits project continueOnError paths w).flatMap fun visit =>
        block threshold continueOnError (answer (settle project visit.1 visit.2))).map Shown.written?
  /-- Files are taken up in their order, and all of them if the run comes to its end. -/
  order : (visits project continueOnError paths w).map Prod.fst <+: paths
  complete : ∀ report w', run project continueOnError paths w = .ok report w' →
    (visits project continueOnError paths w).map Prod.fst = paths
  /-- A file whose failure is not passed over has an empty block and is the last one. -/
  ended : ∀ {before visit after failure}, visits project continueOnError paths w = before ++ visit :: after →
    answer (settle project visit.1 visit.2) = .error failure →
      continueOnError = false ∨ (∀ r, failure ≠ .rejected r) →
        block threshold continueOnError (.error failure) = [] ∧ after = [] ∧
          answer (run project continueOnError paths w) = .error failure
  /-- A block says of its own file what the problems of its record say. -/
  words : ∀ visit ∈ visits project continueOnError paths w, ∀ record hit,
    answer (settle project visit.1 visit.2) = .ok (record, hit) →
      (Filed project visit → record.path = visit.1) ∧ ∀ p ∈ record.problems, p.render = .ok p.text
  own : ∀ visit ∈ visits project continueOnError paths w, ∀ r,
    answer (settle project visit.1 visit.2) = .error (.rejected r) →
      ¬ project.cache.Raises (.rejected r) → r.path = visit.1

theorem block_ended {failure : Failure}
    (unpassed : continueOnError = false ∨ ∀ r, failure ≠ .rejected r) :
    block threshold continueOnError (.error failure) = [] := by
  cases failure with
  | rejected r =>
      rcases unpassed with rfl | other
      · rfl
      · exact absurd rfl (other r)
  | _ => rfl

/-- **The exact output of a run.**  A console that is wired to the bus of a build shows the blocks of the
files that are taken up, in their order. -/
theorem run_displays {paths : List String} (reached : Severity.critical.reaches threshold = true)
    (wired : Wired console project.bus threshold w.exchange)
    (renders : ∀ visit ∈ visits project continueOnError paths w, Renders project visit) :
    Displayed project continueOnError paths w console threshold where
  shown := by
    rw [(run_shows wired renders).prints, List.filter_flatMap]
    simp only [filter_display reached]
  order := visits_prefix paths w
  complete := by
    intro report w' done
    obtain ⟨-, -, taken, -⟩ := run_outcomes done
    exact taken
  ended := by
    intro before visit after failure split failed unpassed
    have visited := visit_ended (eq_error_of_answer failed) unpassed
    obtain ⟨last, fold⟩ := foldlM_failed split visited Report.empty
    refine ⟨block_ended unpassed, last, ?_⟩
    rw [run, bind_error fold, answer_error]
  words := by
    intro visit member record hit settled
    have settled' := eq_ok_of_answer settled
    exact ⟨path_of_settled settled', renders visit member record hit _ settled'⟩
  own := by
    intro visit member r settled distinct
    exact path_of_rejected (eq_error_of_answer settled) distinct

/-- The visits of a run settle records that can be put in words, if the cache is faithful and the problems
of its records and of files can be put in words. -/
theorem renders_of_faithful {ledger : Ledger σ} {paths : List String}
    (faithful : project.cache.Faithful ledger) (fits : project.Fits ledger)
    (kept : Vouches ledger (fun _ record => record.Renders) w.store)
    (made : ∀ {path source problems}, (project.examine path source).result = .ok problems →
      ∀ p ∈ problems, ∃ text, p.render = .ok text) :
    ∀ visit ∈ visits project continueOnError paths w, Renders project visit := by
  intro visit member record hit w' settled
  have makes : Makes project fun _ record => record.Renders :=
    fun _ _ examined p member => p.render_text (made examined p member)
  exact (visits_vouched faithful fits makes kept visit member).settled settled

/-! ### A run with hits, misses and rejections -/

/-- An exchange with a listener that takes notes and a console that is connected. -/
def attended (threshold : Severity) : Exchange :=
  endState (Exchange.connect 0 0
    ((Exchange.new 1 [threshold]).register 0 ⟨Event.cachedName, Listener.recorder "notes"⟩))

theorem wired_attended (threshold : Severity) : Wired 0 0 threshold (attended threshold) := by
  let x := (Exchange.new 1 [threshold]).register 0 ⟨Event.cachedName, Listener.recorder "notes"⟩
  have passive : ∀ r ∈ x.registrations 0, Listener.Passive r.listener := by
    intro r member
    rw [List.mem_singleton.mp member]
    exact Listener.recorder_passive "notes"
  have here : 0 < x.buses.length := Nat.zero_lt_one
  have fresh : x.consoles[0]? = some ⟨threshold, none⟩ := rfl
  obtain ⟨y, connected, wired, -⟩ :=
    Exchange.wired_connect here fresh (Exchange.passive_of_registrations passive)
  rwa [attended, connected]

theorem renders_mixed (x : Exchange) (paths : List String) :
    ∀ visit ∈ visits mixed continueOnError paths { noted with exchange := x }, Renders mixed visit := by
  refine renders_of_faithful FileCache.memory_faithful (fun _ _ _ => trivial) (vouches_memory ?_) ?_
  · intro entry member
    rw [List.mem_singleton.mp member]
    nofun
  · intro path source problems examined p member
    obtain rfl := Except.ok.inj examined
    rw [List.mem_singleton.mp member]
    exact ⟨"file is empty", rfl⟩

/-- A world where the console shows errors. -/
def watched : World Storage := { noted with exchange := attended .error }

/-- A file that is examined, one that is rejected, one that is found, and the first one again. -/
theorem run_displays_mixed :
    Displayed mixed true ["a.py", "b.py", "c.py", "a.py"] watched 0 .error ∧
      (endState (run mixed true ["a.py", "b.py", "c.py", "a.py"] watched)).exchange.prints 0 =
        ["Parsed modified file \x1b[32ma.py\x1b[0m\n".toList,
          "  \x1b[1;37;41mfile is empty\x1b[0m\n".toList,
          ("  \x1b[1;37;41mUnable to analyze file b.py: " ++
            "[Errno 2] No such file or directory: 'b.py'\x1b[0m\n").toList,
          "Found cached file \x1b[32mc.py\x1b[0m\n".toList,
          "Found cached file \x1b[32ma.py\x1b[0m\n".toList,
          "  \x1b[1;37;41mfile is empty\x1b[0m\n".toList] := by
  refine ⟨run_displays rfl (wired_attended .error) (renders_mixed _ _), ?_⟩
  decide +kernel

end Docwright.Build
