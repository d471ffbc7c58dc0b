import Docwright.Proofs.Exchange.Printing

/-!
# Several consoles on one bus

Every console that is connected to a bus both announces the problems of a record there
and shows what is announced there.  So when several of them share a bus, each of them
shows the problems as often as there are consoles: once for every console that announces
them, in the order in which they were connected.  The line of the file is printed by a
console itself, and comes only once; the problems that consoles before it announce are
shown before that line, its own ones and those of consoles behind it after it
(`chorus_prints`).  One console alone shows its file and then every problem once; already
two show more than that (`duet_prints_twice`).

`Casts` says of two exchanges which lines were printed in between on each console, and
`Performs` of an act that it succeeds and prints them; they are for all consoles at once
what `Shows` and `Prints` are for one.
-/

namespace Docwright

open Console (Shown)

namespace Exchange

/-- The second exchange is the first one after every console has printed lines of its own. -/
structure Casts (x y : Exchange) (lines : Nat → List Shown) : Prop where
  buses : y.buses = x.buses
  prints : ∀ c, (y.prints c).map some = (x.prints c).map some ++ (lines c).map Shown.written?

/-- An act succeeds, and every console prints lines of its own. -/
def Performs (act : Act Unit) (x : Exchange) (lines : Nat → List Shown) : Prop :=
  ∃ y, act x = .ok () y ∧ Casts x y lines

/-- A line on one console, and nothing on the others. -/
def solo (console : Nat) (line : Shown) (c : Nat) : List Shown :=
  if console = c then [line] else []

namespace Performs

variable {x : Exchange} {lines more : Nat → List Shown} {act next : Act Unit}

theorem pure (x : Exchange) : Performs (Pure.pure ()) x fun _ => [] :=
  ⟨x, rfl, rfl, fun _ => (List.append_nil _).symm⟩

theorem emit {effect : Effect} (silent : ∀ c, effect.printed? c = none) (x : Exchange) :
    Performs (Exchange.emit effect) x fun _ => [] := by
  refine ⟨_, rfl, rfl, fun c => ?_⟩
  rw [prints, observe, List.filterMap_append, List.filterMap_cons_none (silent c)]
  simp [prints]

theorem print (console : Nat) (line : Shown) (x : Exchange) :
    Performs (Exchange.print console line.markup) x (solo console line) := by
  obtain ⟨text, printed⟩ := line.print_markup
  refine ⟨x.observe (.printed console text), ?_, rfl, fun c => ?_⟩
  · rw [Exchange.print, printed]
    rfl
  · rw [prints, observe, List.filterMap_append, List.map_append, solo]
    by_cases own : console = c
    · simp [prints, Effect.printed?, own, Shown.written?_of_print printed]
    · simp [prints, Effect.printed?, own]

/-- In sequence: the second act is carried out where the first one has led. -/
theorem seq (first : Performs act x lines)
    (second : ∀ y, y.buses = x.buses → Performs next y more) :
    Performs (act >>= fun _ => next) x fun c => lines c ++ more c := by
  obtain ⟨y, done, cast⟩ := first
  obtain ⟨z, done', cast'⟩ := second y cast.buses
  refine ⟨z, by rw [bind_ok done, done'], cast'.buses.trans cast.buses, fun c => ?_⟩
  rw [cast'.prints, cast.prints, List.map_append, List.append_assoc]

/-- One after another: each item prints its own lines, wherever the ones before have led. -/
theorem forM {α : Type} {items : List α} {each : α → Act Unit} {part : α → Nat → List Shown}
    (step : ∀ item ∈ items, ∀ y, y.buses = x.buses → Performs (each item) y (part item)) :
    Performs (items.forM each) x fun c => items.flatMap (part · c) := by
  induction items generalizing x with
  | nil => exact pure x
  | cons item rest ih =>
      change Performs (each item >>= fun _ => rest.forM each) x _
      refine seq (step item List.mem_cons_self x rfl) fun y same => ih fun other member z same' => ?_
      exact step other (List.mem_cons_of_mem _ member) z (same'.trans same)

/-- Items that print nothing. -/
theorem forM_silent {α : Type} {items : List α} {each : α → Act Unit}
    (step : ∀ item ∈ items, ∀ y, Performs (each item) y fun _ => []) (x : Exchange) :
    Performs (items.forM each) x fun _ => [] := by
  have silent : (fun _ => []) = fun c : Nat =>
      items.flatMap fun item => (fun _ _ => [] : α → Nat → List Shown) item c :=
    funext fun _ => (List.flatMap_eq_nil_iff.mpr fun _ _ => rfl).symm
  rw [silent]
  exact forM fun item member y _ => step item member y

end Performs

end Exchange

/-! ### Listeners among passive ones -/

/-- Some listeners, with others among them that only take notes. -/
inductive Listener.Among : List Listener → List Listener → Prop
  | nil : Among [] []
  | own (listener : Listener) {own all : List Listener} (rest : Among own all) :
      Among (listener :: own) (listener :: all)
  | other {listener : Listener} {own all : List Listener} (passive : listener.Passive)
      (rest : Among own all) : Among own (listener :: all)

namespace Listener.Among

variable {first second third : List Listener}

theorem refl (listeners : List Listener) : Among listeners listeners := by
  induction listeners with
  | nil => exact nil
  | cons listener rest ih => exact own listener ih

theorem trans (inner : Among first second) (outer : Among second third) : Among first third := by
  induction outer generalizing first with
  | nil => exact inner
  | own listener _ ih =>
      cases inner with
      | own _ rest => exact own listener (ih rest)
      | other passive rest => exact other passive (ih rest)
  | other passive _ ih => exact other passive (ih inner)

theorem behind_passive {others : List Listener} (passive : ∀ l ∈ others, Listener.Passive l)
    (listeners : List Listener) : Among listeners (others ++ listeners) := by
  induction others with
  | nil => exact refl listeners
  | cons other rest ih =>
      exact .other (passive other List.mem_cons_self) (ih fun l member =>
        passive l (List.mem_cons_of_mem _ member))

end Listener.Among

namespace Exchange

variable {bus depth : Nat} {name : String} {event : Event} {x : Exchange} {listeners : List Listener}
  {send : Nat → String → Event → Act Unit}

theorem performs_passive {listener : Listener} (passive : listener.Passive) (event : Event)
    (x : Exchange) : Performs ((listener event).forM (perform send)) x fun _ => [] := by
  refine .forM_silent (fun action member y => ?_) x
  have notes := passive event action member
  cases action with
  | note id event => exact .emit (fun _ => rfl) y
  | print | publish | subscribe | fail => exact notes.elim

/-- Listeners with passive ones among them print what they print themselves, one after another. -/
theorem performs_among {α : Type} {items : List α} {listen : α → Listener}
    {part : α → Nat → List Shown} (among : Listener.Among (items.map listen) listeners)
    (does : ∀ item ∈ items, ∀ y, y.buses = x.buses →
      Performs ((listen item event).forM (perform send)) y (part item)) :
    Performs (listeners.forM fun l => (l event).forM (perform send)) x
      fun c => items.flatMap (part · c) := by
  generalize owned : items.map listen = own at among
  induction among generalizing items x with
  | nil =>
      obtain rfl := List.map_eq_nil_iff.mp owned
      exact .pure x
  | other passive _ ih =>
      exact (performs_passive passive event x).seq fun y same =>
        ih (fun item member z same' => does item member z (same'.trans same)) owned
  | own listener _ ih =>
      cases items with
      | nil => cases owned
      | cons item rest =>
          obtain ⟨rfl, owned'⟩ := List.cons.inj owned
          refine (does item List.mem_cons_self x rfl).seq fun y same => ih (fun other member z same' => ?_) owned'
          exact does other (List.mem_cons_of_mem _ member) z (same'.trans same)

/-- What is published to listeners with passive ones among them. -/
theorem performs_publication {α : Type} {items : List α} {listen : α → Listener}
    {part : α → Nat → List Shown} (among : Listener.Among (items.map listen) (x.listeners bus name))
    (does : ∀ item ∈ items, ∀ y, y.buses = x.buses →
      Performs ((listen item event).forM (perform (publishWithin depth))) y (part item)) :
    Performs (publishWithin (depth + 1) bus name event) x fun c => items.flatMap (part · c) := by
  rw [Performs, publishWithin_succ]
  exact performs_among among does

/-! ### Consoles on one bus -/

variable {consoles : List Nat} {threshold : Nat → Severity}

/-- Consoles show what happens on a bus, in this order and each from its own threshold on, and no other
listener there does more than take notes. -/
structure Joined (consoles : List Nat) (threshold : Nat → Severity) (bus : Nat) (x : Exchange) : Prop where
  cached : Listener.Among (consoles.map (Listener.showFile · bus .cached)) (x.listeners bus Event.cachedName)
  analyzed : Listener.Among (consoles.map (Listener.showFile · bus .analyzed))
    (x.listeners bus Event.analyzedName)
  log : Listener.Among (consoles.map fun c => Listener.showLog c (threshold c))
    (x.listeners bus Event.logName)

/-- Other listeners that take notes only make no difference. -/
theorem Joined.among {y : Exchange} (joined : Joined consoles threshold bus x)
    (among : ∀ name, Listener.Among (x.listeners bus name) (y.listeners bus name)) :
    Joined consoles threshold bus y :=
  ⟨joined.cached.trans (among _), joined.analyzed.trans (among _), joined.log.trans (among _)⟩

theorem Joined.of_buses {y : Exchange} (joined : Joined consoles threshold bus x)
    (same : y.buses = x.buses) : Joined consoles threshold bus y := by
  refine joined.among fun name => ?_
  rw [listeners_of_buses same]
  exact .refl _

/-- The lines that are shown on every console of some from its own threshold on. -/
def shared (consoles : List Nat) (threshold : Nat → Severity) (lines : List Shown) (c : Nat) :
    List Shown :=
  if c ∈ consoles then lines.filter (Shown.reaches (threshold c)) else []

/-- What each console adds to itself alone. -/
theorem flatMap_solo (each : consoles.Nodup) (part : Nat → List Shown) (c : Nat) :
    (consoles.flatMap fun d => if d = c then part d else []) = if c ∈ consoles then part c else [] := by
  induction consoles with
  | nil => rfl
  | cons d rest ih =>
      obtain ⟨absent, others⟩ := List.nodup_cons.mp each
      rw [List.flatMap_cons, ih others]
      by_cases same : d = c
      · subst same
        simp [absent]
      · simp [same, Ne.symm same]

theorem shared_flatMap (problems : List Problem) (c : Nat) :
    (problems.flatMap fun p => shared consoles threshold [.log p.severity p.text] c) =
      shared consoles threshold (problems.map fun p => .log p.severity p.text) c := by
  unfold shared
  split
  · rw [List.map_eq_flatMap, List.filter_flatMap]
  · exact List.flatMap_eq_nil_iff.mpr fun _ _ => rfl

/-- A message is shown on every console that its severity reaches. -/
theorem performs_message (joined : Joined consoles threshold bus x) (each : consoles.Nodup)
    (depth : Nat) (severity : Severity) {message : Message} {text : String}
    (rendered : message.render = .ok text) :
    Performs (publishWithin (depth + 1) bus Event.logName (.log severity message)) x
      (shared consoles threshold [.log severity text]) := by
  have apart : shared consoles threshold [.log severity text] = fun c => consoles.flatMap fun d =>
      if d = c then [Shown.log severity text].filter (Shown.reaches (threshold d)) else [] :=
    funext fun c =>
      (flatMap_solo each (fun d => [Shown.log severity text].filter (Shown.reaches (threshold d))) c).symm
  rw [apart]
  refine performs_publication joined.log fun d _ y _ => ?_
  rw [Listener.showLog, rendered]
  cases grave : severity.reaches (threshold d) with
  | true =>
      have kept : [Shown.log severity text].filter (Shown.reaches (threshold d)) = [.log severity text] :=
        List.filter_cons_of_pos grave
      rw [kept]
      have printed := (Performs.print d (.log severity text) y).seq fun z _ => Performs.pure z
      simp only [List.append_nil] at printed
      exact printed
  | false =>
      have dropped : [Shown.log severity text].filter (Shown.reaches (threshold d)) = [] :=
        List.filter_cons_of_neg (by rw [Shown.reaches, grave]; exact Bool.false_ne_true)
      simp only [dropped, ite_self]
      exact .pure y

/-- One console prints the line of a file, and all show the problems that it announces. -/
theorem performs_record (joined : Joined consoles threshold bus x) (each : consoles.Nodup) (depth : Nat)
    (console : Nat) (hit : Bool) {record : FileRecord} (renders : record.Renders) {event : Event}
    (about : event.record? = some record) :
    Performs ((Listener.showFile console bus (.ofHit hit) event).forM (perform (publishWithin (depth + 1)))) x
      fun c => solo console (.file (.ofHit hit) record.path) c ++
        shared consoles threshold (record.problems.map fun p => .log p.severity p.text) c := by
  rw [Listener.showFile, about]
  refine (Performs.print console (.file (.ofHit hit) record.path) x).seq fun y same => ?_
  have problems : ∀ p ∈ record.problems, ∀ z, z.buses = y.buses →
      Performs (publishWithin (depth + 1) bus Event.logName (.ofProblem p)) z
        (shared consoles threshold [.log p.severity p.text]) := by
    intro p member z same'
    exact performs_message (joined.of_buses (same'.trans same)) each depth p.severity (renders p member)
  have all := Performs.forM problems
  simp only [shared_flatMap] at all
  change Performs (forM (record.problems.map _) _) y _
  rw [List.forM_map]
  exact all

/-- Every console in turn prints the line of a file, and all show the problems each time. -/
theorem performs_announcement (joined : Joined consoles threshold bus x) (each : consoles.Nodup)
    (hit : Bool) {record : FileRecord} (renders : record.Renders) :
    Performs (publish bus (Build.announcement record hit).name (Build.announcement record hit)) x
      fun c => consoles.flatMap fun d => solo d (.file (.ofHit hit) record.path) c ++
        shared consoles threshold (record.problems.map fun p => .log p.severity p.text) c := by
  refine (Performs.emit (fun _ => rfl) x).seq fun y same => ?_
  have joined' := joined.of_buses same
  have depth : depthLimit = 998 + 1 + 1 := rfl
  rw [depth]
  cases hit with
  | true =>
      exact performs_publication joined'.cached fun d _ z same' =>
        performs_record (joined'.of_buses same') each 998 d true renders rfl
  | false =>
      exact performs_publication joined'.analyzed fun d _ z same' =>
        performs_record (joined'.of_buses same') each 998 d false renders rfl

/-! ### Connecting consoles one after another -/

theorem consoles_connect {console : Nat} {threshold : Severity} {y : Exchange}
    (fresh : x.consoles[console]? = some ⟨threshold, none⟩)
    (connected : connect console bus x = .ok () y) :
    y.consoles = x.consoles.set console ⟨threshold, some bus⟩ := by
  obtain ⟨z, done, -, homes⟩ := connect_fresh fresh bus
  cases done.symm.trans connected
  exact homes

/-- Connecting consoles that have no home adds what each of them listens to, in order. -/
theorem registers_connect_each (here : bus < x.buses.length) (each : consoles.Nodup)
    (fresh : ∀ c ∈ consoles, x.consoles[c]? = some ⟨threshold c, none⟩) :
    ∃ y, consoles.forM (connect · bus) x = .ok () y ∧
      Registers bus x y (consoles.flatMap fun c => wiring c bus (threshold c)) := by
  induction consoles generalizing x with
  | nil => exact ⟨x, rfl, (List.append_nil _).symm, rfl, fun _ => rfl⟩
  | cons c rest ih =>
      obtain ⟨absent, others⟩ := List.nodup_cons.mp each
      obtain ⟨y, connected, first⟩ := registers_connect here (fresh c List.mem_cons_self)
      have fresh' : ∀ d ∈ rest, y.consoles[d]? = some ⟨threshold d, none⟩ := by
        intro d member
        rw [consoles_connect (fresh c List.mem_cons_self) connected,
          List.getElem?_set_ne (fun same : c = d => absent (same ▸ member))]
        exact fresh d (List.mem_cons_of_mem _ member)
      obtain ⟨z, connected', second⟩ := ih (first.length ▸ here) others fresh'
      exact ⟨z, (bind_ok connected _).trans connected', first.trans second⟩

/-- What consoles listen to under a name. -/
theorem listeners_wiring (consoles : List Nat) (threshold : Nat → Severity) (bus : Nat) (name : String) :
    ((consoles.flatMap fun c => wiring c bus (threshold c)).filter (·.name == name)).map (·.listener) =
      consoles.flatMap fun c =>
        ((wiring c bus (threshold c)).filter (·.name == name)).map (·.listener) := by
  rw [List.filter_flatMap, List.map_flatMap]

/-- Consoles that are connected where all others only take notes are joined. -/
theorem joined_connect_each (here : bus < x.buses.length) (each : consoles.Nodup)
    (fresh : ∀ c ∈ consoles, x.consoles[c]? = some ⟨threshold c, none⟩)
    (passive : ∀ name, ∀ l ∈ x.listeners bus name, Listener.Passive l) :
    ∃ y, consoles.forM (connect · bus) x = .ok () y ∧ Joined consoles threshold bus y := by
  obtain ⟨y, connected, registers⟩ := registers_connect_each here each fresh
  have behind : ∀ name, y.listeners bus name = x.listeners bus name ++
      consoles.flatMap fun c => ((wiring c bus (threshold c)).filter (·.name == name)).map (·.listener) := by
    intro name
    rw [listeners, listeners, registers.registrations, List.filter_append, List.map_append, listeners_wiring]
  refine ⟨y, connected, ?_, ?_, ?_⟩
  all_goals
    rw [behind, List.map_eq_flatMap]
    exact .behind_passive (passive _) _

end Exchange

/-! ### What each console shows -/

/-- The lines of the problems of a record, from a threshold on. -/
def FileRecord.warnings (threshold : Severity) (record : FileRecord) : List Shown :=
  (record.problems.map fun p => Shown.log p.severity p.text).filter (Shown.reaches threshold)

namespace Exchange

variable {bus : Nat} {x : Exchange} {consoles : List Nat} {threshold : Nat → Severity}

theorem flatMap_others {others : List Nat} {c : Nat} (absent : c ∉ others) (line : Shown)
    (lines : List Shown) :
    (others.flatMap fun d => solo d line c ++ lines) = (List.replicate others.length lines).flatten := by
  induction others with
  | nil => rfl
  | cons d rest ih =>
      obtain ⟨other, absent'⟩ := List.ne_and_not_mem_of_not_mem_cons absent
      rw [List.flatMap_cons, ih absent', solo, if_neg (Ne.symm other), List.length_cons,
        List.replicate_succ, List.flatten_cons, List.nil_append]

/-- What a console gets where every console in turn prints a line of its own and lines for all. -/
theorem flatMap_turns {before after : List Nat} {c : Nat} (each : (before ++ c :: after).Nodup)
    (line : Shown) (lines : List Shown) :
    ((before ++ c :: after).flatMap fun d => solo d line c ++ lines) =
      (List.replicate before.length lines).flatten ++
        line :: (List.replicate (after.length + 1) lines).flatten := by
  obtain ⟨-, once, apart⟩ := List.nodup_append.mp each
  have earlier : c ∉ before := fun member => apart c member c List.mem_cons_self rfl
  have later : c ∉ after := (List.nodup_cons.mp once).1
  rw [List.flatMap_append, List.flatMap_cons, flatMap_others earlier, flatMap_others later, solo, if_pos rfl,
    List.replicate_succ, List.flatten_cons]
  simp

/-- **What consoles on one bus show of a record.**  Consoles are connected to a bus where all other
listeners take notes only.  Then every announcement of a record succeeds; a console shows the line of the
file once, its problems from its own threshold on as often as consoles were connected before it, and
then, for itself and every console behind it, once again; and a console that is not connected shows
nothing. -/
theorem chorus_prints (here : bus < x.buses.length) (each : consoles.Nodup)
    (fresh : ∀ c ∈ consoles, x.consoles[c]? = some ⟨threshold c, none⟩)
    (passive : ∀ name, ∀ l ∈ x.listeners bus name, Listener.Passive l) :
    ∃ y, consoles.forM (connect · bus) x = .ok () y ∧
      ∀ z, (∀ name, Listener.Among (y.listeners bus name) (z.listeners bus name)) →
        ∀ (hit : Bool) (record : FileRecord), record.Renders →
          ∃ z', publish bus (Build.announcement record hit).name (Build.announcement record hit) z = .ok () z' ∧
            z'.buses = z.buses ∧
            (∀ before c after, consoles = before ++ c :: after →
              (z'.prints c).map some = (z.prints c).map some ++
                ((List.replicate before.length (record.warnings (threshold c))).flatten ++
                  Shown.file (.ofHit hit) record.path ::
                    (List.replicate (after.length + 1) (record.warnings (threshold c))).flatten).map
                      Shown.written?) ∧
            ∀ c, c ∉ consoles → z'.prints c = z.prints c := by
  obtain ⟨y, connected, joined⟩ := joined_connect_each here each fresh passive
  refine ⟨y, connected, fun z among hit record renders => ?_⟩
  obtain ⟨z', published, buses, prints⟩ := performs_announcement (joined.among among) each hit renders
  refine ⟨z', published, buses, ?_, fun c absent => ?_⟩
  · rintro before c after rfl
    have member : c ∈ before ++ c :: after := List.mem_append_right _ List.mem_cons_self
    rw [prints c, ← flatMap_turns each]
    simp only [shared, if_pos member]
    rfl
  · have nothing := prints c
    rw [shared, if_neg absent, flatMap_others absent] at nothing
    refine (List.map_inj_right fun _ _ => Option.some.inj).mp (nothing.trans ?_)
    simp

/-! ### Two consoles -/

/-- Two consoles that show errors, on a bus with a listener that takes notes. -/
def duet : Exchange :=
  (new 1 [.error, .error]).register 0 ⟨Event.cachedName, Listener.recorder "notes"⟩

/-- A record with one error. -/
def troubled : FileRecord :=
  ⟨"a.py", "", ⟨⟨2024, 1, 1⟩, 0, 0, 0, 0, none⟩, [⟨.error, "file is empty", [], some 1⟩]⟩

/-- The second of two consoles shows the error before the file and after it. -/
theorem chorus_prints_second :
    ∃ y z, [0, 1].forM (connect · 0) duet = .ok () y ∧
      publish 0 Event.analyzedName (.analyzed troubled) y = .ok () z ∧
      (z.prints 1).map some = (y.prints 1).map some ++ [Shown.log .error "file is empty",
        .file .analyzed "a.py", .log .error "file is empty"].map Shown.written? := by
  have here : 0 < duet.buses.length := Nat.zero_lt_one
  have fresh : ∀ c ∈ [0, 1], duet.consoles[c]? = some ⟨.error, none⟩ := by
    intro c member
    obtain rfl | last := List.mem_cons.mp member
    · rfl
    · rw [List.mem_singleton.mp last]
      rfl
  have passive : ∀ r ∈ duet.registrations 0, Listener.Passive r.listener := by
    intro r member
    rw [List.mem_singleton.mp member]
    exact Listener.recorder_passive "notes"
  have renders : troubled.Renders := by
    intro p member
    rw [List.mem_singleton.mp member]
    exact Problem.render_text ⟨"file is empty", rfl⟩
  obtain ⟨y, connected, shows⟩ :=
    chorus_prints here (by decide) fresh (passive_of_registrations passive)
  obtain ⟨z, published, -, prints, -⟩ := shows y (fun _ => .refl _) false troubled renders
  exact ⟨y, z, connected, published, prints [0] 1 [] rfl⟩

/-- **Two consoles on one bus show every error twice.** -/
theorem duet_prints_twice :
    let y := endState ([0, 1].forM (connect · 0) duet)
    let result := publish 0 Event.analyzedName (.analyzed troubled) y
    let file := "Parsed modified file \x1b[32ma.py\x1b[0m\n".toList
    let error := "  \x1b[1;37;41mfile is empty\x1b[0m\n".toList
    answer result = .ok () ∧
      (endState result).prints 0 = [file, error, error] ∧
      (endState result).prints 1 = [error, file, error] ∧
      ∀ c ∈ [0, 1], ((endState result).prints c).map some ≠ (y.prints c).map some ++
        (Shown.file .analyzed "a.py" :: troubled.warnings .error).map Shown.written? := by
  decide +kernel

end Exchange

end Docwright
