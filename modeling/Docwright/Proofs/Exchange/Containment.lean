import Docwright.Proofs.Exchange.Printing
import Docwright.Proofs.Exchange.Reentrancy

/-!
# Publications that stay on their bus

While a publication is under way, some listeners have been called and have not come to
their end; the innermost of these is the one that acts (`callers`).  So everything that
a journal has of nested publications can be traced back to a listener.

An exchange is `Confined` to a bus if the listeners there publish there only, print on
some consoles only, and subscribe nothing.  A publication on that bus then leaves all
registrations as they are, at every moment; it calls listeners of that bus only, and each
publication nested in it is what the innermost of these does (`contained_publish`).

`Abides` is what one act leaves to the next one: it is said of acts that are carried out
while the same listeners are being called, so a call is put together from what its
listener does, and a publication from its calls.
-/

namespace Docwright

/-- An action that stays on a bus: it prints on some consoles only, what it publishes are messages on that
bus, and it subscribes nothing. -/
def Action.StaysOn (bus : Nat) (own : List Nat) : Action → Prop
  | .note .. | .fail _ => True
  | .print console _ => console ∈ own
  | .publish b name _ => b = bus ∧ name = Event.logName
  | .subscribe .. => False

/-- The listeners that are being called after something has happened, the innermost one first. -/
def Happening.callers (calling : List Listener) : Happening → List Listener
  | .called _ _ listener => listener :: calling
  | .answered .. => calling.tail
  | .began .. | .ended .. | .subscribed .. | .replied _ => calling

namespace Exchange

/-- What the listeners of a bus do stays on it. -/
def Confined (bus : Nat) (own : List Nat) (x : Exchange) : Prop :=
  ∀ name, ∀ listener ∈ x.listeners bus name, ∀ event, ∀ action ∈ listener event, action.StaysOn bus own

namespace Watched

variable {w w' w'' : Watched} {what : Happening} {x y : Exchange} {bus depth p place : Nat} {own : List Nat}
  {name : String} {event : Event} {calling : List Listener} {listener : Listener} {act next : Act Unit}

/-- The listeners that are being called at the end of a journal, the innermost one first. -/
def callers (journal : List Moment) : List Listener :=
  journal.foldl (fun calling moment => moment.what.callers calling) []

theorem callers_enter (what : Happening) (w : Watched) :
    callers (w.enter what).journal = what.callers (callers w.journal) := by
  simp [callers, enter]

/-- A publication is what the innermost of the listeners does that are being called, and that is a listener
of a bus. -/
def Issued (bus : Nat) (x : Exchange) (calling : List Listener) (b : Nat) (name : String) (event : Event) : Prop :=
  ∃ listener ∈ calling.head?, (∃ under, listener ∈ x.listeners bus under) ∧
    ∃ heard, .publish b name event ∈ listener heard

/-- What happens on a bus while listeners are being called, and all registrations are as they were. -/
structure Proper (bus : Nat) (x : Exchange) (calling : List Listener) (moment : Moment) : Prop where
  buses : moment.exchange.buses = x.buses
  called : ∀ p place listener, moment.what = .called p place listener → ∃ name, listener ∈ x.listeners bus name
  began : ∀ b name event, moment.what = .began b name event → Issued bus x calling b name event

/-- The journal goes on with what happens on a bus, and nothing is printed but on some consoles. -/
structure Stays (bus : Nat) (own : List Nat) (x : Exchange) (w w' : Watched) : Prop where
  kept : w.journal <+: w'.journal
  proper : ∀ (k : Nat) moment, w.journal.length ≤ k → w'.journal[k]? = some moment →
    Proper bus x (callers (w'.journal.take k)) moment
  buses : w'.exchange.buses = w.exchange.buses
  consoles : w'.exchange.consoles = w.exchange.consoles
  prints : ∀ c ∉ own, w'.exchange.prints c = w.exchange.prints c

namespace Stays

theorem refl (w : Watched) : Stays bus own x w w where
  kept := List.prefix_refl _
  proper k moment late found := by
    rw [List.getElem?_eq_none late] at found
    cases found
  buses := rfl
  consoles := rfl
  prints _ _ := rfl

theorem trans (first : Stays bus own x w w') (second : Stays bus own x w' w'') : Stays bus own x w w'' where
  kept := first.kept.trans second.kept
  proper k moment late found := by
    by_cases early : k < w'.journal.length
    · obtain ⟨more, grown⟩ := second.kept
      rw [← grown, List.getElem?_append_left early] at found
      rw [← grown, List.take_append_of_le_length (Nat.le_of_lt early)]
      exact first.proper k moment late found
    · exact second.proper k moment (Nat.not_lt.mp early) found
  buses := second.buses.trans first.buses
  consoles := second.consoles.trans first.consoles
  prints c other := (second.prints c other).trans (first.prints c other)

/-- Something happens. -/
theorem enter (proper : Proper bus x (callers w.journal) ⟨what, w.exchange⟩) :
    Stays bus own x w (w.enter what) where
  kept := List.prefix_append _ _
  proper k moment late found := by
    rw [Watched.enter, List.getElem?_append_right late] at found
    obtain rfl := List.mem_singleton.mp (List.mem_of_getElem? found)
    have last : k = w.journal.length := by
      have bound := (List.getElem?_eq_some_iff.mp found).1
      rw [List.length_singleton] at bound
      omega
    subst last
    rwa [Watched.enter, List.take_append_of_le_length (Nat.le_refl _), List.take_length]
  buses := rfl
  consoles := rfl
  prints _ _ := rfl

end Stays

/-- An act that is carried out while listeners are being called stays on a bus, and then the same ones are
being called. -/
def Abides (bus : Nat) (own : List Nat) (x : Exchange) (calling : List Listener) (act : Act Unit) : Prop :=
  ∀ w, w.exchange.buses = x.buses → callers w.journal = calling →
    Stays bus own x w (endState (act w)) ∧ callers (endState (act w)).journal = calling

namespace Abides

theorem throw (failure : Failure) : Abides bus own x calling (MonadExcept.throw failure) :=
  fun w _ called => ⟨.refl w, called⟩

theorem bind (first : Abides bus own x calling act) (second : Abides bus own x calling next) :
    Abides bus own x calling (act >>= fun _ => next) := by
  intro w same called
  obtain ⟨stays, still⟩ := first w same called
  rw [bind_apply]
  cases run : act w with
  | error failure w' =>
      rw [run] at stays still
      exact ⟨stays, still⟩
  | ok _ w' =>
      rw [run] at stays still
      obtain ⟨stays', still'⟩ := second w' (stays.buses.trans same) still
      exact ⟨stays.trans stays', still'⟩

theorem forM {α : Type} {items : List α} {each : α → Act Unit}
    (step : ∀ item ∈ items, Abides bus own x calling (each item)) :
    Abides bus own x calling (items.forM each) := by
  induction items with
  | nil => exact fun w _ called => ⟨.refl w, called⟩
  | cons item rest ih =>
      exact bind (step item List.mem_cons_self) (ih fun other member => step other (List.mem_cons_of_mem _ member))

/-- What is observed of an exchange alone, unless it is printed on another console. -/
theorem emit {effect : Effect} (silent : ∀ c ∉ own, effect.printed? c = none) :
    Abides bus own x calling (onExchange (Exchange.emit effect)) := by
  refine fun w _ called => ⟨⟨List.prefix_refl _, fun k moment late found => ?_, rfl, rfl, fun c other => ?_⟩, called⟩
  · rw [show (endState (onExchange (Exchange.emit effect) w)).journal = w.journal from rfl,
      List.getElem?_eq_none late] at found
    cases found
  · change (w.exchange.observe effect).prints c = _
    rw [Exchange.prints, observe, List.filterMap_append, List.filterMap_cons_none (silent c other)]
    exact List.append_nil _

theorem print {console : Nat} (mine : console ∈ own) (line : List Char) :
    Abides bus own x calling (onExchange (Exchange.print console line)) := by
  unfold Exchange.print
  split
  · refine emit fun c other => ?_
    rw [Effect.printed?, if_neg]
    rintro rfl
    exact other mine
  · exact fun w _ called => ⟨.refl w, called⟩

variable {send : Nat → String → Event → Act Unit}

/-- An action of the innermost listener. -/
theorem perform {under : String} (confined : x.Confined bus own) (among : listener ∈ x.listeners bus under)
    (sends : ∀ name event, Issued bus x (listener :: calling) bus name event →
      Abides bus own x (listener :: calling) (send bus name event))
    {action : Action} (acts : action ∈ listener event) :
    Abides bus own x (listener :: calling) (Watched.perform send action) := by
  have stays := confined under listener among event action acts
  cases action with
  | note id event => exact emit fun _ _ => rfl
  | print console line => exact print stays line
  | publish b name event' =>
      obtain ⟨rfl, -⟩ := stays
      exact sends name event' ⟨listener, rfl, ⟨under, among⟩, event, acts⟩
  | subscribe bus name listener => exact stays.elim
  | fail failure => exact throw failure

/-- A call: what the listener does is carried out while it is the innermost one. -/
theorem call {under : String} (confined : x.Confined bus own) (among : listener ∈ x.listeners bus under)
    (sends : ∀ name event, Issued bus x (listener :: calling) bus name event →
      Abides bus own x (listener :: calling) (send bus name event)) :
    Abides bus own x calling (Watched.call send p event (listener, place)) := by
  intro w same called
  let w₁ := w.enter (.called p place listener)
  let actions : Act Unit := (listener event).forM (Watched.perform send)
  have led : endState (Watched.call send p event (listener, place) w) =
      (endState (actions w₁)).enter (.answered p place (answer (actions w₁))) :=
    (closing_apply (.answered p place) actions w₁).2
  have before : Stays bus own x w w₁ := by
    refine .enter ⟨same, fun _ _ _ what => ?_, nofun⟩
    cases what
    exact ⟨under, among⟩
  have acts : Abides bus own x (listener :: calling) actions :=
    forM fun action member => perform confined among sends member
  obtain ⟨stays, still⟩ := acts w₁ same (by rw [callers_enter, called]; rfl)
  have after : Stays bus own x (endState (actions w₁))
      ((endState (actions w₁)).enter (.answered p place (answer (actions w₁)))) :=
    .enter ⟨stays.buses.trans same, nofun, nofun⟩
  rw [led, callers_enter, still]
  exact ⟨(before.trans stays).trans after, rfl⟩

end Abides

variable {send : Nat → String → Event → Act Unit}

/-- What a publication does that has begun. -/
theorem abides_calls (confined : x.Confined bus own)
    (sends : ∀ calling name event, Issued bus x calling bus name event →
      Abides bus own x calling (send bus name event)) (name : String) (event : Event) :
    Abides bus own x calling (closing (.ended p)
      ((x.listeners bus name).zipIdx.forM (call send p event))) := by
  intro w same called
  have all : Abides bus own x calling ((x.listeners bus name).zipIdx.forM (call send p event)) :=
    .forM fun entry member => .call confined (List.fst_mem_of_mem_zipIdx member) (sends _)
  obtain ⟨stays, still⟩ := all w same called
  rw [(closing_apply _ _ w).2, callers_enter, still]
  exact ⟨stays.trans (.enter ⟨stays.buses.trans same, nofun, nofun⟩), rfl⟩

/-- A publication that a listener issues. -/
theorem abides_publishWithin (confined : x.Confined bus own)
    (issued : Issued bus x calling bus name event) :
    Abides bus own x calling (publishWithin depth bus name event) := by
  induction depth generalizing calling name event with
  | zero => exact .throw _
  | succ depth ih =>
      intro w same called
      -- it calls the listeners of `x`, since all registrations are still as they are there
      let w₁ := w.enter (.began bus name event)
      have begun : Stays bus own x w w₁ := by
        refine .enter ⟨same, nofun, fun _ _ _ what => ?_⟩
        cases what
        rwa [called]
      obtain ⟨stays, still⟩ := abides_calls (p := w.journal.length) confined (fun _ _ _ => ih) name event w₁ same
        ((callers_enter _ w).trans called)
      rw [← listeners_of_buses same] at stays still
      exact ⟨begun.trans stays, still⟩

/-! ### A whole publication -/

/-- What is seen of a publication on a bus: registrations and homes stay as they are, listeners of the bus are
called only, every other publication is what the innermost of these does, and nothing is printed but on some
consoles. -/
structure Contained (bus : Nat) (name : String) (event : Event) (own : List Nat) (x : Exchange)
    (w : Watched) : Prop where
  exchange : w.exchange.buses = x.buses ∧ w.exchange.consoles = x.consoles
  moments : ∀ moment ∈ w.journal, moment.exchange.buses = x.buses
  called : ∀ moment ∈ w.journal, ∀ p place listener, moment.what = .called p place listener →
    ∃ under, listener ∈ x.listeners bus under
  began : ∀ (k b : Nat) under heard y, w.journal[k]? = some ⟨.began b under heard, y⟩ →
    k = 0 ∧ b = bus ∧ under = name ∧ heard = event ∨ Issued bus x (callers (w.journal.take k)) b under heard
  prints : ∀ c ∉ own, w.exchange.prints c = x.prints c

/-- **A publication on a bus stays on it**, if what the listeners there do stays on it. -/
theorem contained_publish (confined : x.Confined bus own) (name : String) (event : Event) :
    let w := endState (serve depthLimit (.publish bus name event) ⟨x, []⟩)
    w.exchange = endState (publish bus name event x) ∧ Contained bus name event own x w := by
  intro w
  have shadowed := ((serve_shadows depthLimit (.publish bus name event)).exchange ⟨x, []⟩).1
  let first : Watched := ⟨x.observe (.published bus name event), []⟩
  let begun := first.enter (.began bus name event)
  have calls : Abides bus own x [] (closing (.ended 0)
      ((x.listeners bus name).zipIdx.forM (call (publishWithin 999) 0 event))) :=
    abides_calls confined (fun _ _ _ => abides_publishWithin confined) name event
  have stays : Stays bus own x begun w := (calls begun rfl rfl).1
  obtain ⟨more, grown⟩ := stays.kept
  have start : begun.journal = [⟨.began bus name event, first.exchange⟩] := rfl
  -- when the publication itself begins nobody is being called, so this moment is set apart
  have moments : ∀ moment ∈ w.journal, moment = ⟨.began bus name event, first.exchange⟩ ∨
      ∃ k, 1 ≤ k ∧ w.journal[k]? = some moment := by
    intro moment member
    obtain ⟨k, found⟩ := List.getElem?_of_mem member
    cases k with
    | zero =>
        rw [← grown, start] at found
        exact .inl (Option.some.inj found).symm
    | succ k => exact .inr ⟨k + 1, Nat.succ_le_succ (Nat.zero_le k), found⟩
  refine ⟨shadowed, ⟨stays.buses, stays.consoles⟩, fun moment member => ?_, fun moment member p place listener what => ?_,
    fun k b under heard y found => ?_, fun c other => ?_⟩
  · obtain rfl | ⟨k, late, found⟩ := moments moment member
    · rfl
    · exact (stays.proper k moment late found).buses
  · obtain rfl | ⟨k, late, found⟩ := moments moment member
    · cases what
    · exact (stays.proper k moment late found).called p place listener what
  · cases k with
    | zero =>
        rw [← grown, start] at found
        cases found
        exact .inl ⟨rfl, rfl, rfl, rfl⟩
    | succ k => exact .inr ((stays.proper (k + 1) _ (Nat.succ_le_succ (Nat.zero_le k)) found).began _ _ _ rfl)
  · refine (stays.prints c other).trans ?_
    simp [begun, first, enter, Exchange.prints, observe, Effect.printed?]

end Watched

end Exchange

/-! ### What consoles do -/

namespace Listener

variable {console bus : Nat} {origin : Console.Origin} {threshold : Severity} {listener : Listener} {event : Event}
  {own : List Nat}

/-- What a console does when it hears of a file. -/
theorem mem_showFile {action : Action} (acts : action ∈ showFile console bus origin event) :
    (∃ line, action = .print console line) ∨ (∃ p, action = .publish bus Event.logName (.ofProblem p)) ∨
      ∃ failure, action = .fail failure := by
  unfold showFile at acts
  split at acts
  · obtain rfl | problem := List.mem_cons.mp acts
    · exact .inl ⟨_, rfl⟩
    · obtain ⟨p, -, rfl⟩ := List.mem_map.mp problem
      exact .inr (.inl ⟨p, rfl⟩)
  · exact .inr (.inr ⟨_, List.mem_singleton.mp acts⟩)

/-- What a console does when it hears of a message. -/
theorem mem_showLog {action : Action} (acts : action ∈ showLog console threshold event) :
    (∃ line, action = .print console line) ∨ ∃ failure, action = .fail failure := by
  unfold showLog at acts
  split at acts
  · split at acts
    · split at acts
      · exact .inl ⟨_, List.mem_singleton.mp acts⟩
      · exact .inr ⟨_, List.mem_singleton.mp acts⟩
    · cases acts
  · exact .inr ⟨_, List.mem_singleton.mp acts⟩

/-- A listener that takes notes only stays anywhere. -/
theorem Passive.staysOn (passive : listener.Passive) {action : Action} (acts : action ∈ listener event) :
    action.StaysOn bus own := by
  have notes := passive event action acts
  cases action with
  | note | fail => trivial
  | print | publish | subscribe => exact notes.elim

end Listener

namespace Exchange

variable {console bus b : Nat} {own : List Nat} {threshold : Severity} {r : Registration} {name : String}
  {event heard : Event} {action : Action}

theorem mem_wiring (member : r ∈ wiring console bus threshold) :
    (∃ origin, r.listener = Listener.showFile console bus origin) ∨
      r.listener = Listener.showLog console threshold := by
  simp only [wiring, List.mem_cons, List.not_mem_nil, or_false] at member
  obtain rfl | rfl | rfl := member
  · exact .inl ⟨_, rfl⟩
  · exact .inl ⟨_, rfl⟩
  · exact .inr rfl

/-- What a console does that is connected to a bus. -/
theorem wiring_acts (member : r ∈ wiring console bus threshold) (acts : action ∈ r.listener event) :
    (∃ line, action = .print console line) ∨ (∃ p, action = .publish bus Event.logName (.ofProblem p)) ∨
      ∃ failure, action = .fail failure := by
  obtain ⟨origin, same⟩ | same := mem_wiring member
  · exact Listener.mem_showFile (same ▸ acts)
  · exact (Listener.mem_showLog (same ▸ acts)).imp id .inr

/-- It stays on that bus. -/
theorem wiring_staysOn (mine : console ∈ own) (member : r ∈ wiring console bus threshold)
    (acts : action ∈ r.listener event) : action.StaysOn bus own := by
  obtain ⟨line, rfl⟩ | ⟨p, rfl⟩ | ⟨failure, rfl⟩ := wiring_acts member acts
  · exact mine
  · exact ⟨rfl, rfl⟩
  · trivial

/-- What it publishes is a problem of a file. -/
theorem wiring_publishes (member : r ∈ wiring console bus threshold)
    (acts : .publish b name event ∈ r.listener heard) : ∃ p, event = .ofProblem p := by
  obtain ⟨line, same⟩ | ⟨p, same⟩ | ⟨failure, same⟩ := wiring_acts member acts <;> cases same
  exact ⟨p, rfl⟩

end Exchange

end Docwright
