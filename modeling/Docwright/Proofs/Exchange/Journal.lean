import Docwright.Proofs.Exchange.Trace

/-!
# A journal of publications

`Watched` is an exchange with a journal: everything that is done to the exchange is done
as before, and where a publication begins or ends, a listener is called or comes to its
end, and a listener is subscribed, this is entered with the exchange as it is at that
moment.  A publication is known by the number of the moment at which it begins, so what
one publication does can be told from what the publications nested in it do.

The journal is a means of proof.  Without it, what is done to a watched exchange is what
is done to the exchange (`serveAll_shadows`).
-/

namespace Docwright

/-- Something that happens while an exchange is in use. -/
inductive Happening
  | began (bus : Nat) (name : String) (event : Event)
  | called (publication place : Nat) (listener : Listener)
  | answered (publication place : Nat) (outcome : Except Failure Unit)
  | ended (publication : Nat) (outcome : Except Failure Unit)
  | subscribed (bus : Nat) (name : String) (listener : Listener)
  | replied (outcome : Except Failure Unit)

/-- The outcome of a request. -/
def Happening.reply? : Happening → Option (Except Failure Unit)
  | .replied outcome => some outcome
  | .began .. | .called .. | .answered .. | .ended .. | .subscribed .. => none

/-- What happens, and the exchange when it does. -/
structure Moment where
  what : Happening
  exchange : Exchange

/-- What an exchange is asked for from outside. -/
inductive Request
  | subscribe (bus : Nat) (name : String) (listener : Listener)
  | publish (bus : Nat) (name : String) (event : Event)

namespace Exchange

/-- Meets a request, where publications may nest so far. -/
def serve (depth : Nat) : Request → Act Unit
  | .subscribe bus name listener => subscribe bus name listener
  | .publish bus name event => do
    emit (.published bus name event)
    publishWithin depth bus name event

/-- Requests one after another, also after failures: what comes of each, and the exchange at the end. -/
def serveAll (depth : Nat) : List Request → Exchange → List (Except Failure Unit) × Exchange
  | [], x => ([], x)
  | request :: rest, x =>
    let result := serve depth request x
    let others := serveAll depth rest (endState result)
    (answer result :: others.1, others.2)

example (bus : Nat) (name : String) (event : Event) :
    serve depthLimit (.publish bus name event) = publish bus name event := rfl

/-! ### Exchanges that are watched -/

/-- An exchange, and what has happened on it. -/
structure Watched where
  exchange : Exchange
  journal : List Moment

namespace Watched

/-- What is done to an exchange that is watched. -/
abbrev Act (α : Type) := EStateM Failure Watched α

/-- With another moment in the journal. -/
def enter (what : Happening) (w : Watched) : Watched :=
  { w with journal := w.journal ++ [⟨what, w.exchange⟩] }

/-- Enters what happens. -/
def note (what : Happening) : Act Unit :=
  modify (enter what)

/-- Does something to the exchange. -/
def onExchange (act : Exchange.Act Unit) : Act Unit := fun w =>
  match act w.exchange with
  | .ok _ x => .ok () { w with exchange := x }
  | .error failure x => .error failure { w with exchange := x }

/-- Enters what comes of an act when it ends. -/
def closing (close : Except Failure Unit → Happening) (act : Act Unit) : Act Unit := fun w =>
  match act w with
  | .ok _ w' => .ok () (w'.enter (close (.ok ())))
  | .error failure w' => .error failure (w'.enter (close (.error failure)))

/-- Carries out an action; a subscription is entered. -/
def perform (send : Nat → String → Event → Act Unit) : Action → Act Unit
  | .note id event => onExchange (emit (.noted id event))
  | .print console line => onExchange (print console line)
  | .publish bus name event => send bus name event
  | .subscribe bus name listener => do
    onExchange (subscribe bus name listener)
    note (.subscribed bus name listener)
  | .fail failure => throw failure

/-- Calls the listener at a place for a publication. -/
def call (send : Nat → String → Event → Act Unit) (publication : Nat) (event : Event)
    (entry : Listener × Nat) : Act Unit := do
  note (.called publication entry.2 entry.1)
  closing (.answered publication entry.2) ((entry.1 event).forM (perform send))

/-- Publishes an event under a name, and enters what the publication does. -/
def publishWithin : Nat → Nat → String → Event → Act Unit
  | 0, _, _, _ => throw .tooDeep
  | depth + 1, bus, name, event => do
    let w ← get
    note (.began bus name event)
    closing (.ended w.journal.length)
      ((w.exchange.listeners bus name).zipIdx.forM (call (publishWithin depth) w.journal.length event))

/-- Meets a request. -/
def serve (depth : Nat) : Request → Act Unit
  | .subscribe bus name listener => perform (publishWithin depth) (.subscribe bus name listener)
  | .publish bus name event => do
    onExchange (emit (.published bus name event))
    publishWithin depth bus name event

/-- Requests one after another, also after failures; what comes of each is entered. -/
def serveAll (depth : Nat) (requests : List Request) (w : Watched) : Watched :=
  requests.foldl (fun w request => endState (closing .replied (serve depth request) w)) w

/-! ### The exchange does not see the journal -/

/-- What is left without the journal. -/
def forget : EStateM.Result Failure Watched Unit → EStateM.Result Failure Exchange Unit
  | .ok _ w => .ok () w.exchange
  | .error failure w => .error failure w.exchange

/-- An act on a watched exchange does to the exchange what another act does. -/
def Shadows (watched : Act Unit) (act : Exchange.Act Unit) : Prop :=
  ∀ w, forget (watched w) = act w.exchange

namespace Shadows

variable {watched next : Act Unit} {act act' : Exchange.Act Unit}

theorem throw (failure : Failure) :
    Shadows (MonadExcept.throw failure) (MonadExcept.throw failure) := fun _ => rfl

theorem onExchange (act : Exchange.Act Unit) : Shadows (Watched.onExchange act) act := by
  intro w
  rw [Watched.onExchange]
  cases act w.exchange <;> rfl

theorem bind (first : Shadows watched act) (second : Shadows next act') :
    Shadows (watched >>= fun _ => next) (act >>= fun _ => act') := by
  intro w
  rw [bind_apply, bind_apply, ← first w]
  cases watched w with
  | ok _ w' => exact second w'
  | error failure w' => rfl

/-- What is entered before an act. -/
theorem noted (what : Happening) (shadows : Shadows watched act) :
    Shadows (note what >>= fun _ => watched) act :=
  fun w => shadows (w.enter what)

/-- What is entered behind an act that has succeeded. -/
theorem then_noted (shadows : Shadows watched act) (what : Happening) :
    Shadows (watched >>= fun _ => note what) act := by
  intro w
  rw [bind_apply, ← shadows w]
  cases watched w <;> rfl

theorem closing (close : Except Failure Unit → Happening) (shadows : Shadows watched act) :
    Shadows (Watched.closing close watched) act := by
  intro w
  rw [Watched.closing, ← shadows w]
  cases watched w <;> rfl

/-- What an act comes to, and the exchange that it leaves. -/
theorem exchange (shadows : Shadows watched act) (w : Watched) :
    (endState (watched w)).exchange = endState (act w.exchange) ∧ answer (watched w) = answer (act w.exchange) := by
  rw [← shadows w]
  cases watched w <;> exact ⟨rfl, rfl⟩

theorem forM {α β : Type} {items : List α} {each : α → Act Unit} {view : α → β}
    {each' : β → Exchange.Act Unit} (step : ∀ item, Shadows (each item) (each' (view item))) :
    Shadows (items.forM each) ((items.map view).forM each') := by
  induction items with
  | nil => exact fun _ => rfl
  | cons item rest ih => exact bind (step item) ih

end Shadows

theorem perform_shadows {send : Nat → String → Event → Act Unit}
    {send' : Nat → String → Event → Exchange.Act Unit}
    (shadows : ∀ bus name event, Shadows (send bus name event) (send' bus name event)) (action : Action) :
    Shadows (perform send action) (Exchange.perform send' action) := by
  cases action with
  | note id event => exact Shadows.onExchange (emit (.noted id event))
  | print console line => exact Shadows.onExchange (print console line)
  | publish bus name event => exact shadows bus name event
  | subscribe bus name listener =>
      exact Shadows.then_noted (.onExchange (subscribe bus name listener)) (.subscribed bus name listener)
  | fail failure => exact Shadows.throw failure

/-- A publication that is watched is the publication. -/
theorem publishWithin_shadows (depth bus : Nat) (name : String) (event : Event) :
    Shadows (publishWithin depth bus name event) (Exchange.publishWithin depth bus name event) := by
  induction depth generalizing bus name event with
  | zero => exact .throw _
  | succ depth ih =>
      intro w
      let heard (listener : Listener) : Exchange.Act Unit :=
        (listener event).forM (Exchange.perform (Exchange.publishWithin depth))
      have called : ∀ entry : Listener × Nat,
          Shadows (call (publishWithin depth) w.journal.length event entry) (heard entry.1) := by
        intro entry
        have actions : Shadows ((entry.1 event).forM (perform (publishWithin depth)))
            (((entry.1 event).map id).forM (Exchange.perform (Exchange.publishWithin depth))) :=
          .forM (perform_shadows ih)
        rw [List.map_id] at actions
        exact .noted _ (.closing _ actions)
      have all : Shadows
          ((w.exchange.listeners bus name).zipIdx.forM (call (publishWithin depth) w.journal.length event))
          (((w.exchange.listeners bus name).zipIdx.map Prod.fst).forM heard) :=
        .forM called
      rw [List.zipIdx_map_fst] at all
      exact Shadows.noted (.began bus name event) (.closing (.ended w.journal.length) all) w

theorem serve_shadows (depth : Nat) (request : Request) :
    Shadows (serve depth request) (Exchange.serve depth request) := by
  cases request with
  | subscribe bus name listener =>
      exact perform_shadows (publishWithin_shadows depth) (.subscribe bus name listener)
  | publish bus name event =>
      exact Shadows.bind (.onExchange (emit (.published bus name event)))
        (publishWithin_shadows depth bus name event)

/-! ### Steps -/

/-- A relation between where an act begins, what comes of it and where it ends holds of an act. -/
def Meets (relation : Watched → Except Failure Unit → Watched → Prop) (act : Act Unit) : Prop :=
  ∀ w, relation w (answer (act w)) (endState (act w))

/-- A relation holds of steps in sequence, of what leaves the registrations alone, and of a subscription that
is entered. -/
structure Steps (relation : Watched → Except Failure Unit → Watched → Prop) : Prop where
  idle : ∀ w outcome, relation w outcome w
  trans : ∀ {w w' w'' outcome}, relation w (.ok ()) w' → relation w' outcome w'' → relation w outcome w''
  exchange : ∀ w outcome {x}, x.buses = w.exchange.buses → relation w outcome { w with exchange := x }
  subscribed : ∀ w {x} bus name listener, x.buses = (w.exchange.register bus ⟨name, listener⟩).buses →
    relation w (.ok ()) (enter (.subscribed bus name listener) { w with exchange := x })

/-- Two relations hold of what publications do: one of what a listener does when it is called, and one of
the calls of a publication. -/
structure Law (inside among : Watched → Except Failure Unit → Watched → Prop) : Prop where
  listener : Steps inside
  calls : Steps among
  began : ∀ w bus name event, among w (.ok ()) (w.enter (.began bus name event))
  called : ∀ w p place listener, inside w (.ok ()) (w.enter (.called p place listener))
  answered : ∀ {w w' outcome} p place, inside w outcome w' →
    among w outcome (w'.enter (.answered p place outcome))
  ended : ∀ {w w' outcome} p, among w outcome w' → inside w outcome (w'.enter (.ended p outcome))

theorem closing_apply (close : Except Failure Unit → Happening) (act : Act Unit) (w : Watched) :
    answer (closing close act w) = answer (act w) ∧
      endState (closing close act w) = (endState (act w)).enter (close (answer (act w))) := by
  rw [closing]
  cases act w <;> exact ⟨rfl, rfl⟩

section

variable {relation inside among : Watched → Except Failure Unit → Watched → Prop} {act next : Act Unit}
  {send : Nat → String → Event → Act Unit}

theorem Meets.closing {close : Except Failure Unit → Happening} (meets : Meets inside act)
    (entered : ∀ {w w' outcome}, inside w outcome w' → among w outcome (w'.enter (close outcome))) :
    Meets among (closing close act) := by
  intro w
  obtain ⟨same, led⟩ := closing_apply close act w
  rw [same, led]
  exact entered (meets w)

namespace Steps

variable (steps : Steps relation)
include steps

theorem bind (first : Meets relation act) (second : Meets relation next) :
    Meets relation (act >>= fun _ => next) := by
  intro w
  have begun := first w
  rw [bind_apply]
  cases run : act w with
  | ok _ w' =>
      rw [run] at begun
      exact steps.trans begun (second w')
  | error failure w' => rwa [run] at begun

theorem forM {α : Type} {items : List α} {each : α → Act Unit}
    (step : ∀ item ∈ items, Meets relation (each item)) : Meets relation (items.forM each) := by
  induction items with
  | nil => exact fun w => steps.idle w (.ok ())
  | cons item rest ih =>
      exact steps.bind (step item List.mem_cons_self) (ih fun other member =>
        step other (List.mem_cons_of_mem _ member))

theorem onExchange {act : Exchange.Act Unit} (keeps : Keeps Exchange.buses act) :
    Meets relation (onExchange act) := by
  intro w
  have same := keeps w.exchange
  rw [Watched.onExchange]
  cases run : act w.exchange with
  | ok _ x =>
      rw [run] at same
      exact steps.exchange w _ same
  | error failure x =>
      rw [run] at same
      exact steps.exchange w _ same

theorem onExchange_emit (effect : Effect) : Meets relation (Watched.onExchange (emit effect)) :=
  steps.onExchange (Keeps.modify fun _ => rfl)

theorem perform (sends : ∀ bus name event, Meets relation (send bus name event)) (action : Action) :
    Meets relation (perform send action) := by
  cases action with
  | note id event => exact steps.onExchange_emit (.noted id event)
  | print console line =>
      refine steps.onExchange (show Keeps Exchange.buses (print console line) from ?_)
      unfold print
      split
      · exact Keeps.modify fun _ => rfl
      · exact Keeps.throw _
  | publish bus name event => exact sends bus name event
  | subscribe bus name listener =>
      intro w
      cases blank : isBlankName name with
      | true =>
          have refused : Watched.perform send (.subscribe bus name listener) w = .error .blankName w := by
            simp [Watched.perform, Watched.onExchange, Exchange.subscribe, blank, bind_apply]
          rw [refused]
          exact steps.idle w _
      | false =>
          have done := subscribe_apply blank bus listener w.exchange
          simp only [Watched.perform, Watched.onExchange, bind_apply, done]
          exact steps.subscribed w bus name listener rfl
  | fail failure => exact fun w => steps.idle w _

end Steps

/-- What holds of the steps of publications holds of publications. -/
theorem Law.publishWithin (law : Law inside among) (depth bus : Nat) (name : String) (event : Event) :
    Meets inside (publishWithin depth bus name event) := by
  induction depth generalizing bus name event with
  | zero => exact fun w => law.listener.idle w _
  | succ depth ih =>
      intro w
      have called : ∀ entry : Listener × Nat,
          Meets among (call (Watched.publishWithin depth) w.journal.length event entry) := by
        intro entry w'
        have actions : Meets inside ((entry.1 event).forM (perform (Watched.publishWithin depth))) :=
          law.listener.forM fun action _ => law.listener.perform ih action
        have begun : Meets inside (note (.called w.journal.length entry.2 entry.1)) :=
          fun w => law.called w _ _ _
        exact law.listener.bind begun actions |>.closing (law.answered _ _) w'
      have all : Meets among
          ((w.exchange.listeners bus name).zipIdx.forM (call (Watched.publishWithin depth) w.journal.length event)) :=
        law.calls.forM fun entry _ => called entry
      have begun : Meets among (note (.began bus name event)) := fun w => law.began w bus name event
      exact (law.calls.bind begun all).closing (law.ended w.journal.length) w

/-- What holds of publications holds of requests. -/
theorem Steps.serve (steps : Steps relation) {depth : Nat}
    (sends : ∀ bus name event, Meets relation (Watched.publishWithin depth bus name event))
    (request : Request) : Meets relation (serve depth request) := by
  cases request with
  | subscribe bus name listener => exact steps.perform sends (.subscribe bus name listener)
  | publish bus name event => exact steps.bind (steps.onExchange_emit _) (sends bus name event)

end

/-! ### Replies -/

/-- What was replied to requests, in order. -/
def replies (w : Watched) : List (Except Failure Unit) :=
  w.journal.filterMap (·.what.reply?)

theorem replies_enter (what : Happening) (w : Watched) :
    (w.enter what).replies = w.replies ++ what.reply?.toList := by
  cases h : what.reply? <;> simp [replies, enter, h]

theorem steps_replies : Steps fun w _ w' => w'.replies = w.replies where
  idle _ _ := rfl
  trans first second := second.trans first
  exchange _ _ _ _ := rfl
  subscribed _ _ _ _ _ _ := (replies_enter _ _).trans (List.append_nil _)

/-- Nothing that happens while a request is met counts as a reply. -/
theorem law_replies : Law (fun w _ w' => w'.replies = w.replies) fun w _ w' => w'.replies = w.replies where
  listener := steps_replies
  calls := steps_replies
  began _ _ _ _ := (replies_enter _ _).trans (List.append_nil _)
  called _ _ _ _ := (replies_enter _ _).trans (List.append_nil _)
  answered _ _ kept := (replies_enter _ _).trans ((List.append_nil _).trans kept)
  ended _ kept := (replies_enter _ _).trans ((List.append_nil _).trans kept)

/-- A request adds its outcome to the replies. -/
theorem reply_serve (depth : Nat) (request : Request) (w : Watched) :
    let w' := endState (closing .replied (serve depth request) w)
    w'.exchange = endState (Exchange.serve depth request w.exchange) ∧
      w'.replies = w.replies ++ [answer (Exchange.serve depth request w.exchange)] := by
  intro w'
  obtain ⟨exchange, outcome⟩ := (serve_shadows depth request).exchange w
  have kept := steps_replies.serve (law_replies.publishWithin depth) request w
  have led : w' = (endState (serve depth request w)).enter (.replied (answer (serve depth request w))) :=
    (closing_apply _ _ w).2
  rw [led, replies_enter, kept, outcome]
  exact ⟨exchange, rfl⟩

/-- What every request keeps holds after all of them. -/
theorem serveAll_invariant {invariant : Watched → Prop} {depth : Nat}
    (step : ∀ request w, invariant w → invariant (endState (closing .replied (serve depth request) w)))
    (requests : List Request) {w : Watched} (start : invariant w) :
    invariant (serveAll depth requests w) := by
  induction requests generalizing w with
  | nil => exact start
  | cons request rest ih => exact ih (step request w start)

/-- **Watching changes nothing**: requests lead to the same exchange, and the replies are the same. -/
theorem serveAll_shadows (depth : Nat) (requests : List Request) (w : Watched) :
    (serveAll depth requests w).exchange = (Exchange.serveAll depth requests w.exchange).2 ∧
      (serveAll depth requests w).replies =
        w.replies ++ (Exchange.serveAll depth requests w.exchange).1 := by
  induction requests generalizing w with
  | nil => exact ⟨rfl, (List.append_nil _).symm⟩
  | cons request rest ih =>
      obtain ⟨exchange, replies⟩ := reply_serve depth request w
      obtain ⟨exchange', replies'⟩ := ih (endState (closing .replied (serve depth request) w))
      rw [exchange] at exchange' replies'
      refine ⟨exchange', replies'.trans ?_⟩
      rw [replies, List.append_assoc]
      rfl

end Watched

end Exchange

end Docwright
