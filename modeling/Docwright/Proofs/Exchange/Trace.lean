import Docwright.Proofs.Acts

/-!
# What is announced on an exchange

`Exchange.publications` lists what was published from outside, in order, with the bus
and the name that it was published under; `Exchange.announced` lists the events alone.
Listeners may publish in turn, to any depth, but nothing that happens during a
publication is an announcement; so a publication adds exactly its own event
(`publications_publish`), also when a listener fails.

`Logs x y` says that `y` is `x` with more entries in the log.  This is all that a
build does to an exchange between its announcements.
-/

namespace Docwright

/-- The event of an announcement. -/
def Effect.announced? : Effect → Option Event
  | .published _ _ event => some event
  | .noted .. | .printed .. | .logged _ => none

/-- An announcement with its bus and its name. -/
def Effect.publication? : Effect → Option (Nat × String × Event)
  | .published bus name event => some (bus, name, event)
  | .noted .. | .printed .. | .logged _ => none

namespace Exchange

/-- The events that were published from outside, in order. -/
def announced (x : Exchange) : List Event :=
  x.trace.filterMap Effect.announced?

/-- What was published from outside, in order. -/
def publications (x : Exchange) : List (Nat × String × Event) :=
  x.trace.filterMap Effect.publication?

/-- The events are those of the publications. -/
theorem announced_eq (x : Exchange) : x.announced = x.publications.map fun p => p.2.2 := by
  rw [announced, publications, List.map_filterMap]
  congr 1
  funext effect
  cases effect <;> rfl

theorem publications_observe (effect : Effect) (x : Exchange) :
    (x.observe effect).publications = x.publications ++ effect.publication?.toList := by
  cases h : effect.publication? <;> simp [publications, observe, h]

theorem keeps_emit {effect : Effect} (h : effect.publication? = none) :
    Keeps publications (emit effect) :=
  Keeps.modify fun x => by rw [publications_observe, h, Option.toList_none, List.append_nil]

theorem listeners_of_buses {x y : Exchange} (same : y.buses = x.buses) (bus : Nat) (name : String) :
    y.listeners bus name = x.listeners bus name := by
  rw [listeners, listeners, registrations, registrations, same]

/-- A publication asks the listeners that are registered when it begins, one after another. -/
theorem publishWithin_succ (depth bus : Nat) (name : String) (event : Event) (x : Exchange) :
    publishWithin (depth + 1) bus name event x =
      (x.listeners bus name).forM (fun l => (l event).forM (perform (publishWithin depth))) x := rfl

/-- What subscribing comes to. -/
theorem subscribe_apply {name : String} (named : isBlankName name = false) (bus : Nat)
    (listener : Listener) (x : Exchange) :
    subscribe bus name listener x = .ok () ((x.register bus ⟨name, listener⟩).observe
      (.logged ⟨.debug, .exchange, s!"Listener subscribed (event_name={name})"⟩)) := by
  unfold subscribe
  rw [named]
  rfl

theorem keeps_subscribe (bus : Nat) (name : String) (listener : Listener) :
    Keeps publications (subscribe bus name listener) := by
  unfold subscribe
  split
  · exact Keeps.throw _
  · refine Keeps.bind (Keeps.modify fun _ => rfl) fun _ => ?_
    exact keeps_emit rfl

theorem keeps_print (console : Nat) (line : List Char) :
    Keeps publications (print console line) := by
  unfold print
  split
  · exact keeps_emit rfl
  · exact Keeps.throw _

theorem keeps_perform {send : Nat → String → Event → Act Unit}
    (h : ∀ bus name event, Keeps publications (send bus name event)) (action : Action) :
    Keeps publications (perform send action) := by
  cases action with
  | note id event => exact keeps_emit rfl
  | print console line => exact keeps_print console line
  | publish bus name event => exact h bus name event
  | subscribe bus name listener => exact keeps_subscribe bus name listener
  | fail failure => exact Keeps.throw failure

/-- Nothing that listeners do counts as an announcement. -/
theorem keeps_publishWithin (depth bus : Nat) (name : String) (event : Event) :
    Keeps publications (publishWithin depth bus name event) := by
  induction depth generalizing bus name event with
  | zero => exact Keeps.throw _
  | succ depth ih =>
      unfold publishWithin
      refine Keeps.bind Keeps.get fun x => Keeps.forM fun listener _ => ?_
      exact Keeps.forM fun action _ => keeps_perform ih action

/-- A publication announces its event and nothing else. -/
theorem publications_publish (bus : Nat) (name : String) (event : Event) (x : Exchange) :
    (endState (publish bus name event x)).publications = x.publications ++ [(bus, name, event)] := by
  have inner := keeps_publishWithin depthLimit bus name event
    (x.observe (.published bus name event))
  rw [publications_observe] at inner
  exact inner

theorem announced_publish (bus : Nat) (name : String) (event : Event) (x : Exchange) :
    (endState (publish bus name event x)).announced = x.announced ++ [event] := by
  rw [announced_eq, publications_publish, List.map_append, ← announced_eq]
  rfl

/-! ### Entries of the log -/

/-- The second exchange is the first with more entries in the log. -/
def Logs (x y : Exchange) : Prop :=
  ∃ entries : List Log.Entry, y = { x with trace := x.trace ++ entries.map .logged }

namespace Logs

theorem refl (x : Exchange) : Logs x x := ⟨[], by simp⟩

theorem trans {x y z : Exchange} (h : Logs x y) (k : Logs y z) : Logs x z := by
  obtain ⟨first, rfl⟩ := h
  obtain ⟨second, rfl⟩ := k
  exact ⟨first ++ second, by simp⟩

theorem observe (entry : Log.Entry) (x : Exchange) : Logs x (x.observe (.logged entry)) :=
  ⟨[entry], rfl⟩

theorem publications {x y : Exchange} (h : Logs x y) : y.publications = x.publications := by
  obtain ⟨entries, rfl⟩ := h
  have silent : entries.filterMap (Effect.publication? ∘ Effect.logged) = [] := by
    rw [List.filterMap_eq_nil_iff]
    exact fun _ _ => rfl
  rw [Exchange.publications, List.filterMap_append, List.filterMap_map, silent, List.append_nil]
  rfl

theorem announced {x y : Exchange} (h : Logs x y) : y.announced = x.announced := by
  rw [announced_eq, h.publications, ← announced_eq]

end Logs

end Exchange

end Docwright
