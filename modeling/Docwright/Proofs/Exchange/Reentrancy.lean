import Docwright.Proofs.Exchange.Dispatch

/-!
# Listeners that use the exchange

A listener may publish and subscribe while it is called, and so change the very lists
that publications under way go through, and it may fail, and so end all of these.  What
can be relied on is collected in `Reentrant`: the course of every publication, where its
failure goes, and how the lists of listeners grow.  From the course and the growth it
follows who hears of what: a listener that is subscribed has a place that no publication
under way reaches, and that every later one does (`heardSince`).
-/

namespace Docwright

namespace Happening

/-- The listener that is subscribed, if it is on a bus and under a name. -/
def listener? (bus : Nat) (name : String) : Happening → Option Listener
  | .subscribed b n listener => if b = bus ∧ n = name then some listener else none
  | .began .. | .called .. | .answered .. | .ended .. | .replied _ => none

/-- What takes over a failure: the call that it leaves, or the reply. -/
def Takes (failure : Failure) (what : Happening) : Prop :=
  what = .replied (.error failure) ∨ ∃ p place, what = .answered p place (.error failure)

variable {p place : Nat} {listener : Listener} {listeners : List Listener} {course : List Happening}

theorem called_mem_calls :
    .called p place listener ∈ calls p 0 listeners ↔ listeners[place]? = some listener := by
  refine Iff.trans ?_ (List.mem_zipIdx_iff_getElem? : (listener, place) ∈ listeners.zipIdx ↔ _)
  rw [calls, List.mem_flatMap]
  constructor
  · rintro ⟨entry, member, called⟩
    obtain same | answered := List.mem_cons.mp called
    · cases same
      exact member
    · cases List.mem_singleton.mp answered
  · exact fun member => ⟨(listener, place), member, List.mem_cons_self⟩

/-- A publication calls its own listeners only, each one at its place. -/
theorem Course.getElem?_of_called (does : Course p listeners course)
    (called : .called p place listener ∈ course) : listeners[place]? = some listener := by
  cases does with
  | through =>
      obtain among | last := List.mem_append.mp called
      · exact called_mem_calls.mp among
      · cases List.mem_singleton.mp last
  | @broken before after last failure split =>
      subst split
      obtain earlier | ended := List.mem_append.mp called
      · obtain among | broken := List.mem_append.mp earlier
        · have found := called_mem_calls.mp among
          rwa [List.getElem?_append_left (List.getElem?_eq_some_iff.mp found).1]
        · obtain same | answered := List.mem_cons.mp broken
          · cases same
            simp
          · cases List.mem_singleton.mp answered
      · cases List.mem_singleton.mp ended

/-- A publication calls the listener at a place, unless one before it fails. -/
theorem Course.called_of_getElem? (does : Course p listeners course)
    (here : listeners[place]? = some listener) :
    .called p place listener ∈ course ∨
      ∃ earlier < place, ∃ failure, .answered p earlier (.error failure) ∈ course := by
  cases does with
  | through => exact .inl (List.mem_append_left _ (called_mem_calls.mpr here))
  | @broken before after last failure split =>
      subst split
      obtain early | rfl | late := Nat.lt_trichotomy place before.length
      · rw [List.getElem?_append_left early] at here
        exact .inl (List.mem_append_left _ (List.mem_append_left _ (called_mem_calls.mpr here)))
      · have same : last = listener := by simpa using here
        subst same
        exact .inl (by simp)
      · exact .inr ⟨before.length, late, failure, by simp⟩

end Happening

namespace Exchange

theorem listeners_register {bus' : Nat} {x : Exchange} (here : bus' < x.buses.length) (bus : Nat)
    (name name' : String) (listener : Listener) :
    (x.register bus ⟨name, listener⟩).listeners bus' name' = x.listeners bus' name' ++
      (Happening.listener? bus' name' (.subscribed bus name listener)).toList := by
  by_cases same : bus = bus'
  · subst same
    by_cases named : name = name' <;>
      simp [listeners, registrations, register, here, Happening.listener?, named]
  · simp [listeners, registrations, register, Happening.listener?, same]

namespace Watched

open Happening (Course)

variable {w w' : Watched} {what : Happening} {x y : Exchange} {bus : Nat} {name : String}

/-! ### Subscriptions -/

/-- The listeners that were subscribed on a bus under a name, in order. -/
def added (bus : Nat) (name : String) (journal : List Moment) : List Listener :=
  journal.filterMap (·.what.listener? bus name)

theorem added_concat (bus : Nat) (name : String) (j : List Moment) (what : Happening) (x : Exchange) :
    added bus name (j ++ [⟨what, x⟩]) = added bus name j ++ (what.listener? bus name).toList := by
  cases h : what.listener? bus name <;> simp [added, h]

/-- At every moment and at the end, the listeners of every bus under every name are those from the beginning,
and behind them those that were subscribed, in order. -/
structure Grown (x : Exchange) (w : Watched) : Prop where
  buses : w.exchange.buses.length = x.buses.length
  now : ∀ bus < x.buses.length, ∀ name,
    w.exchange.listeners bus name = x.listeners bus name ++ added bus name w.journal
  past : ∀ (k : Nat) what y, w.journal[k]? = some ⟨what, y⟩ → ∀ bus < x.buses.length, ∀ name,
    y.listeners bus name = x.listeners bus name ++ added bus name (w.journal.take (k + 1))

/-- Something happens, and what is subscribed is registered. -/
theorem Grown.enter (grown : Grown x w) (buses : y.buses.length = w.exchange.buses.length)
    (more : ∀ bus < w.exchange.buses.length, ∀ name,
      y.listeners bus name = w.exchange.listeners bus name ++ (what.listener? bus name).toList) :
    Grown x (enter what { w with exchange := y }) := by
  have now : ∀ bus < x.buses.length, ∀ name,
      y.listeners bus name = x.listeners bus name ++ added bus name (w.journal ++ [⟨what, y⟩]) := by
    intro bus here name
    rw [more bus (grown.buses ▸ here) name, grown.now bus here name, added_concat, List.append_assoc]
  refine ⟨buses.trans grown.buses, now, fun k what' y' found bus here name => ?_⟩
  rw [Watched.enter] at found ⊢
  by_cases early : k < w.journal.length
  · rw [List.getElem?_append_left early] at found
    rw [List.take_append_of_le_length early]
    exact grown.past k what' y' found bus here name
  · rw [List.getElem?_append_right (Nat.not_lt.mp early)] at found
    cases List.mem_singleton.mp (List.mem_of_getElem? found)
    rw [List.take_of_length_le]
    · exact now bus here name
    · rw [List.length_append]
      exact Nat.succ_le_succ (Nat.not_lt.mp early)

theorem Grown.silent (grown : Grown x w) (silent : ∀ bus name, what.listener? bus name = none) :
    Grown x (w.enter what) :=
  grown.enter rfl fun bus _ name => by rw [silent, Option.toList_none, List.append_nil]

/-- What an act leaves of what is registered. -/
def Grows (w : Watched) (_ : Except Failure Unit) (w' : Watched) : Prop :=
  ∀ x, Grown x w → Grown x w'

theorem steps_grows : Steps Grows where
  idle _ _ _ := id
  trans first second x := second x ∘ first x
  exchange w _ y same x grown :=
    ⟨(congrArg List.length same).trans grown.buses,
      fun bus here name => (listeners_of_buses same bus name).trans (grown.now bus here name), grown.past⟩
  subscribed w y bus name listener same x grown := by
    refine grown.enter ?_ fun bus' here name' => ?_
    · rw [same, register, List.length_modify]
    · rw [listeners_of_buses same, listeners_register here]

theorem law_grows : Law Grows Grows where
  listener := steps_grows
  calls := steps_grows
  began _ _ _ _ _ grown := grown.silent fun _ _ => rfl
  called _ _ _ _ _ grown := grown.silent fun _ _ => rfl
  answered _ _ grows x grown := (grows x grown).silent fun _ _ => rfl
  ended _ grows x grown := (grows x grown).silent fun _ _ => rfl

theorem grown_serveAll (depth : Nat) (requests : List Request) (x : Exchange) :
    Grown x (serveAll depth requests ⟨x, []⟩) := by
  have step : ∀ request w, Grown x w → Grown x (endState (closing .replied (serve depth request) w)) := by
    intro request w grown
    have served : Meets Grows (closing .replied (serve depth request)) :=
      Meets.closing (steps_grows.serve (law_grows.publishWithin depth) request)
        fun grows x grown => (grows x grown).silent fun _ _ => rfl
    exact served w x grown
  exact serveAll_invariant step requests
    ⟨rfl, fun _ _ _ => (List.append_nil _).symm, fun _ _ _ found => nomatch found⟩

/-! ### Failures -/

/-- A failure that a publication ends with is taken over at the next moment; only at the end there may be one
that is not, and this is what an act comes to. -/
def Hands (outcome : Except Failure Unit) (journal : List Moment) : Prop :=
  ∀ (k p : Nat) failure y, journal[k]? = some ⟨.ended p (.error failure), y⟩ →
    (∃ what z, journal[k + 1]? = some ⟨what, z⟩ ∧ what.Takes failure) ∨
      (k + 1 = journal.length ∧ outcome = .error failure)

variable {outcome outcome' : Except Failure Unit} {j : List Moment}

/-- A failure that was left is taken over by what happens next. -/
theorem Hands.enter (hands : Hands outcome w.journal)
    (takes : ∀ failure, outcome = .error failure → what.Takes failure)
    (leaves : ∀ p failure, what = .ended p (.error failure) → outcome' = .error failure) :
    Hands outcome' (w.enter what).journal := by
  intro k p failure y found
  rw [Watched.enter] at found ⊢
  by_cases early : k < w.journal.length
  · rw [List.getElem?_append_left early] at found
    left
    obtain ⟨what', z, next, taken⟩ | ⟨last, left⟩ := hands k p failure y found
    · have inside : k + 1 < w.journal.length := (List.getElem?_eq_some_iff.mp next).1
      exact ⟨what', z, by rw [List.getElem?_append_left inside, next], taken⟩
    · refine ⟨what, w.exchange, ?_, takes failure left⟩
      rw [last, List.getElem?_append_right (Nat.le_refl _), Nat.sub_self]
      rfl
  · have bound := (List.getElem?_eq_some_iff.mp found).1
    rw [List.length_append] at bound
    rw [List.getElem?_append_right (Nat.not_lt.mp early)] at found
    have same := congrArg Moment.what (List.mem_singleton.mp (List.mem_of_getElem? found))
    refine .inr ⟨?_, leaves p failure same.symm⟩
    rw [List.length_append]
    exact Nat.le_antisymm bound (Nat.succ_le_succ (Nat.not_lt.mp early))

/-- Where no failure is left, none is. -/
theorem Hands.weaken (hands : Hands (.ok ()) j) (outcome : Except Failure Unit) : Hands outcome j := by
  intro k p failure y found
  obtain taken | ⟨-, left⟩ := hands k p failure y found
  · exact .inl taken
  · cases left

theorem steps_hands : Steps fun w outcome w' => Hands (.ok ()) w.journal → Hands outcome w'.journal where
  idle _ outcome hands := hands.weaken outcome
  trans first second := second ∘ first
  exchange _ outcome _ _ hands := hands.weaken outcome
  subscribed w y _ _ _ _ hands := Hands.enter (w := { w with exchange := y }) hands nofun nofun

theorem law_hands : Law (fun w outcome w' => Hands (.ok ()) w.journal → Hands outcome w'.journal)
    fun w _ w' => Hands (.ok ()) w.journal → Hands (.ok ()) w'.journal where
  listener := steps_hands
  calls :=
    { idle _ _ := id
      trans first second := second ∘ first
      exchange _ _ _ _ := id
      subscribed w y _ _ _ _ hands := Hands.enter (w := { w with exchange := y }) hands nofun nofun }
  began _ _ _ _ hands := hands.enter nofun nofun
  called _ _ _ _ hands := hands.enter nofun nofun
  answered p place hands settled :=
    (hands settled).enter (fun _ same => .inr ⟨p, place, by rw [same]⟩) nofun
  ended _ hands settled :=
    (hands settled).enter nofun fun _ _ same => (Happening.ended.inj same).2

theorem hands_serveAll (depth : Nat) (requests : List Request) (x : Exchange) :
    Hands (.ok ()) (serveAll depth requests ⟨x, []⟩).journal := by
  have step : ∀ request w, Hands (.ok ()) w.journal →
      Hands (.ok ()) (endState (closing .replied (serve depth request) w)).journal := by
    intro request w hands
    have served : Meets (fun w _ w' => Hands (.ok ()) w.journal → Hands (.ok ()) w'.journal)
        (closing .replied (serve depth request)) :=
      Meets.closing (steps_hands.serve (law_hands.publishWithin depth) request)
        fun hands settled => (hands settled).enter (fun _ same => .inl (by rw [same])) nofun
    exact served w hands
  exact serveAll_invariant step requests fun _ _ _ _ found => nomatch found

/-! ### Everything that a run owes -/

/-- A listener that was subscribed at a moment has a place of its own.  No publication that has begun before
calls it there; every one that begins later under its name does, unless a listener before it fails. -/
def HeardSince (k bus : Nat) (name : String) (listener : Listener) (y : Exchange)
    (journal : List Moment) : Prop :=
  ∃ earlier, y.listeners bus name = earlier ++ [listener] ∧
    (∀ p event z, p < k → journal[p]? = some ⟨.began bus name event, z⟩ →
      ∀ l, .called p earlier.length l ∉ doings p journal) ∧
    ∀ p event z, k < p → journal[p]? = some ⟨.began bus name event, z⟩ →
      .called p earlier.length listener ∈ doings p journal ∨
        ∃ place < earlier.length, ∃ failure, .answered p place (.error failure) ∈ doings p journal

theorem added_take_mono {j : List Moment} {k l : Nat} (le : k ≤ l) (bus : Nat) (name : String) :
    added bus name (j.take k) <+: added bus name (j.take l) :=
  List.IsPrefix.filterMap _ (List.take_prefix_take_left le)

theorem heardSince (grown : Grown x w) (lawful : ∀ p, Lawful p w.journal) {k : Nat} {listener : Listener}
    (here : bus < x.buses.length) (subscribed : w.journal[k]? = some ⟨.subscribed bus name listener, y⟩) :
    HeardSince k bus name listener y w.journal := by
  have after : added bus name (w.journal.take (k + 1)) = added bus name (w.journal.take k) ++ [listener] := by
    rw [List.take_add_one, subscribed]
    simp [added, Happening.listener?]
  have since := grown.past k _ y subscribed bus here name
  rw [after, ← List.append_assoc] at since
  refine ⟨_, since, fun p event z before began l called => ?_, fun p event z later began => ?_⟩
  · have found := (lawful p bus name event z began).getElem?_of_called called
    have bound := (List.getElem?_eq_some_iff.mp found).1
    have fewer : (added bus name (w.journal.take (p + 1))).length ≤ (added bus name (w.journal.take k)).length :=
      (added_take_mono before bus name).length_le
    rw [grown.past p _ z began bus here name, List.length_append, List.length_append] at bound
    omega
  · have growth : added bus name (w.journal.take (k + 1)) <+: added bus name (w.journal.take (p + 1)) :=
      added_take_mono (Nat.succ_le_succ (Nat.le_of_lt later)) bus name
    rw [after] at growth
    obtain ⟨more, split⟩ := growth
    refine (lawful p bus name event z began).called_of_getElem? ?_
    rw [grown.past p _ z began bus here name, ← split, List.append_assoc, ← List.append_assoc,
      List.getElem?_append_right (Nat.le_refl _), Nat.sub_self]
    rfl

/-- What holds of every run on an exchange. -/
structure Reentrant (x : Exchange) (w : Watched) : Prop where
  /-- Every publication calls the listeners that are registered when it begins, in order and once each: all of
  them, or those up to the first one that fails, whose failure it ends with. -/
  course : ∀ (p : Nat) bus name event y, w.journal[p]? = some ⟨.began bus name event, y⟩ →
    Course p (y.listeners bus name) (doings p w.journal)
  /-- The failure that a publication ends with is that of the call, or of the request, that it was for. -/
  passed : ∀ (k p : Nat) failure y, w.journal[k]? = some ⟨.ended p (.error failure), y⟩ →
    ∃ what z, w.journal[k + 1]? = some ⟨what, z⟩ ∧ what.Takes failure
  /-- Listeners are only added, at the end, and stay also where something fails. -/
  grown : Grown x w
  counted : ∀ bus < x.buses.length, ∀ name, w.exchange.listenerCount bus name =
    x.listenerCount bus name + (added bus name w.journal).length
  /-- What is subscribed is heard by what begins later. -/
  heard : ∀ (k bus : Nat) name listener y, bus < x.buses.length →
    w.journal[k]? = some ⟨.subscribed bus name listener, y⟩ → HeardSince k bus name listener y w.journal

end Watched

/-! ### How far publications nest -/

/-- Where an act does not fail because publications nest too far, another one does the same. -/
def Outlasts (act act' : Act Unit) : Prop :=
  ∀ x, answer (act x) ≠ .error .tooDeep → act' x = act x

namespace Outlasts

variable {act act' next next' : Act Unit}

theorem refl (act : Act Unit) : Outlasts act act := fun _ _ => rfl

theorem bind (first : Outlasts act act') (second : Outlasts next next') :
    Outlasts (act >>= fun _ => next) (act' >>= fun _ => next') := by
  intro x shallow
  rw [bind_apply] at shallow
  cases run : act x with
  | ok _ y =>
      rw [run] at shallow
      have same : act' x = .ok () y := (first x (by rw [run]; exact nofun)).trans run
      rw [bind_ok same, bind_ok run]
      exact second y shallow
  | error failure y =>
      rw [run] at shallow
      have same : act' x = .error failure y := (first x (by rwa [run])).trans run
      rw [bind_error same, bind_error run]

theorem forM {α : Type} {items : List α} {each each' : α → Act Unit}
    (step : ∀ item, Outlasts (each item) (each' item)) : Outlasts (items.forM each) (items.forM each') := by
  induction items with
  | nil => exact refl _
  | cons item rest ih => exact bind (step item) ih

end Outlasts

/-- Publications that do not nest too far come to the same where they may nest further. -/
theorem publishWithin_outlasts (depth more bus : Nat) (name : String) (event : Event) :
    Outlasts (publishWithin depth bus name event) (publishWithin (depth + more) bus name event) := by
  induction depth generalizing bus name event with
  | zero => exact fun _ shallow => absurd rfl shallow
  | succ depth ih =>
      intro x
      rw [Nat.succ_add]
      refine Outlasts.forM (fun listener => Outlasts.forM fun action => ?_) x
      cases action with
      | publish bus name event => exact ih bus name event
      | note | print | subscribe | fail => exact .refl _

/-- **The limit does not matter** to requests none of which exceeds it. -/
theorem serveAll_outlasts {depth : Nat} {requests : List Request} {x : Exchange}
    (shallow : .error .tooDeep ∉ (serveAll depth requests x).1) (more : Nat) :
    serveAll (depth + more) requests x = serveAll depth requests x := by
  induction requests generalizing x with
  | nil => rfl
  | cons request rest ih =>
      obtain ⟨here, later⟩ := List.ne_and_not_mem_of_not_mem_cons shallow
      have same : serve (depth + more) request x = serve depth request x := by
        cases request with
        | subscribe bus name listener => rfl
        | publish bus name event =>
            exact publishWithin_outlasts depth more bus name event (x.observe _) here.symm
      rw [serveAll, serveAll, same, ih later]

/-- **How an exchange dispatches.**  Requests are met one after another, whatever listeners do: take notes,
print, publish and subscribe in turn, and fail.  Watching them changes neither the exchange nor the replies,
and what is seen is as it should be for every publication, nested or not.  The limit to how far publications
nest makes no difference, as long as no request exceeds it. -/
theorem dispatch_reentrant (depth : Nat) (requests : List Request) (x : Exchange) :
    let w := Watched.serveAll depth requests ⟨x, []⟩
    w.exchange = (serveAll depth requests x).2 ∧ w.replies = (serveAll depth requests x).1 ∧
      Watched.Reentrant x w ∧
      (.error .tooDeep ∉ w.replies → ∀ more, serveAll (depth + more) requests x = serveAll depth requests x) := by
  intro w
  obtain ⟨exchange, replies⟩ := Watched.serveAll_shadows depth requests ⟨x, []⟩
  have lawful := (Watched.sound_serveAll depth requests x).2
  have grown := Watched.grown_serveAll depth requests x
  refine ⟨exchange, replies, ⟨lawful, fun k p failure y found => ?_, grown, fun bus here name => ?_,
    fun k bus name listener y here => Watched.heardSince grown lawful here⟩, fun shallow => ?_⟩
  · obtain taken | ⟨-, left⟩ := Watched.hands_serveAll depth requests x k p failure y found
    · exact taken
    · cases left
  · rw [listenerCount, grown.now bus here name, List.length_append]
    rfl
  · rw [replies] at shallow
    exact serveAll_outlasts shallow

/-- A listener that is subscribed while an event is published does not hear of it, but of the next one; and
when it has failed there, it is still registered. -/
example :
    let late : Listener := fun _ => [.fail (.listener "no")]
    let adder : Listener := fun _ => [.subscribe 0 "a" late]
    let event := Event.log .error ⟨"", []⟩
    let w := Watched.serveAll 5 [.subscribe 0 "a" adder, .publish 0 "a" event, .publish 0 "a" event] ⟨new 1 [], []⟩
    Watched.doings 2 w.journal = [.called 2 0 adder, .answered 2 0 (.ok ()), .ended 2 (.ok ())] ∧
      Watched.doings 8 w.journal = [.called 8 0 adder, .answered 8 0 (.ok ()), .called 8 1 late,
        .answered 8 1 (.error (.listener "no")), .ended 8 (.error (.listener "no"))] ∧
      w.replies = [.ok (), .ok (), .error (.listener "no")] ∧
      w.exchange.listeners 0 "a" = [adder, late, late] :=
  ⟨rfl, rfl, rfl, rfl⟩

end Exchange

end Docwright
