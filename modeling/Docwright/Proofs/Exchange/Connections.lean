import Docwright.Proofs.Exchange.Calls
import Docwright.Proofs.Exchange.Chorus
import Docwright.Proofs.Exchange.Containment

/-!
# Consoles connect once

A console has its home where it is connected first, and every later connection of it is
ignored.  `Booked` is the invariant of calls: on every bus, under every name, the
listeners that do more than take notes are those of the consoles of the bus, in the order
of their first connections.  A publication keeps it because all that these do stays on
their bus.

From this it follows what a console never does: hear of an event of another bus, or
announce there what it hears (`connect_once`).
-/

namespace Docwright

/-! ### The listeners of a console -/

namespace Listener

variable {console other : Nat} {listener : Listener} {event : Event}

/-- A listener of a console. -/
def Of (console : Nat) (listener : Listener) : Prop :=
  (∃ bus origin, listener = showFile console bus origin) ∨ ∃ threshold, listener = showLog console threshold

namespace Of

/-- A listener of a console prints on it. -/
theorem prints (mine : Of console listener) : ∃ event line, Action.print console line ∈ listener event := by
  obtain ⟨bus, origin, rfl⟩ | ⟨threshold, rfl⟩ := mine
  · refine ⟨.cached ⟨"", "", ⟨⟨1, 1, 1⟩, 0, 0, 0, 0, none⟩, []⟩, Console.fileLine origin [], ?_⟩
    exact List.mem_cons_self
  · -- no threshold is above an emergency
    have loud : Severity.emergency.reaches threshold = true := by cases threshold <;> rfl
    have rendered : Message.render ⟨"", []⟩ = .ok "" := by decide +kernel
    refine ⟨.log .emergency ⟨"", []⟩, Console.logLine .emergency [], ?_⟩
    simp [showLog, loud, rendered]

/-- It prints on no other console. -/
theorem only (mine : Of console listener) {line : List Char}
    (acts : Action.print other line ∈ listener event) : other = console := by
  obtain ⟨bus, origin, rfl⟩ | ⟨threshold, rfl⟩ := mine
  · obtain ⟨_, same⟩ | ⟨_, same⟩ | ⟨_, same⟩ := mem_showFile acts <;> cases same
    rfl
  · obtain ⟨_, same⟩ | ⟨_, same⟩ := mem_showLog acts <;> cases same
    rfl

theorem unique (mine : Of console listener) (others : Of other listener) : other = console := by
  obtain ⟨event, line, acts⟩ := others.prints
  exact mine.only acts

theorem not_passive (mine : Of console listener) : ¬ listener.Passive := by
  obtain ⟨event, line, acts⟩ := mine.prints
  exact fun passive => passive event _ acts

end Of

end Listener

namespace Exchange

open Call (home? firsts)
open Listener (showFile)

variable {buses consoles bus b c console : Nat} {threshold : Nat → Severity} {calls : List Call} {call : Call}
  {x y : Exchange} {name : String} {event : Event} {listener : Listener}

/-- Calls one after another, also after failures. -/
def carryOut (calls : List Call) (x : Exchange) : Exchange :=
  calls.foldl (fun x call => endState (call.act x)) x

open Classical in
/-- The listeners of a bus under a name that do more than take notes. -/
noncomputable def owned (x : Exchange) (bus : Nat) (name : String) : List Listener :=
  (x.listeners bus name).filter fun listener => ¬ listener.Passive

open Classical in
/-- The listeners of a bus under a name that take notes only. -/
noncomputable def noting (x : Exchange) (bus : Nat) (name : String) : List Listener :=
  (x.listeners bus name).filter fun listener => listener.Passive

/-- What a console that is connected to a bus listens to under a name. -/
def wired (threshold : Nat → Severity) (bus : Nat) (name : String) (console : Nat) : List Listener :=
  ((wiring console bus (threshold console)).filter (·.name == name)).map (·.listener)

/-! ### What is registered -/

theorem wiring_of {r : Registration} {threshold : Severity} (member : r ∈ wiring console bus threshold) :
    r.listener.Of console := by
  obtain ⟨origin, same⟩ | same := mem_wiring member
  · exact .inl ⟨bus, origin, same⟩
  · exact .inr ⟨threshold, same⟩

theorem mem_wired (member : listener ∈ wired threshold bus name console) :
    ∃ r ∈ wiring console bus (threshold console), r.listener = listener := by
  obtain ⟨r, among, same⟩ := List.mem_map.mp member
  exact ⟨r, (List.mem_filter.mp among).1, same⟩

theorem length_register_each (rs : List Registration) (bus : Nat) (x : Exchange) :
    (rs.foldl (fun x r => x.register bus r) x).buses.length = x.buses.length := by
  induction rs generalizing x with
  | nil => rfl
  | cons r rest ih => exact (ih _).trans (List.length_modify _ _ _)

/-- Registrations on one bus add their listeners there, behind those that are registered. -/
theorem listeners_register_each (rs : List Registration) (bus : Nat) {x : Exchange} (here : b < x.buses.length)
    (name : String) :
    (rs.foldl (fun x r => x.register bus r) x).listeners b name =
      x.listeners b name ++ if bus = b then (rs.filter (·.name == name)).map (·.listener) else [] := by
  induction rs generalizing x with
  | nil => simp
  | cons r rest ih =>
      have here' : b < (x.register bus r).buses.length := by
        rwa [register, List.length_modify]
      rw [List.foldl_cons, ih here', listeners_register here, List.append_assoc]
      by_cases same : bus = b <;> by_cases named : r.name = name <;>
        simp [Happening.listener?, same, named]

/-- A console that has a home keeps it. -/
theorem connect_again {threshold : Severity} {home : Nat}
    (known : x.consoles[console]? = some ⟨threshold, some home⟩) (bus : Nat) :
    (endState (connect console bus x)).buses = x.buses ∧ (endState (connect console bus x)).consoles = x.consoles := by
  unfold connect
  rw [bind_apply, get_apply]
  dsimp only
  rw [known]
  exact ⟨rfl, rfl⟩

/-! ### The invariant -/

/-- What there is after calls. -/
structure Booked (buses consoles : Nat) (threshold : Nat → Severity) (calls : List Call) (x : Exchange) :
    Prop where
  size : x.buses.length = buses
  homes : ∀ c < consoles, x.consoles[c]? = some ⟨threshold c, home? calls c⟩
  owned : ∀ bus < buses, ∀ name, x.owned bus name = (firsts calls bus).flatMap (wired threshold bus name)
  noting : ∀ bus < buses, ∀ name, x.noting bus name = calls.filterMap (·.listener? bus name)

theorem owned_of_listeners (same : y.listeners b name = x.listeners bus name) :
    y.owned b name = x.owned bus name ∧ y.noting b name = x.noting bus name := by
  rw [owned, owned, noting, noting, same]
  exact ⟨rfl, rfl⟩

/-- More listeners, first those of consoles and then others. -/
theorem owned_grown {own others : List Listener} (active : ∀ l ∈ own, ¬ Listener.Passive l)
    (passive : ∀ l ∈ others, Listener.Passive l)
    (grown : y.listeners bus name = x.listeners bus name ++ (own ++ others)) :
    y.owned bus name = x.owned bus name ++ own ∧ y.noting bus name = x.noting bus name ++ others := by
  classical
  have ownKept : own.filter (fun l => ¬ Listener.Passive l) = own :=
    List.filter_eq_self.mpr fun l member => by simp [active l member]
  have ownLeft : own.filter (fun l => Listener.Passive l) = [] :=
    List.filter_eq_nil_iff.mpr fun l member => by simp [active l member]
  have othersKept : others.filter (fun l => Listener.Passive l) = others :=
    List.filter_eq_self.mpr fun l member => by simp [passive l member]
  have othersLeft : others.filter (fun l => ¬ Listener.Passive l) = [] :=
    List.filter_eq_nil_iff.mpr fun l member => by simp [passive l member]
  constructor
  · simp only [owned, grown, List.filter_append, ownKept, othersLeft, List.append_nil]
  · simp only [noting, grown, List.filter_append, ownLeft, othersKept, List.nil_append]

theorem mem_owned (among : listener ∈ x.listeners bus name) (active : ¬ listener.Passive) :
    listener ∈ x.owned bus name := by
  classical
  exact List.mem_filter.mpr ⟨among, by simp [active]⟩

namespace Booked

theorem start (buses consoles : Nat) (threshold : Nat → Severity) :
    Booked buses consoles threshold [] (new buses ((List.range consoles).map threshold)) := by
  have nobody : ∀ bus < buses, ∀ name,
      (new buses ((List.range consoles).map threshold)).listeners bus name = [] := by
    intro bus here name
    simp [listeners, registrations, new, here]
  refine ⟨List.length_replicate, fun c here => ?_, fun bus here name => ?_, fun bus here name => ?_⟩
  · simp [new, here, home?]
  · rw [Exchange.owned, nobody bus here]
    rfl
  · rw [Exchange.noting, nobody bus here]
    rfl

variable (booked : Booked buses consoles threshold calls x)
include booked

/-- A call registers the listeners of a console that is first somewhere, and the listener that it subscribes. -/
theorem grow (own : Nat → String → List Listener) (size : y.buses.length = x.buses.length)
    (homes : ∀ c < consoles, y.consoles[c]? = some ⟨threshold c, home? (calls ++ [call]) c⟩)
    (first : ∀ b name, (firsts (calls ++ [call]) b).flatMap (wired threshold b name) =
      (firsts calls b).flatMap (wired threshold b name) ++ own b name)
    (passive : ∀ b name, ∀ l ∈ (call.listener? b name).toList, Listener.Passive l)
    (grown : ∀ b < buses, ∀ name, y.listeners b name =
      x.listeners b name ++ (own b name ++ (call.listener? b name).toList)) :
    Booked buses consoles threshold (calls ++ [call]) y := by
  have active : ∀ b name, ∀ l ∈ own b name, ¬ Listener.Passive l := by
    intro b name l member
    have among : l ∈ (firsts (calls ++ [call]) b).flatMap (wired threshold b name) := by
      rw [first]
      exact List.mem_append_right _ member
    obtain ⟨c, -, wired⟩ := List.mem_flatMap.mp among
    obtain ⟨r, registered, rfl⟩ := mem_wired wired
    exact (wiring_of registered).not_passive
  refine ⟨size.trans booked.size, homes, fun b here name => ?_, fun b here name => ?_⟩
  · rw [(owned_grown (active b name) (passive b name) (grown b here name)).1, booked.owned b here, first]
  · rw [(owned_grown (active b name) (passive b name) (grown b here name)).2, booked.noting b here,
      List.filterMap_append]
    cases subscribed : call.listener? b name <;> simp [subscribed]

/-- A call registers nothing. -/
theorem stay (same : y.buses = x.buses)
    (homes : ∀ c < consoles, y.consoles[c]? = some ⟨threshold c, home? (calls ++ [call]) c⟩)
    (first : ∀ b, firsts (calls ++ [call]) b = firsts calls b)
    (unsubscribed : ∀ b name, call.listener? b name = none) :
    Booked buses consoles threshold (calls ++ [call]) y := by
  refine booked.grow (fun _ _ => []) (congrArg List.length same) homes (fun b name => ?_) (fun b name => ?_)
    fun b here name => ?_
  · rw [first, List.append_nil]
  · rw [unsubscribed]
    exact List.forall_mem_nil _
  · rw [unsubscribed, listeners_of_buses same]
    exact (List.append_nil _).symm

/-- What is not a connection leaves the homes as they are. -/
theorem homes_unlinked (unlinked : call.link? = none) (same : y.consoles = x.consoles) :
    ∀ c < consoles, y.consoles[c]? = some ⟨threshold c, home? (calls ++ [call]) c⟩ := by
  intro c here
  rw [same, Call.home?_concat_unlinked unlinked, booked.homes c here]

/-- A console that has a home is connected again: it is not first anywhere. -/
theorem reconnect {home : Nat} (there : console < consoles) (known : home? calls console = some home) (bus : Nat) :
    Booked buses consoles threshold (calls ++ [.connect console bus]) (endState (connect console bus x)) := by
  have found := booked.homes console there
  rw [known] at found
  obtain ⟨same, homes⟩ := connect_again found bus
  refine booked.stay same (fun c here => ?_) (fun b => ?_) fun _ _ => rfl
  · rw [homes, booked.homes c here]
    by_cases other : c = console
    · rw [other, Call.home?_concat_of_some known, known]
    · rw [Call.home?_concat_other other]
  · rw [Call.firsts_concat_connect, known]
    simp

/-- A console that has no home is connected: its listeners come last, as it does among the consoles of the
bus. -/
theorem join (there : console < consoles) (fresh : home? calls console = none) (bus : Nat) :
    Booked buses consoles threshold (calls ++ [.connect console bus]) (endState (connect console bus x)) := by
  have found := booked.homes console there
  rw [fresh] at found
  obtain ⟨y, connected, same, homes⟩ := connect_fresh found bus
  rw [connected, endState_ok]
  refine booked.grow (fun b name => if bus = b then wired threshold bus name console else []) ?_ (fun c here => ?_)
    (fun b name => ?_) (fun _ _ => List.forall_mem_nil _) fun b here name => ?_
  · rw [same, length_register_each]
  · rw [homes]
    by_cases other : c = console
    · rw [other, Call.home?_concat_fresh fresh]
      exact List.getElem?_set_self (List.getElem?_eq_some_iff.mp found).1
    · rw [List.getElem?_set_ne (Ne.symm other), booked.homes c here, Call.home?_concat_other other]
  · rw [Call.firsts_concat_connect, List.flatMap_append, fresh]
    by_cases same : bus = b <;> simp [same]
  · rw [listeners_of_buses same, listeners_register_each _ _ (booked.size ▸ here)]
    exact congrArg _ (List.append_nil _).symm

/-- A listener that takes notes only is subscribed. -/
theorem subscribe (passive : listener.Passive) (bus : Nat) (name : String) :
    Booked buses consoles threshold (calls ++ [.subscribe bus name listener])
      (endState (subscribe bus name listener x)) := by
  have first := @Call.firsts_concat_unlinked calls (.subscribe bus name listener) rfl
  cases blank : isBlankName name with
  | true =>
      -- the call is refused, and counts for nothing
      have refused : Exchange.subscribe bus name listener x = .error .blankName x := by
        simp [Exchange.subscribe, blank, bind_apply]
      rw [refused, endState_error]
      refine booked.stay rfl (booked.homes_unlinked rfl rfl) first fun b name' => if_neg ?_
      rintro ⟨-, rfl, named⟩
      cases blank.symm.trans named
  | false =>
      rw [subscribe_apply blank, endState_ok]
      refine booked.grow (fun _ _ => []) (List.length_modify _ _ _) (booked.homes_unlinked rfl rfl)
        (fun b name' => ?_) (fun b name' l member => ?_) fun b here name' => ?_
      · rw [first, List.append_nil]
      · rw [Option.mem_toList, Call.listener?] at member
        split at member
        · cases member
          exact passive
        · cases member
      · refine (listeners_register (booked.size ▸ here) bus name name' listener).trans ?_
        simp [Happening.listener?, Call.listener?, blank]

/-- A listener that is registered takes notes only, or is one of a console of the bus. -/
theorem passive_or_wired (here : bus < buses) (among : listener ∈ x.listeners bus name) :
    listener.Passive ∨ ∃ c, home? calls c = some bus ∧
      ∃ r ∈ wiring c bus (threshold c), r.listener = listener := by
  by_cases passive : listener.Passive
  · exact .inl passive
  · have owned := mem_owned among passive
    rw [booked.owned bus here, List.mem_flatMap] at owned
    obtain ⟨c, first, member⟩ := owned
    exact .inr ⟨c, Call.mem_firsts_iff.mp first, mem_wired member⟩

/-- What is done on a bus stays there. -/
theorem confined (bus : Nat) : x.Confined bus (firsts calls bus) := by
  intro name l among event action acts
  by_cases here : bus < buses
  · obtain passive | ⟨c, home, r, member, rfl⟩ := booked.passive_or_wired here among
    · exact passive.staysOn acts
    · exact wiring_staysOn (Call.mem_firsts_iff.mpr home) member acts
  · -- there is no such bus
    have nobody : x.registrations bus = [] := by
      rw [registrations, List.getD_eq_getElem?_getD,
        List.getElem?_eq_none (booked.size.le.trans (Nat.not_lt.mp here)), Option.getD_none]
    rw [listeners, nobody] at among
    cases among

/-- An event is published. -/
theorem publish (bus : Nat) (name : String) (event : Event) :
    Booked buses consoles threshold (calls ++ [.publish bus name event])
      (endState (publish bus name event x)) := by
  obtain ⟨same, contained⟩ := Watched.contained_publish (booked.confined bus) name event
  rw [← same]
  exact booked.stay contained.exchange.1 (booked.homes_unlinked rfl contained.exchange.2)
    (Call.firsts_concat_unlinked rfl) fun _ _ => rfl

/-- Any call. -/
theorem act (regular : call.Regular buses consoles) :
    Booked buses consoles threshold (calls ++ [call]) (endState (call.act x)) := by
  cases call with
  | connect console bus =>
      cases known : home? calls console with
      | none => exact booked.join regular.1 known bus
      | some home => exact booked.reconnect regular.1 known bus
  | publish bus name event => exact booked.publish bus name event
  | subscribe bus name listener => exact booked.subscribe regular bus name

end Booked

/-- What there is after any calls. -/
theorem booked_carryOut (regular : ∀ call ∈ calls, call.Regular buses consoles) :
    Booked buses consoles threshold calls
      (carryOut calls (new buses ((List.range consoles).map threshold))) := by
  induction calls using List.reverseRecOn with
  | nil => exact .start buses consoles threshold
  | append_singleton calls call ih =>
      rw [carryOut, List.foldl_append]
      exact (ih fun c member => regular c (List.mem_append_left _ member)).act
        (regular call (List.mem_append_right _ List.mem_cons_self))

/-! ### What this comes to -/

/-- The listeners of a bus: under each of the three names, those of the consoles that are connected to it
first, in that order, and otherwise what was subscribed. -/
structure Books (threshold : Nat → Severity) (calls : List Call) (bus : Nat) (x : Exchange) : Prop where
  cached : x.owned bus Event.cachedName = (firsts calls bus).map (showFile · bus .cached)
  analyzed : x.owned bus Event.analyzedName = (firsts calls bus).map (showFile · bus .analyzed)
  log : x.owned bus Event.logName = (firsts calls bus).map fun c => Listener.showLog c (threshold c)
  elsewhere : ∀ name ∉ [Event.cachedName, Event.analyzedName, Event.logName], x.owned bus name = []
  others : ∀ name, x.noting bus name = calls.filterMap (·.listener? bus name)
  count : ∀ name, x.listenerCount bus name = (x.owned bus name).length + (x.noting bus name).length

theorem Booked.books (booked : Booked buses consoles threshold calls x) (here : bus < buses) :
    Books threshold calls bus x where
  cached := by
    rw [booked.owned bus here, List.map_eq_flatMap]
    rfl
  analyzed := by
    rw [booked.owned bus here, List.map_eq_flatMap]
    rfl
  log := by
    rw [booked.owned bus here, List.map_eq_flatMap]
    rfl
  elsewhere name other := by
    rw [booked.owned bus here, List.flatMap_eq_nil_iff]
    intro c _
    simp only [List.mem_cons, List.not_mem_nil, or_false, not_or] at other
    obtain ⟨cached, analyzed, log⟩ := other
    simp [wired, wiring, Ne.symm cached, Ne.symm analyzed, Ne.symm log]
  others := booked.noting bus here
  count name := by
    classical
    rw [listenerCount, Exchange.owned, Exchange.noting, Nat.add_comm]
    simpa using (x.listeners bus name).length_eq_length_filter_add fun l => decide l.Passive

theorem Books.of_buses (books : Books threshold calls bus x) (same : y.buses = x.buses) :
    Books threshold calls bus y := by
  have listeners := listeners_of_buses same bus
  have owned := fun name => (owned_of_listeners (listeners name)).1
  have noting := fun name => (owned_of_listeners (listeners name)).2
  refine ⟨?_, ?_, ?_, fun name other => ?_, fun name => ?_, fun name => ?_⟩
  · rw [owned, books.cached]
  · rw [owned, books.analyzed]
  · rw [owned, books.log]
  · rw [owned, books.elsewhere name other]
  · rw [noting, books.others]
  · rw [owned, noting, listenerCount, listeners]
    exact books.count name

/-- What consoles do while an event is published on a bus. -/
structure Minding (buses : Nat) (threshold : Nat → Severity) (calls : List Call) (bus : Nat) (name : String)
    (event : Event) (x : Exchange) (w : Watched) : Prop where
  /-- Nothing is registered or taken away at any moment. -/
  books : ∀ moment ∈ w.journal, ∀ b < buses, Books threshold calls b moment.exchange
  /-- A console of which a listener is called was connected to this bus first. -/
  reacts : ∀ moment ∈ w.journal, ∀ p place listener c, moment.what = .called p place listener →
    listener.Of c → home? calls c = some bus
  /-- Every other publication is a message on this bus about a problem of a file, which comes from a listener
  of a console, and that was connected to this bus first. -/
  redispatches : ∀ (k b : Nat) under heard y, w.journal[k]? = some ⟨.began b under heard, y⟩ →
    k = 0 ∧ b = bus ∧ under = name ∧ heard = event ∨
      b = bus ∧ under = Event.logName ∧ (∃ p, heard = .ofProblem p) ∧
        ∃ listener, (Watched.callers (w.journal.take k)).head? = some listener ∧ (∃ c, listener.Of c) ∧
          ∀ c, listener.Of c → home? calls c = some bus
  /-- Other consoles show nothing. -/
  prints : ∀ c, home? calls c ≠ some bus → w.exchange.prints c = x.prints c

theorem Booked.minding (booked : Booked buses consoles threshold calls x) (here : bus < buses)
    (name : String) (event : Event) :
    let w := endState (Watched.serve depthLimit (.publish bus name event) ⟨x, []⟩)
    w.exchange = endState (Exchange.publish bus name event x) ∧
      Minding buses threshold calls bus name event x w := by
  intro w
  obtain ⟨same, contained⟩ := Watched.contained_publish (booked.confined bus) name event
  refine ⟨same, ⟨fun moment member b here => ?_, fun moment member p place listener c what mine => ?_,
    fun k b under heard y found => ?_, fun c away => ?_⟩⟩
  · exact (booked.books here).of_buses (contained.moments moment member)
  · obtain ⟨under, among⟩ := contained.called moment member p place listener what
    obtain passive | ⟨d, home, r, member, rfl⟩ := booked.passive_or_wired here among
    · exact absurd passive mine.not_passive
    · rwa [(wiring_of member).unique mine]
  · obtain first | ⟨listener, innermost, ⟨under', among⟩, event', acts⟩ := contained.began k b under heard y found
    · exact .inl first
    · obtain passive | ⟨c, home, r, member, rfl⟩ := booked.passive_or_wired here among
      · exact (passive event' _ acts).elim
      · obtain ⟨rfl, rfl⟩ := wiring_staysOn (Call.mem_firsts_iff.mpr home) member acts
        refine .inr ⟨rfl, rfl, wiring_publishes member acts, _, innermost, ⟨c, wiring_of member⟩, fun d mine => ?_⟩
        rwa [(wiring_of member).unique mine]
  · exact contained.prints c fun first => away (Call.mem_firsts_iff.mp first)

/-- **Consoles connect once.**  Consoles are connected, events published and listeners subscribed that take
notes only, in any order.  Then every bus has, under each of the three names, one listener of every console
that was connected to it first, in the order of these connections; and this is so at every moment of a
publication too.  A console that was connected first to another bus is not called, and shows nothing; and
what a console announces that hears of a file is announced on the bus that it was connected to first. -/
theorem connect_once (regular : ∀ call ∈ calls, call.Regular buses consoles) :
    let x := carryOut calls (new buses ((List.range consoles).map threshold))
    ∀ bus < buses,
      ((firsts calls bus).Nodup ∧ ∀ c, c ∈ firsts calls bus ↔ home? calls c = some bus) ∧
      Books threshold calls bus x ∧
      ∀ name event,
        let w := endState (Watched.serve depthLimit (.publish bus name event) ⟨x, []⟩)
        w.exchange = endState (publish bus name event x) ∧
          Minding buses threshold calls bus name event x w := by
  intro x bus here
  have booked := @booked_carryOut buses consoles threshold calls regular
  exact ⟨⟨Call.nodup_firsts calls bus, fun _ => Call.mem_firsts_iff⟩, booked.books here, booked.minding here⟩

/-! ### Two consoles on two buses -/

/-- The first console is connected to both buses, in turn with a listener that takes notes, a publication and
the second console. -/
def crossing : List Call :=
  [.connect 0 0, .subscribe 0 Event.cachedName (Listener.recorder "notes"),
    .publish 0 Event.analyzedName (.analyzed troubled), .connect 0 1, .connect 1 0, .connect 1 1]

/-- Both consoles are on the first bus, in this order, and neither is on the second one. -/
theorem connect_once_crossing :
    let x := carryOut crossing (new 2 ((List.range 2).map fun _ => .warning))
    (∀ call ∈ crossing, call.Regular 2 2) ∧
      x.owned 0 Event.cachedName = [showFile 0 0 .cached, showFile 1 0 .cached] ∧
      x.noting 0 Event.cachedName = [Listener.recorder "notes"] ∧
      x.owned 1 Event.cachedName = [] ∧
      ∀ name event, ∀ c, (endState (publish 1 name event x)).prints c = x.prints c := by
  intro x
  have regular : ∀ call ∈ crossing, call.Regular 2 2 := by
    simp only [crossing, List.forall_mem_cons]
    exact ⟨⟨by decide, by decide⟩, Listener.recorder_passive "notes", trivial, ⟨by decide, by decide⟩,
      ⟨by decide, by decide⟩, ⟨by decide, by decide⟩, nofun⟩
  have first : firsts crossing 0 = [0, 1] := by decide
  have second : firsts crossing 1 = [] := by decide
  obtain ⟨-, books, -⟩ := connect_once regular 0 (by decide)
  obtain ⟨⟨-, homes⟩, books', published⟩ := connect_once regular 1 (by decide)
  refine ⟨regular, ?_, ?_, ?_, fun name event c => ?_⟩
  · rw [books.cached, first]
    rfl
  · exact books.others Event.cachedName
  · rw [books'.cached, second]
    rfl
  · obtain ⟨same, minding⟩ := published name event
    rw [← same]
    refine minding.prints c fun home => ?_
    have member := (homes c).mpr home
    rw [second] at member
    cases member

end Exchange

end Docwright
