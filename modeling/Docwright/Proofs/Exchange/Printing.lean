import Docwright.Build
import Docwright.Proofs.Acts
import Docwright.Proofs.Console.Shown
import Docwright.Proofs.Exchange.Trace
import Docwright.Proofs.Message.Literal

/-!
# What publications print

`Shows console x y lines` says that `y` is `x` after the lines were printed on the
console, with the same registrations; what else was observed does not matter.
`Prints` says of an act that it succeeds and shows lines.  Both compose, so what a
publication prints is put together from what its listeners print.

A console is `Wired` to a bus if it shows what happens there and every other listener
is passive, that is, takes notes only.  Then a message prints its line if it reaches the
threshold, and the announcement of a record prints the line of its file and after that,
in the publications nested in it, the lines of its problems (`prints_announcement`).
-/

namespace Docwright

open Console (Shown)

/-- The text of an effect on a console. -/
def Effect.printed? (console : Nat) : Effect → Option (List Char)
  | .printed c text => if c = console then some text else none
  | .noted .. | .logged _ | .published .. => none

namespace Exchange

/-- What was printed on a console, in order. -/
def prints (console : Nat) (x : Exchange) : List (List Char) :=
  x.trace.filterMap (Effect.printed? console)

/-- Nothing was printed on any other console. -/
def Sole (console : Nat) (x : Exchange) : Prop :=
  ∀ c text, Effect.printed c text ∈ x.trace → c = console

/-- The second exchange is the first one after lines were printed on a console. -/
structure Shows (console : Nat) (x y : Exchange) (lines : List Shown) : Prop where
  buses : y.buses = x.buses
  consoles : y.consoles = x.consoles
  sole : x.Sole console → y.Sole console
  prints : (y.prints console).map some = (x.prints console).map some ++ lines.map Shown.written?

namespace Shows

variable {console : Nat} {x y z : Exchange} {lines more : List Shown}

theorem refl (console : Nat) (x : Exchange) : Shows console x x [] :=
  ⟨rfl, rfl, id, (List.append_nil _).symm⟩

theorem trans (first : Shows console x y lines) (second : Shows console y z more) :
    Shows console x z (lines ++ more) where
  buses := second.buses.trans first.buses
  consoles := second.consoles.trans first.consoles
  sole := second.sole ∘ first.sole
  prints := by rw [second.prints, first.prints, List.map_append, List.append_assoc]

/-- An effect that is no print. -/
theorem silent {effect : Effect} (silent : ∀ c, effect.printed? c = none) (x : Exchange) :
    Shows console x (x.observe effect) [] where
  buses := rfl
  consoles := rfl
  sole := by
    intro sole c text member
    rcases List.mem_append.mp member with before | last
    · exact sole c text before
    · rw [← List.mem_singleton.mp last] at silent
      have printed := silent c
      rw [Effect.printed?, if_pos rfl] at printed
      cases printed
  prints := by simp [Exchange.prints, observe, silent]

/-- A line is printed. -/
theorem line {line : Shown} {text : List Char} (printed : Console.print line.markup = .ok text)
    (x : Exchange) : Shows console x (x.observe (.printed console text)) [line] where
  buses := rfl
  consoles := rfl
  sole := by
    intro sole c text' member
    rcases List.mem_append.mp member with before | last
    · exact sole c text' before
    · cases List.mem_singleton.mp last
      rfl
  prints := by
    simp [Exchange.prints, observe, Effect.printed?, Shown.written?_of_print printed]

/-- Entries of the log are written one after another. -/
theorem logs (logs : Logs x y) : Shows console x y [] := by
  obtain ⟨entries, rfl⟩ := logs
  induction entries generalizing x with
  | nil =>
      rw [List.map_nil, List.append_nil]
      exact refl console x
  | cons entry rest ih =>
      have one : Shows console x (x.observe (.logged entry)) [] := silent (fun _ => rfl) x
      have others := @ih (x.observe (.logged entry))
      rw [observe, List.append_assoc] at others
      exact one.trans others

theorem listeners (shows : Shows console x y lines) (bus : Nat) (name : String) :
    y.listeners bus name = x.listeners bus name :=
  listeners_of_buses shows.buses bus name

end Shows

/-- An act succeeds and shows lines on a console. -/
def Prints (console : Nat) (act : Act Unit) (x : Exchange) (lines : List Shown) : Prop :=
  ∃ y, act x = .ok () y ∧ Shows console x y lines

namespace Prints

variable {console : Nat} {x : Exchange} {lines more : List Shown} {act next : Act Unit}

theorem pure (console : Nat) (x : Exchange) : Prints console (Pure.pure ()) x [] :=
  ⟨x, rfl, .refl console x⟩

theorem emit {effect : Effect} (silent : ∀ c, effect.printed? c = none) (x : Exchange) :
    Prints console (Exchange.emit effect) x [] :=
  ⟨_, rfl, .silent silent x⟩

theorem print (line : Shown) (x : Exchange) :
    Prints console (Exchange.print console line.markup) x [line] := by
  obtain ⟨text, printed⟩ := line.print_markup
  refine ⟨x.observe (.printed console text), ?_, .line printed x⟩
  rw [Exchange.print, printed]
  rfl

/-- In sequence: the second act is carried out where the first one has led. -/
theorem seq (first : Prints console act x lines)
    (second : ∀ y, Shows console x y lines → Prints console next y more) :
    Prints console (act >>= fun _ => next) x (lines ++ more) := by
  obtain ⟨y, done, shows⟩ := first
  obtain ⟨z, done', shows'⟩ := second y shows
  exact ⟨z, by rw [bind_ok done, done'], shows.trans shows'⟩

/-- One after another: each item prints its own lines, wherever the ones before have led. -/
theorem forM {α : Type} {items : List α} {each : α → Act Unit} {part : α → List Shown}
    (step : ∀ item ∈ items, ∀ y, y.buses = x.buses → Prints console (each item) y (part item)) :
    Prints console (items.forM each) x (items.flatMap part) := by
  induction items generalizing x with
  | nil => exact pure console x
  | cons item rest ih =>
      change Prints console (each item >>= fun _ => rest.forM each) x _
      refine seq (step item List.mem_cons_self x rfl) fun y shows => ih fun other member z same => ?_
      exact step other (List.mem_cons_of_mem _ member) z (same.trans shows.buses)

/-- An act among others that are empty. -/
theorem one (prints : Prints console act x lines) :
    Prints console ([()].forM fun _ => act) x lines := by
  rw [← List.append_nil lines]
  exact seq prints fun y _ => pure console y

/-- Items that print nothing. -/
theorem forM_silent {α : Type} {items : List α} {each : α → Act Unit}
    (step : ∀ item ∈ items, ∀ y, Prints console (each item) y []) (x : Exchange) :
    Prints console (items.forM each) x [] := by
  have silent : items.flatMap (fun _ => ([] : List Shown)) = [] :=
    List.flatMap_eq_nil_iff.mpr fun _ _ => rfl
  rw [← silent]
  exact forM fun item member y _ => step item member y

end Prints

end Exchange

/-! ### Passive listeners -/

/-- An action that only takes note. -/
def Action.Notes : Action → Prop
  | .note .. => True
  | .print .. | .publish .. | .subscribe .. | .fail _ => False

/-- A listener that only takes notes. -/
def Listener.Passive (listener : Listener) : Prop :=
  ∀ event, ∀ action ∈ listener event, action.Notes

theorem Listener.recorder_passive (id : String) : (Listener.recorder id).Passive := by
  intro event action member
  rw [List.mem_singleton.mp member]
  trivial

/-- The one listener among others that only take notes. -/
def Listener.Alone (listener : Listener) (listeners : List Listener) : Prop :=
  ∃ before after, listeners = before ++ listener :: after ∧
    (∀ l ∈ before, Listener.Passive l) ∧ ∀ l ∈ after, Listener.Passive l

namespace Exchange

variable {console bus depth : Nat} {name : String} {event : Event} {x : Exchange}
  {listeners : List Listener} {listener : Listener} {lines : List Shown}
  {send : Nat → String → Event → Act Unit}

theorem passive_of_registrations (passive : ∀ r ∈ x.registrations bus, Listener.Passive r.listener) :
    ∀ name, ∀ l ∈ x.listeners bus name, Listener.Passive l := by
  intro name l member
  obtain ⟨r, among, rfl⟩ := List.mem_map.mp member
  exact passive r (List.mem_filter.mp among).1

theorem prints_passive (passive : ∀ l ∈ listeners, Listener.Passive l) (x : Exchange) :
    Prints console (listeners.forM fun l => (l event).forM (perform send)) x [] := by
  refine .forM_silent (fun l member y => .forM_silent (fun action among z => ?_) y) x
  have notes := passive l member event action among
  cases action with
  | note id event => exact .emit (fun _ => rfl) z
  | print | publish | subscribe | fail => exact notes.elim

/-- What is published to passive listeners prints nothing, and none of them fails. -/
theorem prints_unheard (passive : ∀ l ∈ x.listeners bus name, Listener.Passive l) :
    Prints console (publishWithin (depth + 1) bus name event) x [] := by
  rw [Prints, publishWithin_succ]
  exact prints_passive passive x

/-- What is published to one listener among passive ones prints what this listener prints. -/
theorem prints_alone (alone : listener.Alone (x.listeners bus name))
    (does : ∀ y, y.buses = x.buses →
      Prints console ((listener event).forM (perform (publishWithin depth))) y lines) :
    Prints console (publishWithin (depth + 1) bus name event) x lines := by
  obtain ⟨before, after, split, passive, passive'⟩ := alone
  rw [Prints, publishWithin_succ, split]
  change Prints console (forM (before ++ listener :: after) fun l =>
    (l event).forM (perform (publishWithin depth))) x lines
  rw [List.forM_append, ← List.nil_append lines]
  refine .seq (prints_passive passive x) fun y shows => ?_
  change Prints console ((listener event).forM (perform (publishWithin depth)) >>= fun _ =>
    after.forM fun l => (l event).forM (perform (publishWithin depth))) y lines
  rw [← List.append_nil lines]
  exact .seq (does y shows.buses) fun z _ => prints_passive passive' z

/-! ### Wired consoles -/

/-- A console shows what happens on a bus, from a threshold on, and no other listener there does more than
take notes. -/
structure Wired (console bus : Nat) (threshold : Severity) (x : Exchange) : Prop where
  cached : (Listener.showFile console bus .cached).Alone (x.listeners bus Event.cachedName)
  analyzed : (Listener.showFile console bus .analyzed).Alone (x.listeners bus Event.analyzedName)
  log : (Listener.showLog console threshold).Alone (x.listeners bus Event.logName)

variable {threshold : Severity} {y : Exchange}

theorem Wired.of_buses (wired : Wired console bus threshold x) (same : y.buses = x.buses) :
    Wired console bus threshold y := by
  have listeners : ∀ name, y.listeners bus name = x.listeners bus name := listeners_of_buses same bus
  obtain ⟨cached, analyzed, log⟩ := wired
  exact ⟨listeners _ ▸ cached, listeners _ ▸ analyzed, listeners _ ▸ log⟩

end Exchange

/-- The text of a problem, if it can be put in words. -/
def Problem.text (p : Problem) : String := p.render.toOption.getD ""

theorem Problem.render_text {p : Problem} (words : ∃ text, p.render = .ok text) :
    p.render = .ok p.text := by
  obtain ⟨text, rendered⟩ := words
  rw [Problem.text, rendered]
  rfl

/-- The origin of a record, as it is shown. -/
def Console.Origin.ofHit (hit : Bool) : Console.Origin := if hit then .cached else .analyzed

/-- The lines of a record: its file, and its problems in order. -/
def FileRecord.lines (hit : Bool) (record : FileRecord) : List Shown :=
  .file (.ofHit hit) record.path :: record.problems.map fun p => .log p.severity p.text

/-- Every problem of a record can be put in words. -/
def FileRecord.Renders (record : FileRecord) : Prop :=
  ∀ p ∈ record.problems, p.render = .ok p.text

namespace Exchange

variable {console bus depth : Nat} {threshold : Severity} {x : Exchange}

/-- A message prints its line, if it is grave enough. -/
theorem prints_message (wired : Wired console bus threshold x) (depth : Nat) (severity : Severity)
    {message : Message} {text : String} (rendered : message.render = .ok text) :
    Prints console (publishWithin (depth + 1) bus Event.logName (.log severity message)) x
      ([Shown.log severity text].filter (Shown.reaches threshold)) := by
  refine prints_alone wired.log fun y _ => ?_
  rw [Listener.showLog, rendered]
  cases grave : severity.reaches threshold with
  | true =>
      have kept : [Shown.log severity text].filter (Shown.reaches threshold) = [.log severity text] :=
        List.filter_cons_of_pos grave
      rw [kept]
      exact .one (.print (.log severity text) y)
  | false =>
      have dropped : [Shown.log severity text].filter (Shown.reaches threshold) = [] :=
        List.filter_cons_of_neg (by rw [Shown.reaches, grave]; exact Bool.false_ne_true)
      rw [dropped]
      exact .pure console y

/-- A record prints its lines where it is announced to a listener that shows it. -/
theorem prints_record (wired : Wired console bus threshold x) (depth : Nat) (hit : Bool)
    {record : FileRecord} (renders : record.Renders) {event : Event}
    (about : event.record? = some record) :
    Prints console ((Listener.showFile console bus (.ofHit hit) event).forM
      (perform (publishWithin (depth + 1)))) x
        ((record.lines hit).filter (Shown.reaches threshold)) := by
  rw [Listener.showFile, about, FileRecord.lines, List.filter_cons_of_pos rfl, List.map_eq_flatMap,
    List.filter_flatMap]
  change Prints console (Exchange.print console (Console.fileLine _ record.path.toList) >>= fun _ =>
    List.forM _ _) x ([_] ++ _)
  refine .seq (.print (.file (.ofHit hit) record.path) x) fun y shows => ?_
  have problems : ∀ p ∈ record.problems, ∀ z, z.buses = y.buses →
      Prints console (publishWithin (depth + 1) bus Event.logName (.ofProblem p)) z
        ([Shown.log p.severity p.text].filter (Shown.reaches threshold)) := by
    intro p member z same
    exact prints_message (wired.of_buses (same.trans shows.buses)) depth p.severity (renders p member)
  have all := Prints.forM problems
  change Prints console (forM (record.problems.map _) _) y _
  rw [List.forM_map]
  exact all

/-- **The announcement of a record prints its lines.** -/
theorem prints_announcement (wired : Wired console bus threshold x) (hit : Bool) {record : FileRecord}
    (renders : record.Renders) :
    Prints console (publish bus (Build.announcement record hit).name (Build.announcement record hit)) x
      ((record.lines hit).filter (Shown.reaches threshold)) := by
  refine .seq (.emit (fun _ => rfl) x) fun y shows => ?_
  have wired' := wired.of_buses shows.buses
  have depth : depthLimit = 998 + 1 + 1 := rfl
  rw [depth]
  cases hit with
  | true =>
      exact prints_alone wired'.cached fun z same =>
        prints_record (wired'.of_buses same) 998 true renders rfl
  | false =>
      exact prints_alone wired'.analyzed fun z same =>
        prints_record (wired'.of_buses same) 998 false renders rfl

end Exchange

/-! ### Connecting -/

namespace Exchange

variable {console bus : Nat} {name : String} {listener : Listener} {threshold : Severity} {x : Exchange}

/-- The second exchange is the first one with more registrations on a bus. -/
structure Registers (bus : Nat) (x y : Exchange) (more : List Registration) : Prop where
  registrations : y.registrations bus = x.registrations bus ++ more
  length : y.buses.length = x.buses.length
  prints : ∀ console, y.prints console = x.prints console

theorem Registers.trans {y z : Exchange} {more rest : List Registration}
    (first : Registers bus x y more) (second : Registers bus y z rest) :
    Registers bus x z (more ++ rest) where
  registrations := by rw [second.registrations, first.registrations, List.append_assoc]
  length := second.length.trans first.length
  prints console := (second.prints console).trans (first.prints console)

/-- Subscribing adds a listener behind the ones that are there. -/
theorem registers_subscribe (named : isBlankName name = false) (here : bus < x.buses.length)
    (listener : Listener) :
    ∃ y, subscribe bus name listener x = .ok () y ∧ Registers bus x y [⟨name, listener⟩] := by
  have registered : (x.register bus ⟨name, listener⟩).registrations bus =
      x.registrations bus ++ [⟨name, listener⟩] := by
    simp [registrations, register, here]
  refine ⟨_, subscribe_apply named bus listener x, registered, List.length_modify _ _ _, fun console => ?_⟩
  simp [prints, observe, register, Effect.printed?]

/-- What is registered on a bus when a console is connected to it. -/
def wiring (console bus : Nat) (threshold : Severity) : List Registration :=
  [⟨Event.cachedName, Listener.showFile console bus .cached⟩,
    ⟨Event.analyzedName, Listener.showFile console bus .analyzed⟩,
    ⟨Event.logName, Listener.showLog console threshold⟩]

/-- A console that has no home is connected. -/
theorem connect_fresh {threshold : Severity} (fresh : x.consoles[console]? = some ⟨threshold, none⟩) (bus : Nat) :
    ∃ y, connect console bus x = .ok () y ∧
      y.buses = ((wiring console bus threshold).foldl (fun x r => x.register bus r) x).buses ∧
      y.consoles = x.consoles.set console ⟨threshold, some bus⟩ := by
  unfold connect
  rw [bind_apply, get_apply]
  dsimp only
  rw [fresh]
  dsimp only
  rw [bind_ok (subscribe_apply (by decide) bus _ x), bind_ok (subscribe_apply (by decide) bus _ _),
    bind_ok (subscribe_apply (by decide) bus _ _), modify_apply]
  exact ⟨_, rfl, rfl, rfl⟩

theorem registers_connect (here : bus < x.buses.length)
    (fresh : x.consoles[console]? = some ⟨threshold, none⟩) :
    ∃ y, connect console bus x = .ok () y ∧ Registers bus x y (wiring console bus threshold) := by
  obtain ⟨x₁, cached, one⟩ := registers_subscribe (by decide : isBlankName Event.cachedName = false) here
    (Listener.showFile console bus .cached)
  obtain ⟨x₂, analyzed, two⟩ := registers_subscribe
    (by decide : isBlankName Event.analyzedName = false) (one.length ▸ here) (Listener.showFile console bus .analyzed)
  obtain ⟨x₃, log, three⟩ := registers_subscribe
    (by decide : isBlankName Event.logName = false) (two.length ▸ one.length ▸ here) (Listener.showLog console threshold)
  obtain ⟨registrations, length, prints⟩ := (one.trans two).trans three
  refine ⟨{ x₃ with consoles := x₃.consoles.set console ⟨threshold, some bus⟩ }, ?_,
    registrations, length, prints⟩
  unfold connect
  rw [bind_apply, get_apply]
  dsimp only
  rw [fresh]
  dsimp only
  rw [bind_ok cached, bind_ok analyzed, bind_ok log, modify_apply]

/-- **Connecting a console wires it**, if no other listener does more than take notes. -/
theorem wired_connect (here : bus < x.buses.length)
    (fresh : x.consoles[console]? = some ⟨threshold, none⟩)
    (passive : ∀ name, ∀ l ∈ x.listeners bus name, Listener.Passive l) :
    ∃ y, connect console bus x = .ok () y ∧ Wired console bus threshold y ∧
      y.prints console = x.prints console := by
  obtain ⟨y, connected, registers⟩ := registers_connect here fresh
  have behind : ∀ name, y.listeners bus name = x.listeners bus name ++
      ((wiring console bus threshold).filter (·.name == name)).map (·.listener) := by
    intro name
    rw [listeners, listeners, registers.registrations, List.filter_append, List.map_append]
  refine ⟨y, connected, ⟨?_, ?_, ?_⟩, registers.prints console⟩
  · exact ⟨_, [], behind _, passive _, List.forall_mem_nil _⟩
  · exact ⟨_, [], behind _, passive _, List.forall_mem_nil _⟩
  · exact ⟨_, [], behind _, passive _, List.forall_mem_nil _⟩

end Exchange

/-! ### Rejections -/

namespace Build

/-- The text of the message for a rejection. -/
def rejectionText (r : Rejection) : String :=
  s!"Unable to analyze file {r.path}: {r.detail}"

theorem ofTexts_rejection : Template.OfTexts "Unable to analyze file %s: %s".toList
    ["Unable to analyze file ".toList, ": ".toList] [] := by
  decide +kernel

/-- The message for a rejection says its template with the path and the reason put in. -/
theorem said_rejection (r : Rejection) :
    Message.Says ⟨"Unable to analyze file %s: %s", [.text r.path, .text r.detail]⟩ [r.path, r.detail] :=
  @Message.said_texts _ [("Unable to analyze file ".toList, r.path), (": ".toList, r.detail)] []
    ofTexts_rejection nofun rfl

theorem render_rejection (r : Rejection) :
    Message.render ⟨"Unable to analyze file %s: %s", [.text r.path, .text r.detail]⟩ =
      .ok (rejectionText r) := by
  have rendered := @Message.render_texts
    ⟨"Unable to analyze file %s: %s", [.text r.path, .text r.detail]⟩
    [("Unable to analyze file ".toList, r.path), (": ".toList, r.detail)] [] ofTexts_rejection nofun rfl
  rw [rendered]
  refine congrArg Except.ok ?_
  simp only [Template.filledIn, List.append_nil, String.ofList_append, String.ofList_toList]
  rw [← String.append_assoc, ← String.append_assoc]
  rfl

end Build

/-- **The announcement of a rejection prints its line**, if the threshold is not above it. -/
theorem Exchange.prints_rejection {console bus : Nat} {threshold : Severity} {x : Exchange}
    (wired : Wired console bus threshold x) (r : Rejection) :
    Prints console (publish bus Event.logName (Build.rejectionEvent r)) x
      ([Shown.log .critical (Build.rejectionText r)].filter (Shown.reaches threshold)) := by
  refine .seq (.emit (fun _ => rfl) x) fun y shows => ?_
  exact prints_message (wired.of_buses shows.buses) 999 .critical (Build.render_rejection r)

end Docwright
