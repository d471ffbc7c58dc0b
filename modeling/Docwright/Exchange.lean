import Docwright.Console.Line
import Docwright.Console.Screen
import Docwright.Event
import Docwright.Failure
import Docwright.Log
import Docwright.Text.Blank

/-!
# The exchange of events

An `Exchange` has buses, on which listeners are registered under names, and consoles, each of which
shows what happens on the bus it is connected to.  Everything that can be observed of it is kept in
its `trace`.

What a listener does is data: it answers an event with a list of `Action`s, so a listener can take
note, print, publish, subscribe another listener, or fail.  `publish` carries out the actions of all
listeners that are registered when it starts, in the order of their registration.  A listener may
publish in turn; `depth` bounds how far publications nest.

A failure of an action ends the publication, and every publication around it.  What happened up to
then stays: registrations and the trace survive.
-/

namespace Docwright

/-- What a listener does about an event. -/
inductive Action
  | note (id : String) (event : Event)
  | print (console : Nat) (line : List Char)
  | publish (bus : Nat) (name : String) (event : Event)
  | subscribe (bus : Nat) (name : String) (listener : Event → List Action)
  | fail (failure : Failure)

/-- A listener answers an event with actions. -/
abbrev Listener := Event → List Action

/-- What can be observed of an exchange.  Only what is published from outside counts as published, not
what a listener publishes in turn. -/
inductive Effect
  | noted (id : String) (event : Event)
  | printed (console : Nat) (text : List Char)
  | logged (entry : Log.Entry)
  | published (bus : Nat) (name : String) (event : Event)

/-- A listener and the name it is registered under. -/
structure Registration where
  name : String
  listener : Listener

/-- A console shows events of one bus, its home, once it is connected. -/
structure Console where
  threshold : Severity
  home : Option Nat

/-- Buses with their registrations, the oldest first, consoles, and what was observed, in order. -/
structure Exchange where
  buses : List (List Registration)
  consoles : List Console
  trace : List Effect

/-- What is done to an exchange; a failure keeps what was done before. -/
abbrev Exchange.Act (α : Type) := EStateM Failure Exchange α

namespace Exchange

/-- An exchange with as many buses as asked for, and consoles with the given thresholds. -/
def new (buses : Nat) (thresholds : List Severity) : Exchange :=
  ⟨List.replicate buses [], thresholds.map (Console.mk · none), []⟩

/-- The registrations of a bus. -/
def registrations (x : Exchange) (bus : Nat) : List Registration :=
  x.buses.getD bus []

/-- The listeners of a bus under a name, in the order of their registration. -/
def listeners (x : Exchange) (bus : Nat) (name : String) : List Listener :=
  ((x.registrations bus).filter (·.name == name)).map (·.listener)

/-- How many listeners a bus has under a name. -/
def listenerCount (x : Exchange) (bus : Nat) (name : String) : Nat :=
  (x.listeners bus name).length

/-- An exchange with another effect observed. -/
def observe (effect : Effect) (x : Exchange) : Exchange :=
  { x with trace := x.trace ++ [effect] }

/-- An exchange with another registration on a bus. -/
def register (bus : Nat) (r : Registration) (x : Exchange) : Exchange :=
  { x with buses := x.buses.modify bus (· ++ [r]) }

/-- Observes an effect. -/
def emit (effect : Effect) : Act Unit :=
  modify (observe effect)

/-- Writes an entry of the log. -/
def log (level : Log.Level) (channel : Log.Channel) (text : String) : Act Unit :=
  emit (.logged ⟨level, channel, text⟩)

/-- Whether nothing of a name is left when blanks are left out. -/
def isBlankName (name : String) : Bool :=
  name.toList.all Text.isBlank

/-- Registers a listener under a name, which must not be blank. -/
def subscribe (bus : Nat) (name : String) (listener : Listener) : Act Unit := do
  if isBlankName name then throw .blankName
  modify (register bus ⟨name, listener⟩)
  log .debug .exchange s!"Listener subscribed (event_name={name})"

/-- Prints a line of markup on a console. -/
def print (console : Nat) (line : List Char) : Act Unit :=
  match Console.print line with
  | .ok text => emit (.printed console text)
  | .error fault => throw (.markup (String.ofList fault.tag) fault.position)

/-- Carries out an action; `send` publishes. -/
def perform (send : Nat → String → Event → Act Unit) : Action → Act Unit
  | .note id event => emit (.noted id event)
  | .print console line => print console line
  | .publish bus name event => send bus name event
  | .subscribe bus name listener => subscribe bus name listener
  | .fail failure => throw failure

/-- Publishes an event under a name: every listener that is registered now gets it. -/
def publishWithin : Nat → Nat → String → Event → Act Unit
  | 0, _, _, _ => throw .tooDeep
  | depth + 1, bus, name, event => do
    let x ← get
    (x.listeners bus name).forM fun listener =>
      (listener event).forM (perform (publishWithin depth))

/-- How far publications may nest. -/
def depthLimit : Nat := 1000

/-- Publishes an event under a name. -/
def publish (bus : Nat) (name : String) (event : Event) : Act Unit := do
  emit (.published bus name event)
  publishWithin depthLimit bus name event

end Exchange

/-! ### Listeners -/

namespace Listener

/-- A listener that takes note of events. -/
def recorder (id : String) : Listener :=
  fun event => [.note id event]

/-- A listener that shows messages on a console, from a threshold on. -/
def showLog (console : Nat) (threshold : Severity) : Listener
  | .log severity message =>
    if severity.reaches threshold then
      match message.render with
      | .ok text => [.print console (Console.logLine severity text.toList)]
      | .error failure => [.fail (.message failure)]
    else []
  | event => [.fail (.misdirected event.kindName "priority")]

/-- A listener that shows on a console that there is a record of a file, and announces every problem
of it on a bus. -/
def showFile (console bus : Nat) (origin : Console.Origin) : Listener := fun event =>
  match event.record? with
  | some record =>
    .print console (Console.fileLine origin record.path.toList) ::
      record.problems.map fun p => .publish bus Event.logName (.ofProblem p)
  | none => [.fail (.misdirected event.kindName "record")]

end Listener

namespace Exchange

/-- Connects a console to a bus, which becomes its home; a console that has a home keeps it. -/
def connect (console bus : Nat) : Act Unit := do
  let x ← get
  match x.consoles[console]? with
  | none => pure ()
  | some ⟨_, some _⟩ => log .debug .console "Logging subscriber already connected; ignoring"
  | some ⟨threshold, none⟩ =>
    subscribe bus Event.cachedName (Listener.showFile console bus .cached)
    subscribe bus Event.analyzedName (Listener.showFile console bus .analyzed)
    subscribe bus Event.logName (Listener.showLog console threshold)
    modify fun x => { x with consoles := x.consoles.set console ⟨threshold, some bus⟩ }

/-- Hands an event to the log of a console, whether it is connected or not. -/
def showLog (console : Nat) (event : Event) : Act Unit := do
  let x ← get
  match x.consoles[console]? with
  | none => pure ()
  | some c =>
    (Listener.showLog console c.threshold event).forM (perform publish)

end Exchange

end Docwright
