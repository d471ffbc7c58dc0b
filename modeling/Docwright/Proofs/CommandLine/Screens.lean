import Docwright.CommandLine
import Docwright.Proofs.Console.Shown
import Docwright.Proofs.Exchange.Parallel

/-!
# Two screens side by side

Two builds of the same files print the same lines, except that one of them may have
made a record where the other one finds it.  `Mirrors` says this of the exchanges at
any moment, and `parallel_mirrors` that it is kept up by whatever a build announces,
both builds going on or both ending with the same failure.

Only announcements print, and which lines they print is settled by the three
listeners of a connected console.  The one place where the two sides print different
lines is the line of a file, which never fails (`print_fileLine`); that is why the
endings agree although the lines do not.
-/

namespace Docwright.CommandLine

open Console (Shown screen? screen?_concat)
open Exchange (Logs Act)

/-! ### Connected consoles -/

/-- What is registered on a bus with a connected console. -/
def registrations (threshold : Severity) : List Registration :=
  [⟨Event.cachedName, Listener.showFile 0 0 .cached⟩,
    ⟨Event.analyzedName, Listener.showFile 0 0 .analyzed⟩,
    ⟨Event.logName, Listener.showLog 0 threshold⟩]

/-- The listeners of a connected console under a name. -/
def listening (threshold : Severity) (name : String) : List Listener :=
  ((registrations threshold).filter (·.name == name)).map (·.listener)

theorem listening_cached (threshold : Severity) :
    listening threshold Event.cachedName = [Listener.showFile 0 0 .cached] := rfl

theorem listening_analyzed (threshold : Severity) :
    listening threshold Event.analyzedName = [Listener.showFile 0 0 .analyzed] := rfl

theorem listening_log (threshold : Severity) :
    listening threshold Event.logName = [Listener.showLog 0 threshold] := rfl

/-- Two exchanges, each with a connected console, the second of which shows the lines of the first one
with every file as a cached one. -/
structure Mirrors (threshold : Severity) (x y : Exchange) : Prop where
  left : x.buses = [registrations threshold]
  right : y.buses = [registrations threshold]
  lines : ∃ lines, screen? lines = some (printed x.trace) ∧
    screen? (lines.map Shown.found) = some (printed y.trace)

section

variable {threshold : Severity} {x y x' y' : Exchange} {act act' : Act Unit}

/-- An effect that is not printed. -/
def Silent (effect : Effect) : Prop := printed [effect] = []

theorem printed_append (before after : List Effect) :
    printed (before ++ after) = printed before ++ printed after := by
  rw [printed, printed, printed, List.flatMap_append]

theorem Mirrors.observe (mirrors : Mirrors threshold x y) {effect effect' : Effect}
    (silent : Silent effect) (silent' : Silent effect') :
    Mirrors threshold (x.observe effect) (y.observe effect') := by
  obtain ⟨left, right, lines, first, second⟩ := mirrors
  refine ⟨left, right, lines, ?_, ?_⟩
  · rw [first, Exchange.observe, printed_append, silent, List.append_nil]
  · rw [second, Exchange.observe, printed_append, silent', List.append_nil]

theorem printed_logged (entries : List Log.Entry) : printed (entries.map .logged) = [] := by
  induction entries with
  | nil => rfl
  | cons entry rest ih => exact ih

/-- Entries of the log are not shown. -/
theorem Mirrors.logs (mirrors : Mirrors threshold x y) (first : Logs x x') (second : Logs y y') :
    Mirrors threshold x' y' := by
  obtain ⟨left, right, lines, first', second'⟩ := mirrors
  obtain ⟨entries, rfl⟩ := first
  obtain ⟨entries', rfl⟩ := second
  refine ⟨left, right, lines, ?_, ?_⟩
  · rw [first', printed_append, printed_logged, List.append_nil]
  · rw [second', printed_append, printed_logged, List.append_nil]

/-- A line is shown on one side, and on the other side as one that the cache holds. -/
theorem Mirrors.print (mirrors : Mirrors threshold x y) {line : Shown} {text text' : List Char}
    (written : line.written? = some text) (written' : line.found.written? = some text') :
    Mirrors threshold (x.observe (.printed 0 text)) (y.observe (.printed 0 text')) := by
  obtain ⟨left, right, lines, first, second⟩ := mirrors
  have one : ∀ text, printed [Effect.printed 0 text] = text := fun text => List.append_nil text
  refine ⟨left, right, lines ++ [line], ?_, ?_⟩
  · rw [screen?_concat first written, Exchange.observe, printed_append, one]
  · rw [List.map_append, List.map_singleton, screen?_concat second written', Exchange.observe,
      printed_append, one]

theorem Mirrors.listeners (mirrors : Mirrors threshold x y) (name : String) :
    x.listeners 0 name = listening threshold name ∧
      y.listeners 0 name = listening threshold name := by
  have first : x.registrations 0 = registrations threshold := by
    rw [Exchange.registrations, mirrors.left]
    rfl
  have second : y.registrations 0 = registrations threshold := by
    rw [Exchange.registrations, mirrors.right]
    rfl
  exact ⟨by rw [Exchange.listeners, first, listening], by rw [Exchange.listeners, second, listening]⟩

/-! ### Acts in step -/

/-- Effects that are not printed may differ. -/
theorem twin_emit {effect effect' : Effect} (silent : Silent effect) (silent' : Silent effect') :
    Twin (Mirrors threshold) (Exchange.emit effect) (Exchange.emit effect') :=
  fun _ _ mirrors => mirrors.observe silent silent'

/-- The line of a message is the same on both sides, and fails on both. -/
theorem twin_printLog (severity : Severity) (text : String) :
    Twin (Mirrors threshold) (Exchange.print 0 (Console.logLine severity text.toList))
      (Exchange.print 0 (Console.logLine severity text.toList)) := by
  intro x y mirrors
  unfold Exchange.print
  cases written : Console.print (Console.logLine severity text.toList) with
  | error fault => exact ⟨rfl, mirrors⟩
  | ok out =>
      have line : (Shown.log severity text).written? = some out := by
        rw [Shown.written?, Shown.markup, written]
        rfl
      exact mirrors.print line line

/-- The line of a file is printed on both sides. -/
theorem twin_printFile (origin : Console.Origin) (path : String) :
    Twin (Mirrors threshold) (Exchange.print 0 (Console.fileLine origin path.toList))
      (Exchange.print 0 (Console.fileLine .cached path.toList)) := by
  intro x y mirrors
  obtain ⟨out, written⟩ := Console.print_fileLine origin path.toList
  obtain ⟨out', written'⟩ := Console.print_fileLine .cached path.toList
  have line : (Shown.file origin path).written? = some out := by
    rw [Shown.written?, Shown.markup, written]
    rfl
  have line' : (Shown.file origin path).found.written? = some out' := by
    rw [Shown.found, Shown.written?, Shown.markup, written']
    rfl
  unfold Exchange.print
  rw [written, written']
  exact mirrors.print line line'

/-- A publication on both sides comes to what each side does for its one listener. -/
theorem twin_publishWithin {depth : Nat} {name name' : String} {event event' : Event}
    {listener listener' : Listener}
    (here : listening threshold name = [listener])
    (there : listening threshold name' = [listener'])
    (answers : Twin (Mirrors threshold) ((listener event).forM (Exchange.perform (Exchange.publishWithin depth)))
      ((listener' event').forM (Exchange.perform (Exchange.publishWithin depth)))) :
    Twin (Mirrors threshold) (Exchange.publishWithin (depth + 1) 0 name event)
      (Exchange.publishWithin (depth + 1) 0 name' event') := by
  intro x y mirrors
  unfold Exchange.publishWithin
  rw [bind_apply, bind_apply, get_apply, get_apply]
  dsimp only
  rw [(mirrors.listeners name).1, (mirrors.listeners name').2, here, there]
  change Twins (Mirrors threshold)
    ((((listener event).forM (Exchange.perform (Exchange.publishWithin depth))) >>=
      fun _ => Pure.pure ()) x)
    ((((listener' event').forM (Exchange.perform (Exchange.publishWithin depth))) >>=
      fun _ => Pure.pure ()) y)
  exact Twin.bind answers .pure mirrors

/-- A message is published alike on both sides, at every depth. -/
theorem twin_publishLog (depth : Nat) (severity : Severity) (message : Message) :
    Twin (Mirrors threshold) (Exchange.publishWithin depth 0 Event.logName (.log severity message))
      (Exchange.publishWithin depth 0 Event.logName (.log severity message)) := by
  cases depth with
  | zero => exact .throw .tooDeep
  | succ depth =>
      refine twin_publishWithin (listening_log threshold) (listening_log threshold)
        (.forM fun action member => ?_)
      simp only [Listener.showLog] at member
      split at member
      · split at member
        · rw [List.mem_singleton.mp member]
          exact twin_printLog severity _
        · rw [List.mem_singleton.mp member]
          exact .throw _
      · exact absurd member List.not_mem_nil

/-- What a connected console does about a record: it shows the file, then its problems. -/
theorem twin_showFile (depth : Nat) (origin : Console.Origin) (record : FileRecord)
    {event event' : Event} (about : event.record? = some record)
    (about' : event'.record? = some record) :
    Twin (Mirrors threshold)
      ((Listener.showFile 0 0 origin event).forM (Exchange.perform (Exchange.publishWithin depth)))
      ((Listener.showFile 0 0 .cached event').forM
        (Exchange.perform (Exchange.publishWithin depth))) := by
  unfold Listener.showFile
  rw [about, about']
  change Twin (Mirrors threshold) (Exchange.print 0 (Console.fileLine origin record.path.toList) >>=
      fun _ => List.forM _ _) (Exchange.print 0 (Console.fileLine .cached record.path.toList) >>=
      fun _ => List.forM _ _)
  refine .bind (twin_printFile origin record.path) (.forM fun action member => ?_)
  obtain ⟨p, -, rfl⟩ := List.mem_map.mp member
  exact twin_publishLog depth p.severity p.message

/-- **A record is announced on one side as it is, and on the other side as one that the cache holds.** -/
theorem twin_announcement (record : FileRecord) (hit : Bool) :
    Twin (Mirrors threshold)
      (Exchange.publish 0 (Build.announcement record hit).name (Build.announcement record hit))
      (Exchange.publish 0 (Build.announcement record true).name
        (Build.announcement record true)) := by
  have begun : ∀ event : Event, Silent (.published 0 event.name event) := fun _ => rfl
  refine .bind (twin_emit (begun _) (begun _)) ?_
  have depth : Exchange.depthLimit = 999 + 1 := rfl
  rw [depth]
  have cached : (Build.announcement record true).record? = some record := rfl
  cases hit with
  | true =>
      exact twin_publishWithin (listening_cached threshold) (listening_cached threshold)
        (twin_showFile 999 .cached record cached cached)
  | false =>
      have analyzed : (Build.announcement record false).record? = some record := rfl
      exact twin_publishWithin (listening_analyzed threshold) (listening_cached threshold)
        (twin_showFile 999 .analyzed record analyzed cached)

/-- A rejection is announced alike on both sides. -/
theorem twin_rejection (r : Rejection) :
    Twin (Mirrors threshold) (Exchange.publish 0 Event.logName (Build.rejectionEvent r))
      (Exchange.publish 0 Event.logName (Build.rejectionEvent r)) :=
  have begun : Silent (.published 0 Event.logName (Build.rejectionEvent r)) := rfl
  .bind (twin_emit begun begun) (twin_publishLog Exchange.depthLimit _ _)

/-- A build cannot tell two screens apart that mirror one another. -/
theorem parallel_mirrors (threshold : Severity) : Exchange.Parallel 0 (Mirrors threshold) where
  logs mirrors first second := mirrors.logs first second
  announcement := twin_announcement
  rejection := twin_rejection

end

end Docwright.CommandLine
