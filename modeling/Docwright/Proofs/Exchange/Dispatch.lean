import Docwright.Proofs.Exchange.Journal

/-!
# The course of a publication

A publication calls the listeners that are registered when it begins, one after another,
and ends with the first failure or when all have come to their end; this is its `Course`.
It has to be told from what the publications do that are nested in it, and these may
themselves be cut off at any depth.  `Spans` says how a journal goes on: what belongs to
publications that have begun before stays as it is, that of the one under way excepted,
and every publication that begins in between takes its course.  Spans compose, so a call
is put together from what its listener does, and a publication from its calls
(`publishWithin_follows`).
-/

namespace Docwright

namespace Happening

/-- The publication that something belongs to, apart from its beginning. -/
def publication? : Happening → Option Nat
  | .called p .. | .answered p .. | .ended p _ => some p
  | .began .. | .subscribed .. | .replied _ => none

/-- Whether a publication begins. -/
def begins : Happening → Bool
  | .began .. => true
  | .called .. | .answered .. | .ended .. | .subscribed .. | .replied _ => false

/-- Listeners are called one after another, from a place on, and all of them come to their end. -/
def calls (p first : Nat) (listeners : List Listener) : List Happening :=
  (listeners.zipIdx first).flatMap fun entry =>
    [.called p entry.2 entry.1, .answered p entry.2 (.ok ())]

/-- What a publication to listeners does: it calls all of them in order, or those up to the first one that
fails, whose failure it ends with. -/
inductive Course (p : Nat) (listeners : List Listener) : List Happening → Prop
  | through : Course p listeners (calls p 0 listeners ++ [.ended p (.ok ())])
  | broken {before after : List Listener} {listener : Listener} (failure : Failure)
      (split : listeners = before ++ listener :: after) :
      Course p listeners (calls p 0 before ++ [.called p before.length listener,
        .answered p before.length (.error failure)] ++ [.ended p (.error failure)])

end Happening

namespace Exchange

namespace Watched

open Happening (Course calls)

variable {j j' j'' : List Moment} {w w' : Watched} {p q : Nat} {what : Happening} {x : Exchange}

/-! ### What one publication does -/

/-- What a publication has done so far. -/
def doings (p : Nat) (journal : List Moment) : List Happening :=
  (journal.map Moment.what).filter (·.publication? == some p)

theorem doings_concat (p : Nat) (j : List Moment) (what : Happening) (x : Exchange) :
    doings p (j ++ [⟨what, x⟩]) = doings p j ++ if what.publication? = some p then [what] else [] := by
  by_cases own : what.publication? = some p <;> simp [doings, own]

theorem doings_enter (own : what.publication? = some p) (w : Watched) :
    doings p (w.enter what).journal = doings p w.journal ++ [what] :=
  (doings_concat p w.journal what w.exchange).trans (by rw [if_pos own])

/-- The publication with a number, if there is one, does what it should. -/
def Lawful (p : Nat) (journal : List Moment) : Prop :=
  ∀ bus name event x, journal[p]? = some ⟨.began bus name event, x⟩ →
    Course p (x.listeners bus name) (doings p journal)

/-- Nothing is done by publications that have not begun. -/
def Fresh (journal : List Moment) : Prop :=
  ∀ p, journal.length ≤ p → doings p journal = []

/-- If a publication is under way, it has begun. -/
def Begun (under : Option Nat) (journal : List Moment) : Prop :=
  ∀ p, under = some p → p < journal.length

theorem begun_none (j : List Moment) : Begun none j := nofun

theorem begun_some (early : p < j.length) : Begun (some p) j :=
  fun _ same => Option.some.inj same ▸ early

theorem Begun.mono {under : Option Nat} (begun : Begun under j) (kept : j <+: j') : Begun under j' :=
  fun p same => Nat.lt_of_lt_of_le (begun p same) kept.length_le

/-- A journal goes on, while a publication may be under way: no other publication that has begun before
does anything, and those that begin do what they should. -/
structure Spans (under : Option Nat) (j j' : List Moment) : Prop where
  kept : j <+: j'
  frame : ∀ q < j.length, under ≠ some q → doings q j' = doings q j
  lawful : ∀ q, j.length ≤ q → Lawful q j'
  fresh : Fresh j'

namespace Spans

variable {under : Option Nat}

theorem refl (under : Option Nat) (fresh : Fresh j) : Spans under j j where
  kept := List.prefix_refl _
  frame _ _ _ := rfl
  lawful q late bus name event x began := by
    rw [List.getElem?_eq_none late] at began
    cases began
  fresh := fresh

theorem trans (begun : Begun under j) (first : Spans under j j')
    (second : Spans under j' j'') : Spans under j j'' where
  kept := first.kept.trans second.kept
  frame q early other := by
    rw [second.frame q (Nat.lt_of_lt_of_le early first.kept.length_le) other, first.frame q early other]
  lawful q late := by
    by_cases early : q < j'.length
    · intro bus name event x began'
      have other : under ≠ some q := fun same => absurd (begun q same) (Nat.not_lt.mpr late)
      obtain ⟨more, rfl⟩ := second.kept
      rw [List.getElem?_append_left early] at began'
      rw [second.frame q early other]
      exact first.lawful q late bus name event x began'
    · exact second.lawful q (Nat.not_lt.mp early)
  fresh := second.fresh

/-- Where no publication is under way, what one does that has begun is as it was. -/
theorem within (spans : Spans none j j') (p : Nat) : Spans (some p) j j' :=
  { spans with frame := fun q early _ => spans.frame q early nofun }

/-- Something else than the beginning of a publication happens. -/
theorem concat (fresh : Fresh j) (begun : Begun under j)
    (own : what.publication? = none ∨ what.publication? = under) (other : what.begins = false)
    (x : Exchange) : Spans under j (j ++ [⟨what, x⟩]) := by
  have owned : ∀ q, what.publication? = some q → under = some q := by
    intro q same
    rcases own with nobody | own
    · rw [nobody] at same
      cases same
    · rw [← own, same]
  refine ⟨List.prefix_append _ _, fun q _ apart => ?_, fun q late bus name event y first => ?_, fun q late => ?_⟩
  · rw [doings_concat, if_neg fun same => apart (owned q same), List.append_nil]
  · rw [List.getElem?_append_right late] at first
    have same := List.mem_singleton.mp (List.mem_of_getElem? first)
    obtain rfl := congrArg Moment.what same
    cases other
  · have later : j.length ≤ q := Nat.le_trans (List.prefix_append j [⟨what, x⟩]).length_le late
    rw [doings_concat, fresh q later, if_neg, List.nil_append]
    exact fun same => absurd (begun q (owned q same)) (Nat.not_lt.mpr later)

/-- A publication that begins does what it should. -/
theorem publication {bus : Nat} {name : String} {event : Event}
    (spans : Spans (some j.length) (j ++ [⟨.began bus name event, x⟩]) j')
    (course : Course j.length (x.listeners bus name) (doings j.length j')) : Spans none j j' where
  kept := (List.prefix_append _ _).trans spans.kept
  frame q early _ := by
    have apart : some j.length ≠ some q := fun same => Nat.ne_of_gt early (Option.some.inj same)
    rw [spans.frame q (Nat.lt_of_lt_of_le early (List.prefix_append _ _).length_le) apart, doings_concat,
      if_neg nofun, List.append_nil]
  lawful q late := by
    obtain rfl | later := Nat.eq_or_lt_of_le late
    · intro bus' name' event' y began
      obtain ⟨more, rfl⟩ := spans.kept
      rw [List.append_assoc, List.getElem?_append_right (Nat.le_refl _), Nat.sub_self] at began
      cases began
      exact course
    · exact spans.lawful q (by rwa [List.length_append])
  fresh := spans.fresh

/-- All publications do what they should, also those that have begun before. -/
theorem all (spans : Spans none j j') (lawful : ∀ q, Lawful q j) (q : Nat) : Lawful q j' := by
  by_cases early : q < j.length
  · intro bus name event y began
    obtain ⟨more, rfl⟩ := spans.kept
    rw [List.getElem?_append_left early] at began
    rw [spans.frame q early nofun]
    exact lawful q bus name event y began
  · exact spans.lawful q (Nat.not_lt.mp early)

end Spans

/-- What an act does to the journal. -/
def Follows (under : Option Nat) (w : Watched) (_ : Except Failure Unit) (w' : Watched) : Prop :=
  Fresh w.journal → Begun under w.journal → Spans under w.journal w'.journal

theorem steps_follows (under : Option Nat) : Steps (Follows under) where
  idle _ _ fresh _ := .refl under fresh
  trans first second fresh begun := by
    have spans := first fresh begun
    exact spans.trans begun (second spans.fresh (begun.mono spans.kept))
  exchange _ _ _ _ fresh _ := .refl under fresh
  subscribed _ _ _ _ _ _ fresh begun := .concat fresh begun (.inl rfl) rfl _

/-! ### Calls -/

section

variable {send : Nat → String → Event → Act Unit}
  (sends : ∀ bus name event, Meets (Follows none) (send bus name event)) (event : Event)
include sends

/-- A call of a publication: it is entered, the listener does what it does, and its outcome is entered. -/
theorem call_doings (entry : Listener × Nat) (fresh : Fresh w.journal) (begun : Begun (some p) w.journal) :
    Spans (some p) w.journal (endState (call send p event entry w)).journal ∧
      doings p (endState (call send p event entry w)).journal = doings p w.journal ++
        [.called p entry.2 entry.1, .answered p entry.2 (answer (call send p event entry w))] := by
  let w₁ := w.enter (.called p entry.2 entry.1)
  let actions : Act Unit := (entry.1 event).forM (perform send)
  obtain ⟨same, led⟩ : answer (call send p event entry w) = answer (actions w₁) ∧
      endState (call send p event entry w) =
        (endState (actions w₁)).enter (.answered p entry.2 (answer (actions w₁))) :=
    closing_apply (.answered p entry.2) actions w₁
  have first : Spans (some p) w.journal w₁.journal := .concat fresh begun (.inr rfl) rfl _
  have acts : Meets (Follows none) actions :=
    (steps_follows none).forM fun action _ => (steps_follows none).perform sends action
  have second := acts w₁ first.fresh (begun_none _)
  have both := first.trans begun (second.within p)
  have third : Spans (some p) (endState (actions w₁)).journal (endState (call send p event entry w)).journal := by
    rw [led]
    exact .concat both.fresh (begun.mono both.kept) (.inr rfl) rfl _
  refine ⟨both.trans begun third, ?_⟩
  have before : doings p (endState (actions w₁)).journal = doings p w₁.journal :=
    second.frame p (begun.mono first.kept p rfl) nofun
  rw [led, same, doings_enter rfl, before, doings_enter rfl, List.append_assoc]
  rfl

theorem call_follows (p : Nat) (entry : Listener × Nat) :
    Meets (Follows (some p)) (call send p event entry) :=
  fun _ fresh begun => (call_doings sends event entry fresh begun).1

/-- Calls that all come to their end. -/
theorem calls_doings {listeners : List Listener} {first : Nat} (fresh : Fresh w.journal)
    (begun : Begun (some p) w.journal)
    (done : (listeners.zipIdx first).forM (call send p event) w = .ok () w') :
    Spans (some p) w.journal w'.journal ∧
      doings p w'.journal = doings p w.journal ++ calls p first listeners := by
  induction listeners generalizing first w with
  | nil =>
      cases done
      exact ⟨.refl _ fresh, (List.append_nil _).symm⟩
  | cons listener rest ih =>
      obtain ⟨spans, called⟩ := call_doings sends event (listener, first) fresh begun
      change (call send p event (listener, first) >>= fun _ =>
        (rest.zipIdx (first + 1)).forM (call send p event)) w = _ at done
      rw [bind_apply] at done
      cases run : call send p event (listener, first) w with
      | error failure w₁ =>
          rw [run] at done
          cases done
      | ok _ w₁ =>
          rw [run] at done spans called
          obtain ⟨spans', others⟩ := ih spans.fresh (begun.mono spans.kept) done
          refine ⟨spans.trans begun spans', ?_⟩
          rw [others, called, List.append_assoc]
          rfl

/-- What a publication does that has just begun. -/
theorem course_calls (listeners : List Listener) (fresh : Fresh w.journal)
    (begun : Begun (some p) w.journal) (nothing : doings p w.journal = []) :
    let result := listeners.zipIdx.forM (call send p event) w
    Course p listeners (doings p (endState result).journal ++ [.ended p (answer result)]) := by
  intro result
  cases run : result with
  | ok _ w' =>
      obtain ⟨-, called⟩ := calls_doings sends event fresh begun run
      rw [endState_ok, called, nothing]
      exact .through
  | error failure w' =>
      obtain ⟨before, entry, after, w₁, split, done, failed⟩ := forM_eq_error_iff.mp run
      obtain ⟨earlier, others, rfl, rfl, rest⟩ := List.zipIdx_eq_append_iff.mp split
      obtain ⟨listener, later, rfl, rfl, -⟩ := List.zipIdx_eq_cons_iff.mp rest.symm
      obtain ⟨spans, called⟩ := calls_doings sends event fresh begun done
      obtain ⟨-, last⟩ := call_doings sends event (listener, 0 + earlier.length) spans.fresh
        (begun.mono spans.kept)
      rw [failed, endState_error, called, nothing, Nat.zero_add] at last
      rw [endState_error, last]
      exact .broken failure rfl

end

/-- **What every publication does.** -/
theorem publishWithin_follows (depth bus : Nat) (name : String) (event : Event) :
    Meets (Follows none) (publishWithin depth bus name event) := by
  induction depth generalizing bus name event with
  | zero => exact fun w => (steps_follows none).idle w _
  | succ depth ih =>
      intro w fresh _
      let p := w.journal.length
      let w₁ := w.enter (.began bus name event)
      let all : Act Unit := (w.exchange.listeners bus name).zipIdx.forM (call (publishWithin depth) p event)
      have led : endState (publishWithin (depth + 1) bus name event w) =
          (endState (all w₁)).enter (.ended p (answer (all w₁))) :=
        (closing_apply (.ended p) all w₁).2
      have nothing : ∀ q, p ≤ q → doings q w₁.journal = [] := fun q late => by
        refine (doings_concat q w.journal _ _).trans ?_
        rw [fresh q late, if_neg nofun, List.append_nil]
      have later : p < w₁.journal.length := by
        rw [show w₁.journal.length = p + 1 from List.length_append]
        exact Nat.lt_succ_self p
      have fresh₁ : Fresh w₁.journal := fun q late => nothing q (Nat.le_trans (Nat.le_of_lt later) late)
      have begun := begun_some later
      have called : Meets (Follows (some p)) all :=
        (steps_follows (some p)).forM fun entry _ => call_follows ih event p entry
      have spans := called w₁ fresh₁ begun
      have last : Spans (some p) (endState (all w₁)).journal
          ((endState (all w₁)).enter (.ended p (answer (all w₁)))).journal :=
        .concat spans.fresh (begun.mono spans.kept) (.inr rfl) rfl _
      have course := course_calls ih event (w.exchange.listeners bus name) fresh₁ begun (nothing p (Nat.le_refl _))
      rw [led]
      refine .publication (spans.trans begun last) ?_
      rw [doings_enter rfl]
      exact course

/-- Every publication so far has done what it should. -/
def Sound (w : Watched) : Prop :=
  Fresh w.journal ∧ ∀ p, Lawful p w.journal

/-- **Every publication does what it should**, whatever is done to the exchange. -/
theorem sound_serveAll (depth : Nat) (requests : List Request) (x : Exchange) :
    Sound (serveAll depth requests ⟨x, []⟩) := by
  have step : ∀ request w, Sound w → Sound (endState (closing .replied (serve depth request) w)) := by
    rintro request w ⟨fresh, lawful⟩
    have served : Meets (Follows none) (closing .replied (serve depth request)) :=
      Meets.closing ((steps_follows none).serve (publishWithin_follows depth) request)
        fun follows fresh begun => by
          have spans := follows fresh begun
          exact spans.trans begun (.concat spans.fresh (begun_none _) (.inl rfl) rfl _)
    have spans := served w fresh (begun_none _)
    exact ⟨spans.fresh, spans.all lawful⟩
  exact serveAll_invariant step requests ⟨fun _ _ => rfl, fun _ _ _ _ _ began => nomatch began⟩

end Watched

end Exchange

end Docwright
