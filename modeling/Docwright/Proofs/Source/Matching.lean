import Docwright.Source.Pattern

/-!
# What a match has found

The matcher tries alternatives in order, looks ahead and remembers.  None of this matters for what
it returns: the value of a symbol comes from one alternative of its rule, the patterns of which fit
the tokens one behind the other (`Fits`), and may then have grown by tails that fit as well.

So whatever the rules keep to, the matcher keeps to.  An `Interpretation` says which values a symbol
and which values any pattern may have from one place up to another; if it is `Sound` for a grammar,
the matcher returns no other values (`Sound.run`).  That holds of the readings in which mistakes are
overlooked.

The induction is on how deep the rules may nest, for all functions of the matcher together
(`Finds`), and the memory is what carries it: all that is remembered of a symbol has been found for
it (`Memory.Faithful`).
-/

namespace Docwright.Source

/-- The token that is matched at a place; behind the last one that is the last one again. -/
def Input.tokenAt (input : Input) (place : Nat) : Token :=
  (input.tokens[place]?.or input.tokens.back?).getD ⟨.finish, "", 0, 0⟩

theorem Input.row_tokenAt (input : Input) (place : Nat) :
    Match.rowAt input place = (input.tokenAt place).row := by
  rw [Match.rowAt, Input.tokenAt]
  cases input.tokens[place]?.or input.tokens.back? <;> rfl

/-- Values that stand one behind the other, each from where the one before it ends. -/
inductive Chain {α : Type} (fills : Nat → α → Nat → Prop) : Nat → List α → Nat → Prop
  | nil {place : Nat} : Chain fills place [] place
  | cons {place middle next : Nat} {a : α} {rest : List α} (here : fills place a middle)
      (behind : Chain fills middle rest next) : Chain fills place (a :: rest) next

namespace Chain

variable {α : Type} {fills : Nat → α → Nat → Prop} {place next : Nat} {values : List α}

theorem le (forward : ∀ {first a next}, fills first a next → first ≤ next)
    (chain : Chain fills place values next) : place ≤ next := by
  induction chain with
  | nil => exact Nat.le_refl _
  | cons here _ ih => exact Nat.le_trans (forward here) ih

/-- Each of the values has a span of its own. -/
theorem exists_of_mem (forward : ∀ {first a next}, fills first a next → first ≤ next)
    (chain : Chain fills place values next) {a : α} (member : a ∈ values) :
    ∃ first last, place ≤ first ∧ last ≤ next ∧ fills first a last := by
  induction chain with
  | nil => cases member
  | @cons place middle next _ _ here behind ih =>
      rcases List.mem_cons.mp member with rfl | member
      · exact ⟨place, middle, Nat.le_refl _, behind.le forward, here⟩
      · obtain ⟨first, last, from_, upto, fills⟩ := ih member
        exact ⟨first, last, Nat.le_trans (forward here) from_, upto, fills⟩

end Chain

/-- Which values a symbol and which values any pattern may have, from a place up to another. -/
structure Interpretation where
  ofSymbol : Symbol → Nat → Node → Nat → Prop
  ofPattern : Nat → Node → Nat → Prop

/-- A pattern without a value. -/
def Pattern.Silent : Pattern → Prop
  | .ahead _ | .notAhead _ | .commit => True
  | _ => False

namespace Interpretation

/-- A pattern may have a value from a place up to another. -/
def Takes (I : Interpretation) (input : Input) : Pattern → Nat → Node → Nat → Prop
  | .token terminal, place, node, next =>
    terminal.accepts (input.tokenAt place) ∧ node = .token (input.tokenAt place) ∧ next = place + 1
  | .rule symbol, place, node, next => I.ofSymbol symbol place node next
  | _, place, node, next => I.ofPattern place node next

/-- Patterns may have these values, one behind the other. -/
inductive Fits (I : Interpretation) (input : Input) :
    List Pattern → Nat → List Node → Nat → Prop
  | nil {place : Nat} : Fits I input [] place [] place
  | pass {item : Pattern} {items : List Pattern} {place next : Nat} {values : List Node}
      (silent : item.Silent) (behind : Fits I input items place values next) :
      Fits I input (item :: items) place values next
  | take {item : Pattern} {items : List Pattern} {place middle next : Nat} {node : Node}
      {values : List Node} (takes : I.Takes input item place node middle)
      (behind : Fits I input items middle values next) :
      Fits I input (item :: items) place (node :: values) next

/-- What any pattern may have as its value covers tokens, the values of symbols, parts that are absent
and values that stand one behind the other. -/
structure Closed (I : Interpretation) (input : Input) : Prop where
  token : ∀ place, I.ofPattern place (.token (input.tokenAt place)) (place + 1)
  symbol : ∀ {symbol place node next},
    I.ofSymbol symbol place node next → I.ofPattern place node next
  absent : ∀ place, I.ofPattern place .absent place
  many : ∀ {place nodes next},
    Chain I.ofPattern place nodes next → I.ofPattern place (.many nodes) next

/-- The rules of a grammar keep to an interpretation: what an alternative makes of values that fit
its patterns is a value of its symbol, and so is what a tail makes of such a value and of values that
fit behind it. -/
structure Sound (I : Interpretation) (g : Grammar) (input : Input) : Prop
    extends I.Closed input where
  alternative : ∀ symbol, ∀ a ∈ (g symbol).alternatives, a.mistake = false →
    ∀ {place values next site node}, I.Fits input a.items place values next →
      site.row = Match.rowAt input place → a.outcome site values = .ok (some node) →
      I.ofSymbol symbol place node next
  tail : ∀ symbol, ∀ a ∈ (g symbol).tails, a.mistake = false →
    ∀ {place first middle values next site node}, I.ofSymbol symbol place first middle →
      I.Fits input a.items middle values next → site.row = Match.rowAt input place →
      a.outcome site (first :: values) = .ok (some node) → I.ofSymbol symbol place node next

namespace Closed

variable {I : Interpretation} {input : Input} {place next : Nat}

theorem ofPattern (closed : I.Closed input) {item : Pattern} {node : Node}
    (takes : I.Takes input item place node next) : I.ofPattern place node next := by
  cases item with
  | token terminal =>
      obtain ⟨-, rfl, rfl⟩ := takes
      exact closed.token place
  | rule symbol => exact closed.symbol takes
  | _ => exact takes

theorem chain (closed : I.Closed input) {items : List Pattern} {values : List Node}
    (fits : I.Fits input items place values next) : Chain I.ofPattern place values next := by
  induction fits with
  | nil => exact .nil
  | pass _ _ ih => exact ih
  | take takes _ ih => exact .cons (closed.ofPattern takes) ih

/-- Each of the patterns that have a value has a span of its own. -/
theorem exists_of_mem (closed : I.Closed input)
    (forward : ∀ {first node next}, I.ofPattern first node next → first ≤ next)
    {items : List Pattern} {values : List Node} (fits : I.Fits input items place values next)
    {item : Pattern} (member : item ∈ items) (spoken : ¬ item.Silent) :
    ∃ first node last, place ≤ first ∧ last ≤ next ∧ I.Takes input item first node last := by
  induction fits with
  | nil => cases member
  | pass silent _ ih =>
      rcases List.mem_cons.mp member with rfl | member
      · exact absurd silent spoken
      · exact ih member
  | @take _ _ place middle next node _ takes behind ih =>
      rcases List.mem_cons.mp member with rfl | member
      · exact ⟨place, node, middle, Nat.le_refl _, (closed.chain behind).le forward, takes⟩
      · obtain ⟨first, node, last, from_, upto, takes'⟩ := ih member
        exact ⟨first, node, last, Nat.le_trans (forward (closed.ofPattern takes)) from_, upto, takes'⟩

theorem ofList (closed : I.Closed input) {values : List Node}
    (chain : Chain I.ofPattern place values next) :
    I.ofPattern place (Node.ofList values) next := by
  match values, chain with
  | [], chain => exact closed.many chain
  | [node], .cons here .nil => exact here
  | _ :: _ :: _, chain => exact closed.many chain

end Closed

end Interpretation

/-! ### Readings that keep the memory faithful -/

/-- All that is remembered of a symbol at a place may be its value. -/
def Memory.Faithful (I : Interpretation) (m : Memory) : Prop :=
  ∀ place known, m.known[place]? = some known → ∀ symbol node next,
    (symbol, some (node, next)) ∈ known → I.ofSymbol symbol place node next

/-- From a faithful memory the reading comes to a faithful one and to a result of some kind, or to a
fault. -/
def Yields {α : Type} (I : Interpretation) (reading : Reader α) (P : α → Prop) : Prop :=
  ∀ m, m.Faithful I → ∀ a m', reading m = .ok a m' → m'.Faithful I ∧ P a

/-- A result, if there is one, is one of these. -/
def Found (values : Node → Nat → Prop) (result : Option (Node × Nat)) : Prop :=
  ∀ node next, result = some (node, next) → values node next

theorem Found.none {values : Node → Nat → Prop} : Found values none := by
  rintro _ _ ⟨⟩

theorem Found.some {values : Node → Nat → Prop} {node : Node} {next : Nat}
    (found : values node next) : Found values (some (node, next)) := by
  rintro _ _ ⟨⟩
  exact found

namespace Yields

variable {α β : Type} {I : Interpretation} {P : α → Prop}

theorem pure {a : α} (holds : P a) : Yields I (pure a) P := by
  rintro m faithful _ _ ⟨⟩
  exact ⟨faithful, holds⟩

theorem weaken {reading : Reader α} {Q : α → Prop} (yields : Yields I reading P)
    (implies : ∀ a, P a → Q a) : Yields I reading Q := by
  intro m faithful a m' read
  obtain ⟨faithful', holds⟩ := yields m faithful a m' read
  exact ⟨faithful', implies a holds⟩

theorem throw {rejection : Rejection} : Yields I (throw rejection) P := by
  rintro m - _ _ ⟨⟩

theorem bind {reading : Reader α} {further : α → Reader β} {Q : β → Prop}
    (first : Yields I reading P) (then_ : ∀ a, P a → Yields I (further a) Q) :
    Yields I (reading >>= further) Q := by
  intro m faithful b m' read
  have read : EStateM.bind reading further m = .ok b m' := read
  rw [EStateM.bind] at read
  split at read
  · next a m₁ one =>
      obtain ⟨faithful₁, holds⟩ := first m faithful a m₁ one
      exact then_ a holds m₁ faithful₁ b m' read
  · cases read

/-- How far the tokens have been looked at is of no account. -/
theorem look (input : Input) (place : Nat) :
    Yields I (Match.look input place) fun t => t = input.tokenAt place := by
  unfold Match.look
  refine bind (P := fun _ => True) ?_ fun _ _ => ?_
  · rintro m faithful _ _ ⟨⟩
    exact ⟨faithful, trivial⟩
  · split
    · next t found => exact pure (by rw [Input.tokenAt, found]; rfl)
    · next absent =>
        split
        · exact throw
        · exact pure (by rw [Input.tokenAt, absent]; rfl)

theorem token (input : Input) (terminal : Terminal) (place : Nat) :
    Yields I (Match.token input terminal place) (Found (I.Takes input (.token terminal) place)) := by
  unfold Match.token
  refine bind (look input place) ?_
  rintro _ rfl
  split
  · next accepted =>
      have taken : I.Takes input (.token terminal) place (.token (input.tokenAt place)) (place + 1) :=
        ⟨accepted, rfl, rfl⟩
      split
      · split
        · exact bind (P := fun _ => True) throw fun _ _ => pure (.some taken)
        · exact pure (.some taken)
      · exact pure (.some taken)
  · exact pure .none

/-- What a faithful memory knows of a symbol has been found for it. -/
theorem kept (symbol : Symbol) (place : Nat) :
    Yields I (Match.kept symbol place)
      fun known => ∀ value ∈ known, Found (I.ofSymbol symbol place) value := by
  rintro m faithful _ _ ⟨⟩
  refine ⟨faithful, ?_⟩
  rintro _ found node next rfl
  obtain ⟨⟨symbol', _⟩, first, same⟩ := Option.map_eq_some_iff.mp found
  obtain rfl := same
  have asked := List.find?_some first
  simp only [beq_iff_eq] at asked
  subst asked
  have member := List.mem_of_find?_eq_some first
  cases known : m.known[place]? with
  | none =>
      rw [known] at member
      cases member
  | some entries =>
      rw [known] at member
      exact faithful place entries known _ node next member

/-- A memory stays faithful if what was found is remembered. -/
theorem remember {symbol : Symbol} {place : Nat} {value : Option (Node × Nat)}
    (found : Found (I.ofSymbol symbol place) value) :
    Yields I (Match.remember symbol place value) fun _ => True := by
  rintro m faithful _ _ ⟨⟩
  refine ⟨?_, trivial⟩
  intro there entries known symbol' node next member
  have known : (m.known.modify place ((symbol, value) :: ·))[there]? = some entries := known
  rw [Array.getElem?_modify] at known
  split at known
  · next same =>
      obtain rfl := same
      obtain ⟨before, held, rfl⟩ := Option.map_eq_some_iff.mp known
      rcases List.mem_cons.mp member with new | old
      · obtain ⟨rfl, rfl⟩ := Prod.mk.inj new
        exact found node next rfl
      · exact faithful place before held symbol' node next old
  · exact faithful there entries known symbol' node next member

/-- Of an alternative only what it makes of its values is asked, at any site that begins in the row. -/
theorem conclude {input : Input} {a : Alternative} {first place : Nat} {values : List Node}
    {result : Node → Nat → Prop} (concluded : ∀ site node, site.row = Match.rowAt input first →
      a.outcome site values = .ok (some node) → result node place) :
    Yields I (Match.conclude input a first place values) (Found result) := by
  unfold Match.conclude
  refine bind (P := fun _ => True) ?_ fun last _ => ?_
  · rintro m faithful _ _ ⟨⟩
    exact ⟨faithful, trivial⟩
  · dsimp only
    split
    · exact throw
    · next value outcome =>
        refine pure ?_
        rintro node next found
        obtain ⟨node, rfl, same⟩ := Option.map_eq_some_iff.mp found
        obtain ⟨rfl, rfl⟩ := Prod.mk.inj same
        exact concluded _ node rfl outcome

end Yields

/-! ### The matcher -/

/-- The values of patterns that have matched fit them, behind those in front. -/
def Fitted (I : Interpretation) (input : Input) (items : List Pattern) (front : List Node)
    (place : Nat) : Match.Parts → Prop
  | .done all next =>
    ∃ values, all = front.reverse ++ values ∧ I.Fits input items place values next
  | .failed _ => True

theorem Fitted.pass {I : Interpretation} {input : Input} {item : Pattern} {items : List Pattern}
    {front : List Node} {place : Nat} (silent : item.Silent) {parts : Match.Parts}
    (fitted : Fitted I input items front place parts) :
    Fitted I input (item :: items) front place parts := by
  cases parts with
  | failed _ => trivial
  | done all next =>
      obtain ⟨values, split, fits⟩ := fitted
      exact ⟨values, split, .pass silent fits⟩

theorem Fitted.take {I : Interpretation} {input : Input} {item : Pattern} {items : List Pattern}
    {front : List Node} {place middle : Nat} {node : Node}
    (takes : I.Takes input item place node middle) {parts : Match.Parts}
    (fitted : Fitted I input items (node :: front) middle parts) :
    Fitted I input (item :: items) front place parts := by
  cases parts with
  | failed _ => trivial
  | done all next =>
      obtain ⟨values, split, fits⟩ := fitted
      exact ⟨node :: values, by simpa using split, .take takes fits⟩

/-- The values of patterns with nothing in front make one value. -/
theorem Fitted.ofList {I : Interpretation} {input : Input} {items : List Pattern} {all : List Node}
    {place next : Nat} (fitted : Fitted I input items [] place (.done all next))
    (closed : I.Closed input) : I.ofPattern place (Node.ofList all) next := by
  obtain ⟨_, rfl, fits⟩ := fitted
  exact closed.ofList (closed.chain fits)

/-- What all functions of the matcher find if the rules may nest to the given depth; `front` holds the
values of what stands in front, which the matcher collects in reverse. -/
structure Finds (I : Interpretation) (g : Grammar) (input : Input) (depth : Nat) : Prop where
  rule : ∀ symbol place,
    Yields I (Match.rule g input depth false symbol place) (Found (I.ofSymbol symbol place))
  grow : ∀ symbol first node place, I.ofSymbol symbol first node place →
    Yields I (Match.grow g input depth false (g symbol).tails node first place)
      (Found (I.ofSymbol symbol first))
  alternatives : ∀ options front first place (result : Node → Nat → Prop),
    (∀ a ∈ options, a.mistake = false → ∀ {values next site node},
      I.Fits input a.items place values next → site.row = Match.rowAt input first →
      a.outcome site (front ++ values) = .ok (some node) → result node next) →
    Yields I (Match.alternatives g input depth false options front.reverse first place)
      (Found result)
  parts : ∀ items committed front place,
    Yields I (Match.parts g input depth false items committed front place)
      (Fitted I input items front place)
  choice : ∀ options place,
    Yields I (Match.choice g input depth false options place) (Found (I.ofPattern place))
  pattern : ∀ item place,
    Yields I (Match.pattern g input depth false item place) (Found (I.Takes input item place))
  loop : ∀ items front place,
    Yields I (Match.loop g input depth false items front place) fun found =>
      ∃ values, found.1 = front.reverse ++ values ∧ Chain I.ofPattern place values found.2

namespace Finds

variable {I : Interpretation} {g : Grammar} {input : Input} {depth : Nat}

theorem zero : Finds I g input 0 where
  rule _ _ := by
    rw [Match.rule]
    exact .pure .none
  grow symbol first node place holds := by
    rw [Match.grow]
    exact .pure (.some holds)
  alternatives _ _ _ _ _ _ := by
    rw [Match.alternatives]
    exact .pure .none
  parts _ _ _ _ := by
    rw [Match.parts]
    exact .pure trivial
  choice _ _ := by
    rw [Match.choice]
    exact .pure .none
  pattern _ _ := by
    rw [Match.pattern]
    exact .pure .none
  loop _ front _ := by
    rw [Match.loop]
    exact .pure ⟨[], by simp, .nil⟩

section Step

variable (closed : I.Closed input) (sound : I.Sound g input) (finds : Finds I g input depth)

include sound finds in
theorem rule_succ (symbol : Symbol) (place : Nat) :
    Yields I (Match.rule g input (depth + 1) false symbol place)
      (Found (I.ofSymbol symbol place)) := by
  rw [Match.rule]
  dsimp only
  -- whatever is found is remembered before it is returned
  have kept (value : Option (Node × Nat)) (found : Found (I.ofSymbol symbol place) value) :
      Yields I (do
        if (g symbol).remembered || !(g symbol).tails.isEmpty then
          Match.remember symbol place value
        pure value) (Found (I.ofSymbol symbol place)) := by
    dsimp only
    split
    · exact .bind (.remember found) fun _ _ => .pure found
    · exact .pure found
  refine .bind (P := fun known => ∀ value ∈ known, Found (I.ofSymbol symbol place) value) ?_
    fun known earlier => ?_
  · split
    · exact .kept symbol place
    · exact .pure (by rintro _ ⟨⟩)
  · split
    · next value => exact .pure (earlier value rfl)
    · rw [Bool.false_and]
      refine .bind (finds.alternatives (g symbol).alternatives [] place place _
        fun a member overlooked => sound.alternative symbol a member overlooked) fun value found => ?_
      split
      · next node next =>
          split
          · exact .bind (.pure found) kept
          · exact .bind (finds.grow symbol place node next (found node next rfl)) kept
      · exact .bind (.pure .none) kept

include sound finds in
theorem grow_succ {symbol : Symbol} {first place : Nat} {node : Node}
    (holds : I.ofSymbol symbol first node place) :
    Yields I (Match.grow g input (depth + 1) false (g symbol).tails node first place)
      (Found (I.ofSymbol symbol first)) := by
  rw [Match.grow]
  refine .bind (finds.alternatives (g symbol).tails [node] first place _
    fun a member overlooked _ _ _ _ => sound.tail symbol a member overlooked holds)
      fun value found => ?_
  split
  · next node' next => exact finds.grow symbol first node' next (found node' next rfl)
  · exact .pure (.some holds)

include finds in
theorem alternatives_succ {options : List Alternative} {front : List Node} {first place : Nat}
    {result : Node → Nat → Prop} (each : ∀ a ∈ options, a.mistake = false →
      ∀ {values next site node}, I.Fits input a.items place values next →
        site.row = Match.rowAt input first → a.outcome site (front ++ values) = .ok (some node) →
        result node next) :
    Yields I (Match.alternatives g input (depth + 1) false options front.reverse first place)
      (Found result) := by
  match options with
  | [] =>
      rw [Match.alternatives]
      exact .pure .none
  | a :: rest =>
      have others := finds.alternatives rest front first place result
        fun b member => each b (.tail a member)
      rw [Match.alternatives]
      split
      · exact others
      · next tried =>
          have overlooked : a.mistake = false := by simpa using tried
          refine .bind (finds.parts a.items false front.reverse place) fun parts fitted => ?_
          split
          · next all next =>
              obtain ⟨values, rfl, fits⟩ := fitted
              rw [List.reverse_reverse]
              exact .conclude fun site node here outcome =>
                each a (.head rest) overlooked fits here outcome
          · exact .pure .none
          · exact others

include finds in
theorem parts_succ (items : List Pattern) (committed : Bool) (front : List Node) (place : Nat) :
    Yields I (Match.parts g input (depth + 1) false items committed front place)
      (Fitted I input items front place) := by
  match items with
  | [] =>
      rw [Match.parts]
      exact .pure ⟨[], by simp, .nil⟩
  | item :: rest =>
      -- a pattern without a value leaves those in front as they are
      have passed (committed : Bool) (silent : item.Silent) :
          Yields I (Match.parts g input depth false rest committed front place)
            (Fitted I input (item :: rest) front place) :=
        (finds.parts rest committed front place).weaken fun _ => .pass silent
      rw [Match.parts.eq_def]
      dsimp only
      split
      · exact passed true trivial
      · next options =>
          refine .bind (finds.choice options place) fun found _ => ?_
          split
          · exact passed committed trivial
          · exact .pure trivial
      · next options =>
          refine .bind (finds.choice options place) fun found _ => ?_
          split
          · exact .pure trivial
          · exact passed committed trivial
      · refine .bind (finds.pattern item place) fun found took => ?_
        split
        · next value middle =>
            exact (finds.parts rest committed (value :: front) middle).weaken fun _ =>
              .take (took value middle rfl)
        · exact .pure trivial

include closed finds in
theorem choice_succ (options : List (List Pattern)) (place : Nat) :
    Yields I (Match.choice g input (depth + 1) false options place) (Found (I.ofPattern place)) := by
  match options with
  | [] =>
      rw [Match.choice]
      exact .pure .none
  | items :: rest =>
      rw [Match.choice]
      refine .bind (finds.parts items false [] place) fun parts fitted => ?_
      split
      · next all next => exact .pure (.some (fitted.ofList closed))
      · exact .pure .none
      · exact finds.choice rest place

include closed finds in
theorem loop_succ (items : List Pattern) (front : List Node) (place : Nat) :
    Yields I (Match.loop g input (depth + 1) false items front place) fun found =>
      ∃ values, found.1 = front.reverse ++ values ∧ Chain I.ofPattern place values found.2 := by
  rw [Match.loop]
  refine .bind (finds.parts items false [] place) fun parts fitted => ?_
  split
  · next all middle =>
      refine (finds.loop items (Node.ofList all :: front) middle).weaken ?_
      rintro ⟨_, next⟩ ⟨others, rfl, behind⟩
      exact ⟨Node.ofList all :: others, by simp, .cons (fitted.ofList closed) behind⟩
  · exact .pure ⟨[], by simp, .nil⟩

include closed finds in
theorem pattern_succ (item : Pattern) (place : Nat) :
    Yields I (Match.pattern g input (depth + 1) false item place) (Found (I.Takes input item place)) := by
  cases item with
  | token terminal =>
      rw [Match.pattern]
      exact .token input terminal place
  | rule symbol =>
      rw [Match.pattern]
      exact finds.rule symbol place
  | choice options =>
      rw [Match.pattern]
      exact finds.choice options place
  | optional items =>
      rw [Match.pattern]
      refine .bind (finds.parts items false [] place) fun parts fitted => ?_
      split
      · next all next => exact .pure (.some (fitted.ofList closed))
      · exact .pure (.some (closed.absent place))
  | many items =>
      rw [Match.pattern]
      refine .bind (finds.loop items [] place) ?_
      rintro ⟨_, next⟩ ⟨values, rfl, chain⟩
      exact .pure (.some (closed.many chain))
  | many1 items =>
      rw [Match.pattern]
      refine .bind (finds.loop items [] place) ?_
      rintro ⟨_, next⟩ ⟨values, rfl, chain⟩
      refine .pure ?_
      split
      · exact .none
      · exact .some (closed.many chain)
  | separated separator item =>
      rw [Match.pattern]
      refine .bind (finds.pattern item place) fun found took => ?_
      split
      · exact .pure .none
      · next first middle =>
          refine .bind (finds.loop _ [] middle) ?_
          rintro ⟨_, next⟩ ⟨values, rfl, chain⟩
          exact .pure (.some (closed.many (.cons (closed.ofPattern (took first middle rfl)) chain)))
  | require spelling =>
      rw [Match.pattern]
      refine .bind (.token input (.spelled spelling) place) fun found took => ?_
      split
      · next value =>
          refine .pure fun node next same => ?_
          exact closed.ofPattern (took node next same)
      · exact .throw
  | ahead _ | notAhead _ | commit =>
      rw [Match.pattern]
      exact .pure (.some (closed.absent place))

include sound finds in
theorem succ : Finds I g input (depth + 1) where
  rule := finds.rule_succ sound
  grow _ _ _ _ holds := finds.grow_succ sound holds
  alternatives _ _ _ _ _ each := finds.alternatives_succ each
  parts := finds.parts_succ
  choice := finds.choice_succ sound.toClosed
  pattern := finds.pattern_succ sound.toClosed
  loop := finds.loop_succ sound.toClosed

end Step

theorem of_sound (sound : I.Sound g input) (depth : Nat) : Finds I g input depth := by
  induction depth with
  | zero => exact zero
  | succ depth ih => exact ih.succ sound

end Finds

/-- **The matcher returns what the rules keep to**, if it does not look for mistakes. -/
theorem Interpretation.Sound.run {I : Interpretation} {g : Grammar} {input : Input}
    (sound : I.Sound g input) {symbol : Symbol} {reach next : Nat} {node : Node} {m : Memory}
    (matched : Match.run g input false symbol reach = .ok (some (node, next)) m) :
    I.ofSymbol symbol 0 node next := by
  have empty : (Match.fresh input reach).Faithful I := by
    intro place known here symbol node next member
    obtain ⟨inside, rfl⟩ := Array.getElem?_eq_some_iff.mp here
    simp [Match.fresh] at member
  exact ((Finds.of_sound sound (Match.bound input)).rule symbol 0 _ empty _ m matched).2 node next rfl

end Docwright.Source
