import Docwright.Source.Lexer
import Docwright.Source.Node
import Docwright.Source.Symbol

/-!
# Parsing expressions and how they are matched

A grammar gives each symbol a `Rule`: alternatives that are tried in order, the first that matches
being taken, and for a rule that begins with itself the `tails` by which what has matched may grow.
An alternative is a list of patterns and says what it builds from the parts that matched, or which
fault it stands for.

* Alternatives that stand for a mistake are tried only in a reading that looks for mistakes.
* The value of some symbols at a place is remembered, so that no place is read twice for them; what
  was found while mistakes were not looked for is remembered as well.
* `Memory.reach` counts the tokens that have been looked at.  Faults without a place of their own
  are reported at the last of them.
* A fault that an alternative reports ends the reading at once.

`Match.rule` and the functions with it take a bound on how deep they may nest, which
`Match.bound` chooses so that every chain of rules at every token fits in.
-/

namespace Docwright.Source

/-- What a single token is asked to be. -/
inductive Terminal
  | spelled (spelling : String)
  | soft (spelling : String)
  | anySoft
  | name
  | number
  | text
  | newline
  | indent
  | dedent
  | finish

/-- Whether a token is what is asked for: a spelling means a keyword or a mark, a soft spelling a
name. -/
def Terminal.accepts (terminal : Terminal) (t : Token) : Bool :=
  match terminal with
  | spelled s => (t.kind == .mark || t.kind == .keyword) && t.spelling == s
  | soft s => t.kind == .name && t.spelling == s
  | anySoft => t.kind == .name && softKeywords.contains t.spelling
  | name => t.kind == .name
  | number => t.kind == .number
  | text => t.kind == .text
  | newline => t.kind == .newline
  | indent => t.kind == .indent
  | dedent => t.kind == .dedent
  | finish => t.kind == .finish

/-- A parsing expression.  `require` asks for a mark whose absence is a fault, `commit` gives up the
alternatives that follow. -/
inductive Pattern
  | token (terminal : Terminal)
  | rule (symbol : Symbol)
  | optional (items : List Pattern)
  | many (items : List Pattern)
  | many1 (items : List Pattern)
  | separated (separator : String) (item : Pattern)
  | choice (alternatives : List (List Pattern))
  | ahead (alternatives : List (List Pattern))
  | notAhead (alternatives : List (List Pattern))
  | require (spelling : String)
  | commit

instance : Coe String Pattern := ⟨fun s => .token (.spelled s)⟩
instance : Coe Symbol Pattern := ⟨.rule⟩
instance : Coe Terminal Pattern := ⟨.token⟩

/-- What an alternative may know of the place it matched at: the row of its first token, the row of
the last token that was looked at, the brackets open after its last token, and how quoted text is
read. -/
structure Site where
  row : Nat
  lastRow : Nat
  depth : Nat
  literal : List Token → Except LiteralFault Literal

/-- An alternative of a rule.  Its outcome is a value, no match, or a fault. -/
structure Alternative where
  items : List Pattern
  mistake : Bool
  outcome : Site → List Node → Except Fault (Option Node)

/-- A rule: its alternatives, the tails by which a match may grow, whether its value at a place is
remembered, and whether mistakes are overlooked within it. -/
structure Rule where
  alternatives : List Alternative
  tails : List Alternative := []
  remembered : Bool := false
  quiet : Bool := false

/-- A grammar. -/
abbrev Grammar := Symbol → Rule

/-- Why a reading ended: a fault, which is final if the tokens themselves ended there. -/
structure Rejection where
  fault : Fault
  final : Bool

/-- What a reading remembers. -/
structure Memory where
  reach : Nat
  known : Array (List (Symbol × Option (Node × Nat)))

/-- What is read: the tokens, what is wrong after the last of them, and how quoted text is read. -/
structure Input where
  tokens : Array Token
  halt : Option Halt
  literal : List Token → Except LiteralFault Literal

/-- A step of a reading. -/
abbrev Reader := EStateM Rejection Memory

namespace Match

/-- The token at a place.  Behind the last token is the halt, or the end of the text again. -/
def look (input : Input) (place : Nat) : Reader Token := do
  modify fun m => { m with reach := max m.reach (place + 1) }
  match input.tokens[place]? with
  | some t => pure t
  | none =>
    match input.halt with
    | some halt => throw ⟨⟨halt.cause, halt.row⟩, true⟩
    | none => pure (input.tokens.back?.getD ⟨.finish, "", 0, 0⟩)

/-- The row of the token at a place that has been looked at; behind the last token it is that of the
last. -/
def rowAt (input : Input) (place : Nat) : Nat :=
  ((input.tokens[place]?.or input.tokens.back?).map Token.row).getD 0

/-- The row of the last token that was looked at. -/
def lastRow (input : Input) : Reader Nat := do
  pure (rowAt input ((← get).reach - 1))

/-- Matches one token; a number must not be too long to be converted. -/
def token (input : Input) (terminal : Terminal) (place : Nat) : Reader (Option (Node × Nat)) := do
  let t ← look input place
  if terminal.accepts t then
    if t.kind == .number then
      if let some cause := Number.tooLong? t.spelling.toList then
        throw ⟨⟨cause, t.row⟩, false⟩
    pure (some (.token t, place + 1))
  else pure none

/-- The remembered value of a symbol at a place. -/
def kept (symbol : Symbol) (place : Nat) : Reader (Option (Option (Node × Nat))) := do
  let known := (← get).known
  pure ((((known[place]?).getD []).find? (·.1 == symbol)).map (·.2))

/-- Remembers the value of a symbol at a place. -/
def remember (symbol : Symbol) (place : Nat) (value : Option (Node × Nat)) : Reader Unit :=
  modify fun m => { m with known := m.known.modify place ((symbol, value) :: ·) }

/-- The result of matching a list of patterns: the values and the place after them, or failure, with
whether the other alternatives were given up. -/
inductive Parts
  | done (values : List Node) (place : Nat)
  | failed (committed : Bool)

/-- The outcome of an alternative whose patterns have matched. -/
def conclude (input : Input) (alternative : Alternative) (first place : Nat) (values : List Node) :
    Reader (Option (Node × Nat)) := do
  let last ← lastRow input
  let depth := (input.tokens[place - 1]?.map Token.depth).getD 0
  match alternative.outcome ⟨rowAt input first, last, depth, input.literal⟩ values with
  | .error fault => throw ⟨fault, false⟩
  | .ok value => pure (value.map (·, place))

mutual

/-- Matches a symbol. -/
def rule (g : Grammar) (input : Input) :
    Nat → Bool → Symbol → Nat → Reader (Option (Node × Nat))
  | 0, _, _, _ => pure none
  | fuel + 1, mistakes, symbol, place => do
    let r := g symbol
    let keep := r.remembered || !r.tails.isEmpty
    if let some value ← (if keep then kept symbol place else pure none) then
      pure value
    else
      let mistakes := mistakes && !r.quiet
      let value ← alternatives g input fuel mistakes r.alternatives [] place place
      let value ← match value with
        | some (node, next) =>
          if r.tails.isEmpty then pure value
          else grow g input fuel mistakes r.tails node place next
        | none => pure none
      if keep then remember symbol place value
      pure value

/-- Lets a match grow by the tails of its rule as often as one of them matches. -/
def grow (g : Grammar) (input : Input) :
    Nat → Bool → List Alternative → Node → Nat → Nat → Reader (Option (Node × Nat))
  | 0, _, _, node, _, place => pure (some (node, place))
  | fuel + 1, mistakes, tails, node, first, place => do
    match ← alternatives g input fuel mistakes tails [node] first place with
    | some (node, next) => grow g input fuel mistakes tails node first next
    | none => pure (some (node, place))

/-- Matches the first of the alternatives that does match, behind the values of what stands before
it. -/
def alternatives (g : Grammar) (input : Input) :
    Nat → Bool → List Alternative → List Node → Nat → Nat → Reader (Option (Node × Nat))
  | 0, _, _, _, _, _ => pure none
  | _ + 1, _, [], _, _, _ => pure none
  | fuel + 1, mistakes, a :: rest, values, first, place => do
    if a.mistake && !mistakes then alternatives g input fuel mistakes rest values first place
    else
      match ← parts g input fuel mistakes a.items false values place with
      | .done values next => conclude input a first next values
      | .failed true => pure none
      | .failed false => alternatives g input fuel mistakes rest values first place

/-- Matches patterns one after the other; `values` are those so far, in reverse. -/
def parts (g : Grammar) (input : Input) :
    Nat → Bool → List Pattern → Bool → List Node → Nat → Reader Parts
  | 0, _, _, _, _, _ => pure (.failed false)
  | _ + 1, _, [], _, values, place => pure (.done values.reverse place)
  | fuel + 1, mistakes, p :: rest, committed, values, place =>
    match p with
    | .commit => parts g input fuel mistakes rest true values place
    | .ahead options => do
      match ← choice g input fuel mistakes options place with
      | some _ => parts g input fuel mistakes rest committed values place
      | none => pure (.failed committed)
    | .notAhead options => do
      match ← choice g input fuel mistakes options place with
      | some _ => pure (.failed committed)
      | none => parts g input fuel mistakes rest committed values place
    | p => do
      match ← pattern g input fuel mistakes p place with
      | some (value, next) => parts g input fuel mistakes rest committed (value :: values) next
      | none => pure (.failed committed)

/-- Matches the first of several lists of patterns that does match. -/
def choice (g : Grammar) (input : Input) :
    Nat → Bool → List (List Pattern) → Nat → Reader (Option (Node × Nat))
  | 0, _, _, _ => pure none
  | _ + 1, _, [], _ => pure none
  | fuel + 1, mistakes, items :: rest, place => do
    match ← parts g input fuel mistakes items false [] place with
    | .done values next => pure (some (Node.ofList values, next))
    | .failed true => pure none
    | .failed false => choice g input fuel mistakes rest place

/-- Matches one pattern that has a value. -/
def pattern (g : Grammar) (input : Input) :
    Nat → Bool → Pattern → Nat → Reader (Option (Node × Nat))
  | 0, _, _, _ => pure none
  | fuel + 1, mistakes, p, place =>
    match p with
    | .token terminal => token input terminal place
    | .rule symbol => rule g input fuel mistakes symbol place
    | .choice options => choice g input fuel mistakes options place
    | .optional items => do
      match ← parts g input fuel mistakes items false [] place with
      | .done values next => pure (some (Node.ofList values, next))
      | .failed _ => pure (some (.absent, place))
    | .many items => do
      let (values, next) ← loop g input fuel mistakes items [] place
      pure (some (.many values, next))
    | .many1 items => do
      let (values, next) ← loop g input fuel mistakes items [] place
      pure (if values.isEmpty then none else some (.many values, next))
    | .separated separator item => do
      match ← pattern g input fuel mistakes item place with
      | none => pure none
      | some (first, next) =>
        let (values, next) ← loop g input fuel mistakes [(separator : Pattern), item] [] next
        pure (some (.many (first :: values), next))
    | .require spelling => do
      match ← token input (.spelled spelling) place with
      | some value => pure (some value)
      | none => throw ⟨⟨.expected spelling, rowAt input place⟩, false⟩
    | .ahead _ | .notAhead _ | .commit => pure (some (.absent, place))

/-- Matches patterns as often as they do match; `values` are those so far, in reverse. -/
def loop (g : Grammar) (input : Input) :
    Nat → Bool → List Pattern → List Node → Nat → Reader (List Node × Nat)
  | 0, _, _, values, place => pure (values.reverse, place)
  | fuel + 1, mistakes, items, values, place => do
    match ← parts g input fuel mistakes items false [] place with
    | .done found next => loop g input fuel mistakes items (Node.ofList found :: values) next
    | .failed _ => pure (values.reverse, place)

end

/-- How deep the rules may nest: many times the number of symbols for each token. -/
def bound (input : Input) : Nat :=
  (input.tokens.size + 1) * 4096

/-- A memory before anything is read, but for how far an earlier reading looked. -/
def fresh (input : Input) (reach : Nat) : Memory :=
  ⟨reach, Array.replicate (input.tokens.size + 1) []⟩

/-- Reads the whole input as the given symbol. -/
def run (g : Grammar) (input : Input) (mistakes : Bool) (symbol : Symbol) (reach : Nat) :
    EStateM.Result Rejection Memory (Option (Node × Nat)) :=
  (rule g input (bound input) mistakes symbol 0).run (fresh input reach)

end Match

end Docwright.Source
