import Docwright.Source.Parser
import Docwright.Proofs.Source.Gathering
import Docwright.Proofs.Source.Matching
import Docwright.Proofs.Source.Tokens

/-!
# How definitions lie in a text

The row of a definition is that of its first keyword.  In the tree of a text a definition is never
above the one around it, and all that is within a statement is above whatever stands behind it in
the same body (`Stmt.LayeredIn`).  So the rows never go down, in the order in which the definitions
stand in the tree (`Stmt.pairwise_rowsIn`).

What makes it so is that each definition has a newline of its own in the end: it opens with a token,
and a newline follows before anything else can begin (`Input.Line`).  A newline parts what is before
it from what is behind it by a row, whatever the two are.  The parser puts the parts of a statement
in the order of the tokens they have matched, so this is a fact about spans of tokens (`Laid`), and
`layout` is the interpretation of the grammar it comes from: every symbol lays out its statements
within its span, and for a body, which is a block or a line of simple statements, a newline is within
the span.
-/

namespace Docwright.Source

namespace Stmt

mutual

/-- The rows of the definitions in a statement, in order. -/
def rows : Stmt → List Nat
  | classDef row _ body | functionDef row _ _ body => row :: rowsIn body
  | block body => rowsIn body
  | text _ | simple => []

/-- The rows of the definitions in a body, in order. -/
def rowsIn : List Stmt → List Nat
  | [] => []
  | s :: rest => rows s ++ rowsIn rest

end

mutual

/-- No definition within the statement is above the one around it. -/
def Layered : Stmt → Prop
  | classDef row _ body | functionDef row _ _ body => (∀ r ∈ rowsIn body, row ≤ r) ∧ LayeredIn body
  | block body => LayeredIn body
  | text _ | simple => True

/-- All that is within a statement is above what stands behind it, and the same holds of every body
within. -/
def LayeredIn : List Stmt → Prop
  | [] => True
  | s :: rest => (∀ r ∈ rows s, ∀ r' ∈ rowsIn rest, r < r') ∧ Layered s ∧ LayeredIn rest

end

theorem rowsIn_append (front back : List Stmt) :
    rowsIn (front ++ back) = rowsIn front ++ rowsIn back := by
  induction front with
  | nil => rw [rowsIn, List.nil_append, List.nil_append]
  | cons s rest ih => rw [List.cons_append, rowsIn, rowsIn, ih, List.append_assoc]

theorem layeredIn_append {front back : List Stmt} (above : LayeredIn front) (below : LayeredIn back)
    (parted : ∀ r ∈ rowsIn front, ∀ r' ∈ rowsIn back, r < r') : LayeredIn (front ++ back) := by
  induction front with
  | nil => exact below
  | cons s rest ih =>
      rw [LayeredIn] at above
      obtain ⟨first, inner, behind⟩ := above
      simp only [rowsIn, List.mem_append] at parted
      rw [List.cons_append, LayeredIn, rowsIn_append]
      refine ⟨fun r own r' member => ?_, inner, ih behind fun r member => parted r (.inr member)⟩
      rcases List.mem_append.mp member with near | far
      · exact first r own r' near
      · exact parted r (.inl own) r' far

mutual

theorem pairwise_rows (s : Stmt) (layered : s.Layered) : s.rows.Pairwise (· ≤ ·) := by
  match s with
  | classDef row _ body | functionDef row _ _ body =>
      rw [Layered] at layered
      rw [rows]
      exact List.pairwise_cons.mpr ⟨layered.1, pairwise_rowsIn body layered.2⟩
  | block body =>
      rw [Layered] at layered
      rw [rows]
      exact pairwise_rowsIn body layered
  | text _ | simple =>
      rw [rows]
      exact .nil

/-- **The rows of definitions never go down.** -/
theorem pairwise_rowsIn (body : List Stmt) (layered : LayeredIn body) :
    (rowsIn body).Pairwise (· ≤ ·) := by
  match body with
  | [] =>
      rw [rowsIn]
      exact .nil
  | s :: rest =>
      rw [LayeredIn] at layered
      obtain ⟨parted, inner, behind⟩ := layered
      rw [rowsIn]
      exact List.pairwise_append.mpr ⟨pairwise_rows s inner, pairwise_rowsIn rest behind,
        fun r own r' member => Nat.le_of_lt (parted r own r' member)⟩

end

end Stmt

/-! ### Spans of tokens -/

/-- A token that belongs to a line and does not end it. -/
def Token.Inner (t : Token) : Prop :=
  t.Placed ∧ t.kind ≠ .newline

namespace Input

variable {input : Input} {first next row : Nat}

/-- The tokens come in the order of their rows. -/
def Ordered (input : Input) : Prop :=
  input.tokens.toList.Pairwise Token.Leads

/-- A newline is among the tokens from one place up to another. -/
def Ends (input : Input) (first next : Nat) : Prop :=
  ∃ j, first ≤ j ∧ j < next ∧ (input.tokenAt j).kind = .newline

/-- A token of the row is among the tokens from one place up to another, and a newline behind it. -/
def Line (input : Input) (first next row : Nat) : Prop :=
  ∃ i, first ≤ i ∧ (input.tokenAt i).Inner ∧ (input.tokenAt i).row = row ∧ input.Ends (i + 1) next

theorem ordered_ofText (literal : List Token → Except LiteralFault Literal) (row : Nat)
    (text : List Char) : (Input.ofText literal row text).Ordered :=
  (Lexer.ascending_run row text).pairwise

/-- Behind the last token it is the last one again, so two places may have the same token. -/
theorem Ordered.leads (ordered : input.Ordered) {i j : Nat} (before : i < j) :
    input.tokenAt i = input.tokenAt j ∨ (input.tokenAt i).Leads (input.tokenAt j) := by
  have found (k : Nat) (inside : k < input.tokens.size) : input.tokenAt k = input.tokens[k] := by
    rw [Input.tokenAt, Array.getElem?_eq_getElem inside]
    rfl
  have behind (k : Nat) (outside : input.tokens.size ≤ k) :
      input.tokenAt k = input.tokenAt (input.tokens.size - 1) := by
    rw [Input.tokenAt, Input.tokenAt, Array.getElem?_eq_none outside, Array.back?_eq_getElem?]
    cases input.tokens[input.tokens.size - 1]? <;> rfl
  have leads (i j : Nat) (before : i < j) (inside : j < input.tokens.size) :
      (input.tokenAt i).Leads (input.tokenAt j) := by
    rw [found i (by omega), found j inside]
    exact List.pairwise_iff_getElem.mp ordered i j (by simpa using by omega) (by simpa) before
  by_cases inside : j < input.tokens.size
  · exact .inr (leads i j before inside)
  · rw [behind j (by omega)]
    rcases Nat.lt_trichotomy i (input.tokens.size - 1) with near | rfl | far
    · exact .inr (leads i _ near (by omega))
    · exact .inl rfl
    · exact .inl (behind i (by omega))

theorem Ends.widen {first' next' : Nat} (ends : input.Ends first next) (left : first' ≤ first)
    (right : next ≤ next') : input.Ends first' next' := by
  obtain ⟨j, from_, upto, newline⟩ := ends
  exact ⟨j, by omega, by omega, newline⟩

theorem Line.widen {first' next' : Nat} (line : input.Line first next row) (left : first' ≤ first)
    (right : next ≤ next') : input.Line first' next' row := by
  obtain ⟨i, from_, inner, here, ends⟩ := line
  exact ⟨i, by omega, inner, here, ends.widen (Nat.le_refl _) right⟩

theorem placed_newline {t : Token} (newline : t.kind = .newline) : t.Placed := by
  rw [Token.Placed, newline]
  exact ⟨nofun, nofun, nofun⟩

/-- A token is not below another one that stands behind it. -/
theorem Ordered.row_le (ordered : input.Ordered) {i j : Nat} (le : i ≤ j)
    (here : (input.tokenAt i).Placed) (there : (input.tokenAt j).Placed) :
    (input.tokenAt i).row ≤ (input.tokenAt j).row := by
  rcases Nat.eq_or_lt_of_le le with rfl | before
  · exact Nat.le_refl _
  · rcases ordered.leads before with same | leads
    · exact Nat.le_of_eq (congrArg Token.row same)
    · exact (leads here there).1

/-- Lines of two spans, one behind the other, are parted by a row. -/
theorem Ordered.row_lt (ordered : input.Ordered) {middle row' : Nat}
    (above : input.Line first middle row) (below : input.Line middle next row') : row < row' := by
  obtain ⟨i, -, begins, rfl, j, between, upto, newline⟩ := above
  obtain ⟨k, from_, begins', rfl, -⟩ := below
  have level := ordered.row_le (by omega : i ≤ j) begins.1 (placed_newline newline)
  rcases ordered.leads (by omega : j < k) with same | leads
  · exact absurd (same ▸ newline) begins'.2
  · exact Nat.lt_of_le_of_lt level ((leads (placed_newline newline) begins'.1).2 newline)

end Input

/-- The statements of a span: they are layered, and each definition has a line within the span. -/
structure Laid (input : Input) (first next : Nat) (body : List Stmt) : Prop where
  le : first ≤ next
  layered : Stmt.LayeredIn body
  line : ∀ row ∈ Stmt.rowsIn body, input.Line first next row

namespace Laid

variable {input : Input} {first middle next : Nat} {body : List Stmt}

/-- Where no definition is, nothing has to be in order. -/
theorem nil (le : first ≤ next) : Laid input first next [] :=
  ⟨le, by rw [Stmt.LayeredIn]; trivial, by rw [Stmt.rowsIn]; nofun⟩

theorem leaf (le : first ≤ next) {s : Stmt} (rows : s.rows = []) (layered : s.Layered) :
    Laid input first next [s] := by
  refine ⟨le, ?_, ?_⟩
  · rw [Stmt.LayeredIn, Stmt.rowsIn, Stmt.LayeredIn]
    exact ⟨fun _ _ => nofun, layered, trivial⟩
  · rw [Stmt.rowsIn, rows, Stmt.rowsIn]
    nofun

theorem widen {first' next' : Nat} (laid : Laid input first next body) (left : first' ≤ first)
    (right : next ≤ next') : Laid input first' next' body :=
  ⟨Nat.le_trans left (Nat.le_trans laid.le right), laid.layered,
    fun row member => (laid.line row member).widen left right⟩

theorem append (ordered : input.Ordered) {front back : List Stmt}
    (above : Laid input first middle front) (below : Laid input middle next back) :
    Laid input first next (front ++ back) where
  le := Nat.le_trans above.le below.le
  layered := Stmt.layeredIn_append above.layered below.layered fun _ here _ there =>
    ordered.row_lt (above.line _ here) (below.line _ there)
  line row member := by
    rw [Stmt.rowsIn_append] at member
    rcases List.mem_append.mp member with here | there
    · exact (above.line row here).widen (Nat.le_refl _) below.le
    · exact (below.line row there).widen above.le (Nat.le_refl _)

theorem block (laid : Laid input first next body) : Laid input first next [.block body] := by
  refine ⟨laid.le, ?_, ?_⟩
  · rw [Stmt.LayeredIn, Stmt.rowsIn, Stmt.Layered, Stmt.LayeredIn]
    exact ⟨fun _ _ => nofun, laid.layered, trivial⟩
  · rw [Stmt.rowsIn, Stmt.rows, Stmt.rowsIn, List.append_nil]
    exact laid.line

/-- A definition opens with the first token of its span. -/
theorem definition (ordered : input.Ordered) (laid : Laid input first next body)
    (begins : (input.tokenAt first).Inner) (ends : input.Ends first next) {s : Stmt}
    (rows : s.rows = (input.tokenAt first).row :: Stmt.rowsIn body)
    (layered : s.Layered ↔
      (∀ r ∈ Stmt.rowsIn body, (input.tokenAt first).row ≤ r) ∧ Stmt.LayeredIn body) :
    Laid input first next [s] where
  le := laid.le
  layered := by
    rw [Stmt.LayeredIn, Stmt.rowsIn, Stmt.LayeredIn]
    refine ⟨fun _ _ => nofun, layered.mpr ⟨fun r member => ?_, laid.layered⟩, trivial⟩
    obtain ⟨i, from_, inner, rfl, -⟩ := laid.line r member
    exact ordered.row_le from_ begins.1 inner.1
  line row member := by
    rw [Stmt.rowsIn, rows, Stmt.rowsIn, List.append_nil] at member
    rcases List.mem_cons.mp member with rfl | inside
    · obtain ⟨j, from_, upto, newline⟩ := ends
      -- the token itself is no newline
      have apart : first ≠ j := by
        rintro rfl
        exact begins.2 newline
      exact ⟨first, Nat.le_refl _, begins, rfl, j, by omega, upto, newline⟩
    · exact laid.line row inside

end Laid

/-! ### The grammar -/

/-- Every symbol lays out the statements of its value within its span, and a body ends a line. -/
def layout (input : Input) : Interpretation where
  ofSymbol symbol first node next :=
    Laid input first next node.statements ∧
      (symbol = .block ∨ symbol = .simpleStmts → input.Ends first next)
  ofPattern first node next := Laid input first next node.statements

section Grammar

variable {input : Input} {first next : Nat} {values : List Node}

theorem laid_chain (ordered : input.Ordered)
    (chain : Chain (layout input).ofPattern first values next) :
    Laid input first next (Node.statementsIn values) := by
  induction chain with
  | nil => exact .nil (Nat.le_refl _)
  | cons here _ ih => exact .append ordered here ih

theorem closed_layout (ordered : input.Ordered) : (layout input).Closed input where
  token _ := .nil (Nat.le_succ _)
  symbol := And.left
  absent _ := .nil (Nat.le_refl _)
  many chain := laid_chain ordered chain

/-- What is gathered from the parts is laid out within their span. -/
theorem laid_gathered (ordered : input.Ordered) {body : List Stmt}
    (chain : Chain (layout input).ofPattern first values next) (gathered : Gathered values body) :
    Laid input first next body := by
  have all := laid_chain ordered chain
  cases gathered with
  | none => exact .nil all.le
  | simple | text => exact .leaf all.le (by rw [Stmt.rows]) (by rw [Stmt.Layered]; trivial)
  | part member =>
      obtain ⟨_, _, from_, upto, laid⟩ := chain.exists_of_mem Laid.le member
      exact laid.widen from_ upto
  | all => exact all
  | block => exact all.block

/-- A newline among the patterns ends the span, and so does a body. -/
theorem ends_of_mem (ordered : input.Ordered) {items : List Pattern}
    (fits : (layout input).Fits input items first values next)
    (member : Grammar.newline ∈ items ∨ (Symbol.block : Pattern) ∈ items ∨
      (Symbol.simpleStmts : Pattern) ∈ items) : input.Ends first next := by
  have closed := closed_layout ordered
  rcases member with newline | body | body
  · obtain ⟨j, _, _, from_, upto, accepted, -, rfl⟩ :=
      closed.exists_of_mem Laid.le fits newline nofun
    exact ⟨j, from_, upto, eq_of_beq accepted⟩
  · obtain ⟨_, _, _, from_, upto, -, ends⟩ := closed.exists_of_mem Laid.le fits body nofun
    exact (ends (.inl rfl)).widen from_ upto
  · obtain ⟨_, _, _, from_, upto, -, ends⟩ := closed.exists_of_mem Laid.le fits body nofun
    exact (ends (.inr rfl)).widen from_ upto

/-- A keyword is a token that belongs to a line. -/
theorem inner_spelled {items : List Pattern} {word : String}
    (fits : (layout input).Fits input (.token (.spelled word) :: items) first values next) :
    (input.tokenAt first).Inner := by
  cases fits with
  | pass silent _ => cases silent
  | take takes _ =>
      obtain ⟨accepted, -, -⟩ := takes
      simp only [Terminal.accepts, Bool.and_eq_true, Bool.or_eq_true, beq_iff_eq] at accepted
      rw [Token.Inner, Token.Placed]
      rcases accepted.1 with mark | keyword
      · rw [mark]
        exact ⟨⟨nofun, nofun, nofun⟩, nofun⟩
      · rw [keyword]
        exact ⟨⟨nofun, nofun, nofun⟩, nofun⟩

/-- A definition opens with a keyword and has a body. -/
theorem laid_definition (ordered : input.Ordered) {items : List Pattern} {word : String} {row : Nat}
    (fits : (layout input).Fits input (.token (.spelled word) :: items) first values next)
    (body : (Symbol.block : Pattern) ∈ items) (here : row = Match.rowAt input first) {s : Stmt}
    (rows : s.rows = row :: Stmt.rowsIn (Node.statementsIn values))
    (layered : s.Layered ↔ (∀ r ∈ Stmt.rowsIn (Node.statementsIn values), row ≤ r) ∧
      Stmt.LayeredIn (Node.statementsIn values)) : Laid input first next [s] := by
  obtain rfl : row = (input.tokenAt first).row := here.trans (input.row_tokenAt first)
  have parts := laid_chain ordered ((closed_layout ordered).chain fits)
  exact parts.definition ordered (inner_spelled fits)
    (ends_of_mem ordered fits (.inr (.inl (.tail _ body)))) rows layered

variable {a : Alternative} {site : Site} {node : Node}

theorem laid_class (ordered : input.Ordered)
    (member : a ∈ (Grammar.grammar .bareClassDef).alternatives) (overlooked : a.mistake = false)
    (fits : (layout input).Fits input a.items first values next)
    (here : site.row = Match.rowAt input first) (outcome : a.outcome site values = .ok (some node)) :
    Laid input first next node.statements := by
  rcases member with _ | ⟨_, _ | ⟨_, member⟩⟩
  · cases overlooked
  · cases outcome
    exact laid_definition ordered fits (by simp) here (by rw [Stmt.rows]) (by rw [Stmt.Layered])
  · cases member

theorem laid_function (ordered : input.Ordered)
    (member : a ∈ (Grammar.grammar .bareFunctionDef).alternatives) (overlooked : a.mistake = false)
    (fits : (layout input).Fits input a.items first values next)
    (here : site.row = Match.rowAt input first) (outcome : a.outcome site values = .ok (some node)) :
    Laid input first next node.statements := by
  rcases member with _ | ⟨_, _ | ⟨_, _ | ⟨_, member⟩⟩⟩
  · cases overlooked
  · cases outcome
    exact laid_definition ordered fits (by simp) here (by rw [Stmt.rows]) (by rw [Stmt.Layered])
  · cases outcome
    exact laid_definition ordered fits (by simp) here (by rw [Stmt.rows]) (by rw [Stmt.Layered])
  · cases member

/-- A block and a line of simple statements end in a newline. -/
theorem ends_body (ordered : input.Ordered) {symbol : Symbol}
    (body : symbol = .block ∨ symbol = .simpleStmts)
    (member : a ∈ (Grammar.grammar symbol).alternatives) (overlooked : a.mistake = false)
    (fits : (layout input).Fits input a.items first values next) : input.Ends first next := by
  rcases body with rfl | rfl
  · rcases member with _ | ⟨_, _ | ⟨_, _ | ⟨_, member⟩⟩⟩
    · exact ends_of_mem ordered fits (.inl (.head _))
    · exact ends_of_mem ordered fits (.inr (.inr (.head _)))
    · cases overlooked
    · cases member
  · rcases member with _ | ⟨_, _ | ⟨_, member⟩⟩
    · exact ends_of_mem ordered fits (.inl (.tail _ (.tail _ (.head _))))
    · exact ends_of_mem ordered fits (.inl (.tail _ (.tail _ (.head _))))
    · cases member

theorem laid_alternative (ordered : input.Ordered) {symbol : Symbol}
    (member : a ∈ (Grammar.grammar symbol).alternatives) (overlooked : a.mistake = false)
    (fits : (layout input).Fits input a.items first values next)
    (here : site.row = Match.rowAt input first) (outcome : a.outcome site values = .ok (some node)) :
    Laid input first next node.statements := by
  by_cases ofClass : symbol = .bareClassDef
  · subst ofClass
    exact laid_class ordered member overlooked fits here outcome
  · by_cases ofFunction : symbol = .bareFunctionDef
    · subst ofFunction
      exact laid_function ordered member overlooked fits here outcome
    · have gathers := (Grammar.gathers_grammar ofClass ofFunction).alternatives a member
      exact laid_gathered ordered ((closed_layout ordered).chain fits)
        (gathers overlooked site values node outcome)

/-- A rule with tails has neither definitions nor bodies. -/
theorem laid_tail (ordered : input.Ordered) {symbol : Symbol} {middle : Nat} {front : Node}
    (member : a ∈ (Grammar.grammar symbol).tails) (overlooked : a.mistake = false)
    (grown : Laid input first middle front.statements)
    (fits : (layout input).Fits input a.items middle values next)
    (outcome : a.outcome site (front :: values) = .ok (some node)) :
    Laid input first next node.statements := by
  have noClass : symbol ≠ .bareClassDef := by
    rintro rfl
    cases member
  have noFunction : symbol ≠ .bareFunctionDef := by
    rintro rfl
    cases member
  have gathers := (Grammar.gathers_grammar noClass noFunction).tails a member
  exact laid_gathered ordered (.cons grown ((closed_layout ordered).chain fits))
    (gathers overlooked site (front :: values) node outcome)

/-- **The grammar lays out its statements.** -/
theorem sound_layout (ordered : input.Ordered) :
    (layout input).Sound Grammar.grammar input where
  toClosed := closed_layout ordered
  alternative _ _ member overlooked _ _ _ _ _ fits here outcome :=
    ⟨laid_alternative ordered member overlooked fits here outcome,
      fun body => ends_body ordered body member overlooked fits⟩
  tail _ _ member overlooked _ _ _ _ _ _ _ grown fits _ outcome :=
    ⟨laid_tail ordered member overlooked grown.1 fits outcome, by
      rintro (rfl | rfl) <;> cases member⟩

end Grammar

/-- **The tree of a text is layered.** -/
theorem layered_parse {text : List Char} {body : List Stmt} (parsed : parse text = .ok body) :
    Stmt.LayeredIn body := by
  unfold parse at parsed
  split at parsed
  · cases parsed
  · split at parsed
    · next node read =>
        obtain rfl := Except.ok.inj parsed
        unfold Input.read at read
        split at read
        · next next m matched =>
            obtain rfl := Except.ok.inj read
            exact ((sound_layout (Input.ordered_ofText _ 0 text)).run matched).1.layered
        · cases read
        · cases read
    · cases parsed

end Docwright.Source
