import Docwright.Source.Grammar.Statements

/-!
# Which statements a rule builds

Classes and functions are built by two rules.  All others gather: the statements in what an
alternative builds are those of one of its parts, those of all parts in order, perhaps as the bodies
of one statement, or one of the statements that hold no others (`Gathered`).

There is one lemma for each word the grammar is written in, and then one for each of its tables.
-/

namespace Docwright.Source

/-- The statements come from the parts without a definition of their own. -/
inductive Gathered (parts : List Node) : List Stmt → Prop
  | none : Gathered parts []
  | simple : Gathered parts [.simple]
  | text (value : String) : Gathered parts [.text value]
  | part {node : Node} (member : node ∈ parts) : Gathered parts node.statements
  | all : Gathered parts (Node.statementsIn parts)
  | block : Gathered parts [.block (Node.statementsIn parts)]

/-- What the alternative builds has statements from the parts only; those that stand for a mistake
are left out. -/
def Alternative.Gathers (a : Alternative) : Prop :=
  a.mistake = false → ∀ site parts node, a.outcome site parts = .ok (some node) →
    Gathered parts node.statements

/-- All alternatives and all tails gather. -/
structure Rule.Gathers (r : Rule) : Prop where
  alternatives : ∀ a ∈ r.alternatives, a.Gathers
  tails : ∀ a ∈ r.tails, a.Gathers

namespace Grammar

/-! ### Alternatives -/

theorem gathers_alt {items : List Pattern} {build : Build}
    (gathered : ∀ row parts, Gathered parts (build row parts).statements) :
    (alt items build).Gathers := by
  rintro - site parts _ ⟨⟩
  exact gathered site.row parts

/-- Most of what is built has no statements. -/
theorem gathers_bare {items : List Pattern} {build : Build}
    (bare : ∀ row parts, (build row parts).statements = []) : (alt items build).Gathers :=
  gathers_alt fun row parts => bare row parts ▸ .none

@[simp]
theorem gathers_plain (items : List Pattern) : (plain items).Gathers :=
  gathers_bare fun _ _ => rfl

@[simp]
theorem gathers_nth (i : Nat) (items : List Pattern) : (nth i items).Gathers :=
  gathers_alt fun _ parts => by
    rw [List.getD_eq_getElem?_getD]
    cases found : parts[i]? with
    | none => exact .none
    | some node => exact .part (List.mem_of_getElem? found)

@[simp]
theorem gathers_pass (items : List Pattern) : (pass items).Gathers :=
  gathers_nth 0 items

@[simp]
theorem gathers_form (f : Form) (items : List Pattern) : (form f items).Gathers :=
  gathers_bare fun _ _ => rfl

@[simp]
theorem gathers_tuple (items : List Pattern) : (tuple items).Gathers :=
  gathers_bare fun _ _ => rfl

@[simp]
theorem gathers_starred (items : List Pattern) : (starred items).Gathers :=
  gathers_bare fun _ _ => rfl

@[simp]
theorem gathers_body (items : List Pattern) : (body items).Gathers :=
  gathers_alt fun _ _ => .all

@[simp]
theorem gathers_simple (items : List Pattern) : (simple items).Gathers :=
  gathers_alt fun _ _ => .simple

@[simp]
theorem gathers_suite (items : List Pattern) : (suite items).Gathers :=
  gathers_alt fun _ _ => .block

@[simp]
theorem gathers_mistake (symbol : Symbol) : (mistake symbol).Gathers :=
  nofun

/-- A fault is no value. -/
@[simp]
theorem gathers_refuseIf (items : List Pattern) (fault : Site → List Node → Option Fault) :
    (refuseIf items fault).Gathers := by
  intro _ site parts node built
  dsimp only [refuseIf] at built
  split at built <;> cases built

@[simp]
theorem gathers_refuse (items : List Pattern) (cause : Cause) : (refuse items cause).Gathers :=
  gathers_refuseIf items _

@[simp]
theorem gathers_refuseAt (i : Nat) (items : List Pattern) (cause : Cause) :
    (refuseAt i items cause).Gathers :=
  gathers_refuseIf items _

@[simp]
theorem gathers_refuseExpr (i : Nat) (items : List Pattern) (cause : String → Cause) :
    (refuseExpr i items cause).Gathers :=
  gathers_refuseIf items _

@[simp]
theorem gathers_refuseTarget (place : TargetPlace) (i : Nat) (items : List Pattern) :
    (refuseTarget place i items).Gathers :=
  gathers_refuseIf items _

@[simp]
theorem gathers_refuseBody (i : Nat) (items : List Pattern) (owner : String) :
    (refuseBody i items owner).Gathers :=
  gathers_refuseIf items _

@[simp]
theorem gathers_comparison (items : List Pattern) : (alt items comparisonOf).Gathers :=
  gathers_bare fun _ _ => rfl

@[simp]
theorem gathers_args (items : List Pattern) : (alt items argsOf).Gathers :=
  gathers_bare fun _ _ => rfl

@[simp]
theorem gathers_keywordArgs (items : List Pattern) : (alt items keywordArgsOf).Gathers :=
  gathers_bare fun _ _ => rfl

@[simp]
theorem gathers_texts (items : List Pattern) :
    Alternative.Gathers ⟨items, false, textOf⟩ := by
  intro _ site parts node built
  dsimp only [textOf] at built
  split at built <;> cases built <;> exact .none

@[simp]
theorem gathers_numberOfKind (imaginary : Bool) (cause : Cause) :
    (numberOfKind imaginary cause).Gathers := by
  intro _ site parts node built
  dsimp only [numberOfKind] at built
  split at built <;> cases built
  exact .none

@[simp]
theorem gathers_expressionStatement (items : List Pattern) :
    (alt items expressionStatement).Gathers :=
  gathers_alt fun row parts => by
    unfold expressionStatement
    split
    · exact .text _
    · exact .simple

@[simp]
theorem gathers_slashParams (items : List Pattern) : (alt items slashParams).Gathers :=
  gathers_bare fun _ parts => by cases parts <;> rfl

@[simp]
theorem gathers_plainParams (items : List Pattern) : (alt items plainParams).Gathers :=
  gathers_bare fun _ _ => rfl

@[simp]
theorem gathers_variadicParams (items : List Pattern) : (alt items variadicParams).Gathers :=
  gathers_bare fun _ parts => by rcases parts with _ | ⟨_, _ | ⟨_, _⟩⟩ <;> rfl

@[simp]
theorem gathers_keywordParams (items : List Pattern) : (alt items keywordParams).Gathers :=
  gathers_bare fun _ _ => rfl

@[simp]
theorem gathers_doubleStar (items : List Pattern) : (alt items doubleStarOf).Gathers :=
  gathers_bare fun _ _ => rfl

@[simp]
theorem gathers_param (items : List Pattern) : (alt items paramOf).Gathers :=
  gathers_bare fun _ _ => rfl

@[simp]
theorem gathers_many (items : List Pattern) : (alt items fun _ parts => .many parts).Gathers :=
  gathers_alt fun _ _ => .all

@[simp]
theorem gathers_expr (items : List Pattern) (e : Nat → List Node → Expr) :
    (alt items fun row parts => .expr (e row parts)).Gathers :=
  gathers_bare fun _ _ => rfl

/-! ### Rules -/

section Rules

variable {alternatives tails : List Alternative}

@[simp]
theorem gathers_oneOf : (oneOf alternatives).Gathers ↔ ∀ a ∈ alternatives, a.Gathers :=
  ⟨Rule.Gathers.alternatives, fun each => ⟨each, nofun⟩⟩

@[simp]
theorem gathers_kept : (kept alternatives).Gathers ↔ ∀ a ∈ alternatives, a.Gathers :=
  ⟨Rule.Gathers.alternatives, fun each => ⟨each, nofun⟩⟩

@[simp]
theorem gathers_quietly : (quietly alternatives).Gathers ↔ ∀ a ∈ alternatives, a.Gathers :=
  ⟨Rule.Gathers.alternatives, fun each => ⟨each, nofun⟩⟩

@[simp]
theorem gathers_growing : (growing alternatives tails).Gathers ↔
    (∀ a ∈ alternatives, a.Gathers) ∧ ∀ a ∈ tails, a.Gathers :=
  ⟨fun r => ⟨r.alternatives, r.tails⟩, fun each => ⟨each.1, each.2⟩⟩

end Rules

theorem gathers_mistakeRules (symbol : Symbol) : (mistakeRules symbol).Gathers := by
  unfold mistakeRules
  split <;> simp [parameterMistakes, starMistakes, doubleStarMistakes]

theorem gathers_targetRules (symbol : Symbol) : (targetRules symbol).Gathers := by
  unfold targetRules
  split <;> simp [gathers_mistakeRules]

theorem gathers_expressionRules (symbol : Symbol) : (expressionRules symbol).Gathers := by
  unfold expressionRules
  split <;> simp [gathers_targetRules]

theorem gathers_patternRules (symbol : Symbol) : (patternRules symbol).Gathers := by
  unfold patternRules
  split <;> simp [constants, gathers_expressionRules]

/-- All rules gather but those for a class and for a function. -/
theorem gathers_grammar {symbol : Symbol} (noClass : symbol ≠ .bareClassDef)
    (noFunction : symbol ≠ .bareFunctionDef) : (grammar symbol).Gathers := by
  unfold grammar
  split <;> first
    | exact absurd rfl noClass
    | exact absurd rfl noFunction
    | simp [gathers_patternRules]

end Grammar

end Docwright.Source
