import Docwright.Source.Pattern

/-!
# The words the grammar is written in

An alternative is written as its patterns and what comes of them: the row it starts at (`plain`),
the value of its first part (`pass`) or of another part (`nth`), an expression, statements, or a
fault (`refuse`, with the ways to say where it is reported).  `mistake` tries a symbol that stands
for a mistake.
-/

namespace Docwright.Source.Grammar

/-- What builds a node from the row of the first token and the values of the parts. -/
abbrev Build := Nat → List Node → Node

/-- An alternative with the node it builds. -/
def alt (items : List Pattern) (build : Build) : Alternative :=
  ⟨items, false, fun site values => .ok (some (build site.row values))⟩

/-- An alternative of which only the place matters. -/
def plain (items : List Pattern) : Alternative :=
  alt items fun row _ => .place row

/-- An alternative that has the value of one of its parts. -/
def nth (i : Nat) (items : List Pattern) : Alternative :=
  alt items fun _ values => values.getD i .absent

/-- An alternative that has the value of its first part. -/
def pass (items : List Pattern) : Alternative :=
  nth 0 items

/-- An expression of a form. -/
def form (f : Form) (items : List Pattern) : Alternative :=
  alt items fun row _ => .expr (.form row f)

/-- The statements of all parts. -/
def body (items : List Pattern) : Alternative :=
  alt items fun _ values => .stmts (Node.statementsIn values)

/-- A statement of one line. -/
def simple (items : List Pattern) : Alternative :=
  alt items fun _ _ => .stmts [.simple]

/-- A statement with bodies, which are those of all parts. -/
def suite (items : List Pattern) : Alternative :=
  alt items fun _ values => .stmts [.block (Node.statementsIn values)]

/-- A tuple of the expressions of all parts. -/
def tuple (items : List Pattern) : Alternative :=
  alt items fun row values => .expr (.tuple row (Node.exprsIn values))

/-- The expression behind a star. -/
def starred (items : List Pattern) : Alternative :=
  alt items fun row values =>
    .expr (.starred row ((Node.exprsIn values).headD (.form row .literal)))

/-- A symbol that stands for a mistake. -/
def mistake (symbol : Symbol) : Alternative :=
  ⟨[symbol], true, fun _ values => .ok values.head?⟩

/-- An alternative that is a fault, unless `fault` finds none. -/
def refuseIf (items : List Pattern) (fault : Site → List Node → Option Fault) : Alternative :=
  ⟨items, false, fun site values =>
    match fault site values with
    | some f => .error f
    | none => .ok none⟩

/-- A fault that is reported at the last token that was looked at. -/
def refuse (items : List Pattern) (cause : Cause) : Alternative :=
  refuseIf items fun site _ => some ⟨cause, site.lastRow⟩

/-- The row of a part. -/
def rowOf (i : Nat) (site : Site) (values : List Node) : Nat :=
  ((values.getD i .absent).row?).getD site.row

/-- A fault that is reported where a part starts. -/
def refuseAt (i : Nat) (items : List Pattern) (cause : Cause) : Alternative :=
  refuseIf items fun site values => some ⟨cause, rowOf i site values⟩

/-- The first expression of a part. -/
def exprOf (i : Nat) (values : List Node) : Option Expr :=
  (values.getD i .absent).exprs.head?

/-- A fault about the expression of a part, reported where it starts. -/
def refuseExpr (i : Nat) (items : List Pattern) (cause : String → Cause) : Alternative :=
  refuseIf items fun _ values =>
    (exprOf i values).map fun e => ⟨cause e.describe, e.row⟩

/-- A fault about the part of an expression that cannot be a target, if there is one. -/
def refuseTarget (place : TargetPlace) (i : Nat) (items : List Pattern) : Alternative :=
  refuseIf items fun _ values =>
    ((exprOf i values).bind (invalidTarget? place)).map fun e =>
      ⟨if place = .deletion then .cannotDelete e.describe else .cannotAssign e.describe, e.row⟩

/-- A missing body, reported at the last token that was looked at, with the line of the keyword of
the statement. -/
def refuseBody (i : Nat) (items : List Pattern) (owner : String) : Alternative :=
  refuseIf items fun site values =>
    some ⟨.missingBody owner (rowOf i site values + 1), site.lastRow⟩

/-! ### Rules -/

/-- A rule that has alternatives only. -/
def oneOf (alternatives : List Alternative) : Rule :=
  { alternatives := alternatives }

/-- A rule whose value at a place is remembered. -/
def kept (alternatives : List Alternative) : Rule :=
  { alternatives := alternatives, remembered := true }

/-- A rule within which mistakes are overlooked. -/
def quietly (alternatives : List Alternative) : Rule :=
  { alternatives := alternatives, quiet := true }

/-- A rule whose match grows by the tails. -/
def growing (alternatives tails : List Alternative) : Rule :=
  { alternatives := alternatives, tails := tails }

/-! ### Short names for patterns -/

def opt (items : List Pattern) : Pattern := .optional items
def many (items : List Pattern) : Pattern := .many items
def many1 (items : List Pattern) : Pattern := .many1 items
def commas (item : Pattern) : Pattern := .separated "," item
def any (options : List (List Pattern)) : Pattern := .choice options
def ahead (items : List Pattern) : Pattern := .ahead [items]
def notAhead (items : List Pattern) : Pattern := .notAhead [items]
def aheadOf (options : List Pattern) : Pattern := .ahead (options.map fun p => [p])
def notAheadOf (options : List Pattern) : Pattern := .notAhead (options.map fun p => [p])
def must (spelling : String) : Pattern := .require spelling
def aName : Pattern := .token .name
def aNumber : Pattern := .token .number
def aText : Pattern := .token .text
def newline : Pattern := .token .newline
def indent : Pattern := .token .indent
def dedent : Pattern := .token .dedent

end Docwright.Source.Grammar
