/-!
# The tree of a program

What the checks and the error messages need to know of a program.  Of statements that is which
definitions there are, how they nest, and which statement is a bare text; of expressions it is their
form, the parts through which a target is searched, and the row they start at.
-/

namespace Docwright.Source

/-- The forms of expression that are told apart by name only. -/
inductive Form
  | member
  | subscript
  | lambda
  | call
  | operation
  | generator
  | yielding
  | awaiting
  | listComprehension
  | setComprehension
  | dictComprehension
  | dict
  | set
  | template
  | literal
  | none
  | false
  | true
  | ellipsis
  | conditional
  | naming
  deriving Repr, DecidableEq

/-- What an error message calls an expression of the form. -/
def Form.describe : Form → String
  | member => "attribute"
  | subscript => "subscript"
  | lambda => "lambda"
  | call => "function call"
  | operation => "expression"
  | generator => "generator expression"
  | yielding => "yield expression"
  | awaiting => "await expression"
  | listComprehension => "list comprehension"
  | setComprehension => "set comprehension"
  | dictComprehension => "dict comprehension"
  | dict => "dict literal"
  | set => "set display"
  | template => "f-string expression"
  | literal => "literal"
  | none => "None"
  | false => "False"
  | true => "True"
  | ellipsis => "ellipsis"
  | conditional => "conditional expression"
  | naming => "named expression"

/-- An expression with the row it starts at.  A comparison knows its left side and whether its
first operator asks for membership. -/
inductive Expr
  | name (row : Nat) (id : String)
  | tuple (row : Nat) (items : List Expr)
  | list (row : Nat) (items : List Expr)
  | starred (row : Nat) (item : Expr)
  | comparison (row : Nat) (left : Expr) (membership : Bool)
  | text (row : Nat) (value : String)
  | form (row : Nat) (form : Form)
  deriving Repr

namespace Expr

/-- The row an expression starts at. -/
def row : Expr → Nat
  | name row _ | tuple row _ | list row _ | starred row _ | comparison row _ _ | text row _
  | form row _ => row

/-- What an error message calls the expression. -/
def describe : Expr → String
  | name .. => "name"
  | tuple .. => "tuple"
  | list .. => "list"
  | starred .. => "starred"
  | comparison .. => "comparison"
  | text .. => "literal"
  | form _ f => f.describe

end Expr

/-- Where a target stands: in an assignment, behind `for`, or behind `del`. -/
inductive TargetPlace
  | assignment
  | loop
  | deletion
  deriving DecidableEq

mutual

/-- The first part of an expression that cannot be a target at the given place. -/
def invalidTarget? (place : TargetPlace) : Expr → Option Expr
  | .tuple _ items | .list _ items => invalidTargetIn? place items
  | .starred row item =>
    if place = .deletion then some (.starred row item) else invalidTarget? place item
  | .comparison row left membership =>
    if place = .loop then
      if membership then invalidTarget? place left else none
    else some (.comparison row left membership)
  | .name .. => none
  | .form row f => if f = .member ∨ f = .subscript then none else some (.form row f)
  | .text row value => some (.text row value)

/-- The first part of a list of expressions that cannot be a target at the given place. -/
def invalidTargetIn? (place : TargetPlace) : List Expr → Option Expr
  | [] => none
  | e :: rest => (invalidTarget? place e).or (invalidTargetIn? place rest)

end

/-- The parameters of a function, by the way they take an argument. -/
structure Parameters where
  positionalOnly : List String := []
  positional : List String := []
  keywordOnly : List String := []
  variadic : Option String := none
  keywordVariadic : Option String := none
  deriving Repr, DecidableEq

/-- A statement.  `block` is any other statement with bodies of its own (`if`, `for`, `while`,
`with`, `try`, `match`) and holds the statements of all of them in order; `text` is an expression
statement that is a single text constant; `simple` is any other statement of one line.  The row of a
definition is that of its first keyword, not of a decorator. -/
inductive Stmt
  | classDef (row : Nat) (name : String) (body : List Stmt)
  | functionDef (row : Nat) (name : String) (params : Parameters) (body : List Stmt)
  | block (body : List Stmt)
  | text (value : String)
  | simple
  deriving Repr

end Docwright.Source
