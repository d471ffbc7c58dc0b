import Docwright.Source.Literal
import Docwright.Source.Tree
import Docwright.Text.Normal

/-!
# What the rules of the grammar build

A rule builds a `Node` from those of its parts: a part of the tree, the token itself, or, where
nothing else is asked of it, the row it starts at.
-/

namespace Docwright.Source

/-- The value of a part of the text. -/
inductive Node
  | absent
  | place (row : Nat)
  | token (t : Token)
  | expr (e : Expr)
  | param (row : Nat) (name : String)
  | params (p : Parameters)
  | args (row : Nat) (positional : List Expr) (unpacking : Bool)
  | stmts (body : List Stmt)
  | many (nodes : List Node)

namespace Node

/-- One value stands for itself, several are kept together. -/
def ofList : List Node → Node
  | [node] => node
  | nodes => many nodes

mutual

/-- The row a node starts at, where that is known. -/
def row? : Node → Option Nat
  | place row | param row _ | args row _ _ => some row
  | token t => some t.row
  | expr e => some e.row
  | many nodes => rowIn? nodes
  | absent | params _ | stmts _ => none

/-- The row of the first node whose row is known. -/
def rowIn? : List Node → Option Nat
  | [] => none
  | node :: rest => (row? node).or (rowIn? rest)

end

mutual

/-- The expressions in a node, in order. -/
def exprs : Node → List Expr
  | expr e => [e]
  | many nodes => exprsIn nodes
  | _ => []

/-- The expressions in a list of nodes, in order. -/
def exprsIn : List Node → List Expr
  | [] => []
  | node :: rest => exprs node ++ exprsIn rest

end

mutual

/-- The names of the parameters in a node, in order. -/
def paramNames : Node → List String
  | param _ name => [name]
  | many nodes => paramNamesIn nodes
  | _ => []

/-- The names of the parameters in a list of nodes, in order. -/
def paramNamesIn : List Node → List String
  | [] => []
  | node :: rest => paramNames node ++ paramNamesIn rest

end

mutual

/-- The statements in a node, in order. -/
def statements : Node → List Stmt
  | stmts body => body
  | many nodes => statementsIn nodes
  | _ => []

/-- The statements in a list of nodes, in order. -/
def statementsIn : List Node → List Stmt
  | [] => []
  | node :: rest => statements node ++ statementsIn rest

end

mutual

/-- The tokens in a node, in order. -/
def tokens : Node → List Token
  | token t => [t]
  | many nodes => tokensIn nodes
  | _ => []

/-- The tokens in a list of nodes, in order. -/
def tokensIn : List Node → List Token
  | [] => []
  | node :: rest => tokens node ++ tokensIn rest

end

/-- The name a token spells: spellings with one compatibility normal form are one name. -/
def nameOf (t : Token) : String :=
  String.ofList (Text.Normal.ofIdentifier t.spelling.toList)

/-- The first name among nodes. -/
def nameIn (nodes : List Node) : String :=
  (((tokensIn nodes).find? (·.kind == .name)).map nameOf).getD ""

/-- The parameters among nodes; without any there are none. -/
def paramsIn : List Node → Parameters
  | [] => {}
  | params p :: _ => p
  | _ :: rest => paramsIn rest

end Node

end Docwright.Source
