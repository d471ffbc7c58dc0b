import Docwright.Source.Grammar.Statements

/-!
# From a text to its tree

`parse` reads a text by the grammar.  A text that the grammar does not match is read once more with
the mistakes, to find out what to report:

* a fault that a reading comes upon is reported, and so is a place where the tokens end;
* otherwise the token that the first reading could not get past is at fault, by its kind: an
  indentation where none was expected, or just an unexpected token.

Before a fault of the grammar is reported, the rest of the text is asked for faults of its
characters, which go first; and a bracket that was opened on an earlier line and is open when the
tokens end goes first as well (`Verdict.settle`).
-/

namespace Docwright.Source

/-- A fault that is reported, and whether the characters themselves are wrong. -/
structure Verdict where
  fault : Fault
  sure : Bool

namespace Verdict

/-- The verdict where the tokens ended. -/
def ofHalt (halt : Halt) : Verdict :=
  ⟨⟨halt.cause, halt.row⟩, halt.sure⟩

/-- The verdict for a fault of the grammar, after `reach` tokens were looked at. -/
def settle (input : Input) (reach : Nat) (fault : Fault) : Verdict :=
  match input.halt with
  | none => ⟨fault, false⟩
  | some halt =>
    if halt.sure then ofHalt halt
    else
      match halt.brackets with
      | [] => ⟨fault, false⟩
      | (opening, row) :: _ =>
        if row < Match.rowAt input (reach - 1) then ⟨⟨.neverClosed opening, row⟩, false⟩
        else ⟨fault, false⟩

/-- The verdict for what ended a reading. -/
def ofRejection (input : Input) (reach : Nat) (r : Rejection) : Verdict :=
  if r.final then ⟨r.fault, (input.halt.map Halt.sure).getD false⟩ else settle input reach r.fault

/-- The verdict for a token that the grammar could not get past; `reach` counts the tokens that were
looked at in the end. -/
def ofToken (input : Input) (reach : Nat) (t : Token) : Verdict :=
  match t.kind with
  | .indent => ⟨⟨.unexpectedIndent, Match.rowAt input (reach - 1)⟩, false⟩
  | .dedent => ⟨⟨.unexpectedUnindent, Match.rowAt input (reach - 1)⟩, false⟩
  | _ => settle input reach ⟨.invalid, t.row⟩

end Verdict

/-- The verdict on an input that the grammar did not match after looking at `reach` tokens. -/
def Input.explain (input : Input) (symbol : Symbol) (reach : Nat) : Verdict :=
  let last := (input.tokens[reach - 1]?.or input.tokens.back?).getD ⟨.finish, "", 0, 0⟩
  match Match.run Grammar.grammar input true symbol reach with
  | .error r m => Verdict.ofRejection input m.reach r
  | .ok _ m => Verdict.ofToken input m.reach last

/-- Reads an input as the given symbol. -/
def Input.read (input : Input) (symbol : Symbol) : Except Verdict Node :=
  match Match.run Grammar.grammar input false symbol 0 with
  | .ok (some (node, _)) _ => .ok node
  | .ok none m => .error (input.explain symbol m.reach)
  | .error r m => .error (Verdict.ofRejection input m.reach r)

/-- The input a text makes; its first line has the given row. -/
def Input.ofText (literal : List Token → Except LiteralFault Literal) (row : Nat)
    (text : List Char) : Input :=
  let (tokens, halt) := Lexer.run row text
  ⟨tokens.toArray, halt, literal⟩

/-- Reads the expression of a replacement field, as if in brackets. -/
def readField (literal : List Token → Except LiteralFault Literal) (row : Nat)
    (inner : List Char) : Except LiteralFault Unit :=
  match (Input.ofText literal row ('(' :: inner ++ [')'])).read .field with
  | .ok _ => .ok ()
  | .error v =>
    .error ⟨if v.sure then v.fault.cause else .inField v.fault.cause, some v.fault.row⟩

/-- Reads quoted text whose replacement fields may hold quoted text in turn, to the given depth. -/
def readLiteral : Nat → List Token → Except LiteralFault Literal
  | 0, _ => .ok .template
  | depth + 1, tokens => Literal.ofTokens (readField (readLiteral depth)) none tokens

/-- The statements of a text, or what is wrong with it.  Each quoted text within a replacement field
is shorter than the text around it, so the length of the text bounds their depth. -/
def parse (text : List Char) : Except Fault (List Stmt) :=
  if text.contains '\x00' then .error ⟨.nullCharacter, 0⟩
  else
    match (Input.ofText (readLiteral (text.length + 1)) 0 text).read .file with
    | .ok node => .ok node.statements
    | .error v => .error v.fault

end Docwright.Source
