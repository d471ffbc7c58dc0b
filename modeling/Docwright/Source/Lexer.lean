import Docwright.Source.Number
import Docwright.Source.Token
import Docwright.Text.Identifier
import Docwright.Text.Printable

/-!
# From characters to tokens

`Lexer.run` reads a whole text.  It returns the tokens up to the first place where none can be read,
and what is wrong at that place, if there is one (`Halt`).  The parser asks for tokens one at a
time, so whether a halt is ever reported depends on how far the grammar reads.

* Every way to end a line is a newline (`Lexer.lines`), and the last line always has one.
* Indentation counts a tab up to the next multiple of eight columns; a second count takes a tab for
  one column, and both must agree on what is deeper.  Inside brackets it has no meaning.
* Rows count from zero.  At the end of the text the row is that of the last line.
-/

namespace Docwright.Source

/-- Where no token can be read.  `sure` tells that the characters themselves are wrong, which is
reported even if the grammar failed before; `brackets` are the open ones, innermost first, with the
row of each. -/
structure Halt where
  cause : Cause
  row : Nat
  sure : Bool
  brackets : List (Char × Nat)

namespace Lexer

/-- How deep brackets may nest. -/
def bracketLimit : Nat := 200

/-- How many levels of indentation there may be, the outermost included. -/
def levelLimit : Nat := 100

/-- The text with every way to end a line written as a newline, and one at the end.  A text that
ends with a carriage return and a newline gets an empty line more. -/
def lines (text : List Char) : List Char :=
  go false text
where
  go (ended : Bool) : List Char → List Char
    | [] => if ended then [] else ['\n']
    | ['\r', '\n'] => ['\n', '\n']
    | '\r' :: '\n' :: rest => '\n' :: go true rest
    | c :: rest =>
      if c == '\r' || c == '\n' then '\n' :: go true rest else c :: go false rest

/-- What is left of a text and where: `row` counts the newlines before it. -/
structure Cursor where
  rest : List Char
  row : Nat

/-- The row a reader is at: at the end of the text still that of the last line. -/
def Cursor.here (c : Cursor) : Nat :=
  if c.rest.isEmpty then c.row - 1 else c.row

/-- The state between two tokens: the cursor, the indentation levels from the innermost (both
counts of each, the outermost left out), and the open brackets from the innermost. -/
structure State where
  cursor : Cursor
  levels : List (Nat × Nat)
  brackets : List (Char × Nat)

/-- The result of reading at one place: tokens and the state after them, the last tokens of the
text, or tokens and then a halt. -/
inductive Step
  | next (tokens : List Token) (state : State)
  | finish (tokens : List Token)
  | halt (tokens : List Token) (halt : Halt)

/-- The white space at the head of a line: both counts of columns, and the columns at the first
backslash that continues the line, if any came after white space. -/
structure Margin where
  columns : Nat
  narrow : Nat
  continued : Nat

/-- A halt that is reported only when the parser gets there. -/
def weakHalt (cause : Cause) (row : Nat) (brackets : List (Char × Nat)) : Halt :=
  ⟨cause, row, false, brackets⟩

/-- The end of the text in the midst of things: an open bracket is what was missed. -/
def endHalt (row : Nat) : List (Char × Nat) → Halt
  | [] => weakHalt .unexpectedEnd row []
  | (c, opened) :: more => weakHalt (.neverClosed c) opened ((c, opened) :: more)

/-- After a backslash: the text behind the newline it hides. -/
def continuation (brackets : List (Char × Nat)) (row : Nat) : List Char → Except Halt Cursor
  | ['\n'] => .error (endHalt row brackets)
  | '\n' :: rest => .ok ⟨rest, row + 1⟩
  | _ => .error (weakHalt .badContinuation row brackets)

/-- Reads the white space at the head of a line. -/
def margin (brackets : List (Char × Nat)) :
    Nat → Margin → Cursor → Except Halt (Margin × Cursor)
  | 0, m, c => .ok (m, c)
  | fuel + 1, m, ⟨' ' :: rest, row⟩ =>
    margin brackets fuel { m with columns := m.columns + 1, narrow := m.narrow + 1 } ⟨rest, row⟩
  | fuel + 1, m, ⟨'\t' :: rest, row⟩ =>
    margin brackets fuel { m with columns := (m.columns / 8 + 1) * 8, narrow := m.narrow + 1 }
      ⟨rest, row⟩
  | fuel + 1, m, ⟨'\x0c' :: rest, row⟩ =>
    margin brackets fuel { m with columns := 0, narrow := 0 } ⟨rest, row⟩
  | fuel + 1, m, ⟨'\\' :: rest, row⟩ => do
    let cursor ← continuation brackets row rest
    let first := if m.continued = 0 then m.columns else m.continued
    margin brackets fuel { m with continued := first } cursor
  | _ + 1, m, c => .ok (m, c)

/-- The levels that are left after closing those deeper than `columns`. -/
def closeLevels (columns : Nat) : List (Nat × Nat) → List (Nat × Nat)
  | [] => []
  | level :: outer => if columns < level.1 then closeLevels columns outer else level :: outer

/-- The tokens that a margin makes, and the levels after it. -/
def indentation (m : Margin) (levels : List (Nat × Nat)) (row : Nat) :
    Except Halt (List Token × List (Nat × Nat)) :=
  let columns := if m.continued = 0 then m.columns else m.continued
  let narrow := if m.continued = 0 then m.narrow else m.continued
  let (level, narrowLevel) := levels.head?.getD (0, 0)
  if columns = level then
    if narrow = narrowLevel then .ok ([], levels)
    else .error (weakHalt .mixedIndentation row [])
  else if level < columns then
    if levelLimit ≤ levels.length + 1 then .error (weakHalt .tooManyLevels row [])
    else if narrow ≤ narrowLevel then .error (weakHalt .mixedIndentation row [])
    else .ok ([⟨.indent, "", row, 0⟩], (columns, narrow) :: levels)
  else
    let left := closeLevels columns levels
    let (level, narrowLevel) := left.head?.getD (0, 0)
    if columns ≠ level then .error (weakHalt .unindentMismatch row [])
    else if narrow ≠ narrowLevel then .error (weakHalt .mixedIndentation row [])
    else .ok (List.replicate (levels.length - left.length) ⟨.dedent, "", row, 0⟩, left)

/-- Drops what may stand between two tokens of a line: white space, a comment, continued lines. -/
def gap (brackets : List (Char × Nat)) : Nat → Cursor → Except Halt Cursor
  | 0, c => .ok c
  | fuel + 1, ⟨c :: rest, row⟩ =>
    if c == ' ' || c == '\t' || c == '\x0c' then gap brackets fuel ⟨rest, row⟩
    else if c == '#' then .ok ⟨rest.dropWhile (· != '\n'), row⟩
    else if c == '\\' then continuation brackets row rest >>= gap brackets fuel
    else .ok ⟨c :: rest, row⟩
  | _ + 1, c => .ok c

/-- Whether the character is a quote. -/
def isQuote (c : Char) : Bool :=
  c == '\'' || c == '"'

/-- The text from the opening quote on, if a prefix of quoted text and then a quote stand at the
head.  The flags tell which letters the prefix already holds. -/
def afterPrefix? (bytes raw plain format : Bool) : List Char → Option (List Char)
  | [] => none
  | c :: rest =>
    let go (bytes raw plain format : Bool) : Option (List Char) :=
      if (rest.head?.map isQuote).getD false then some rest
      else afterPrefix? bytes raw plain format rest
    if !(bytes || plain || format) && (c == 'b' || c == 'B') then go true raw plain format
    else if !(bytes || plain || raw || format) && (c == 'u' || c == 'U') then
      go bytes raw true format
    else if !(raw || plain) && (c == 'r' || c == 'R') then go bytes true plain format
    else if !(format || bytes || plain) && (c == 'f' || c == 'F') then go bytes raw plain true
    else none

/-- What a search for the closing quotes finds: the text after them, or where the text ends (a
newline or nothing) without them. -/
inductive Closing
  | found (rest : List Char)
  | missing (rest : List Char)

/-- Searches for the closing quotes of a text opened by one quote or by three; `run` counts the
quotes just passed. -/
def closing (quote : Char) (triple : Bool) : Nat → List Char → Closing
  | _, [] => .missing []
  | run, c :: rest =>
    if !triple && c == '\n' then .missing (c :: rest)
    else if c == quote then
      if run + 1 = (if triple then 3 else 1) then .found rest
      else closing quote triple (run + 1) rest
    else if c == '\\' then
      match rest with
      | [] => .missing []
      | _ :: rest => closing quote triple 0 rest
    else closing quote triple 0 rest

/-- The newlines in a text. -/
def newlines (text : List Char) : Nat :=
  text.count '\n'

/-- The characters that `text` has before `rest`, its own end. -/
def before (text rest : List Char) : List Char :=
  text.take (text.length - rest.length)

/-- Reads the quoted text that begins, prefix included, with `text`; `body` is `text` from the
opening quote on. -/
def quoted (s : State) (text body : List Char) : Step :=
  let row := s.cursor.row
  let fail (triple : Bool) (rest : List Char) : Step :=
    let line := (Cursor.mk rest (row + newlines (before text rest))).here + 1
    let cause := if triple then .unterminatedTriple line else .unterminated line
    .halt [] ⟨cause, row, true, s.brackets⟩
  let found (rest : List Char) : Step :=
    let spelling := before text rest
    .next [⟨.text, String.ofList spelling, row, s.brackets.length⟩]
      { s with cursor := ⟨rest, row + newlines spelling⟩ }
  match body with
  | [] => fail false []
  | quote :: rest =>
    match rest with
    | a :: b :: inner =>
      if a == quote then
        if b == quote then
          match closing quote true 0 inner with
          | .found rest => found rest
          | .missing rest => fail true rest
        else found (b :: inner)
      else
        match closing quote false 0 rest with
        | .found rest => found rest
        | .missing rest => fail false rest
    | [a] => if a == quote then found [] else fail false [a]
    | [] => fail false []

/-- The marks of two and of three characters. -/
def longMarks : List String :=
  ["**=", "//=", ">>=", "<<=", "...", "!=", "%=", "&=", "**", "*=", "+=", "-=", "->", "//", "/=",
   ":=", "<<", "<=", "<>", "==", ">=", ">>", "@=", "^=", "|="]

/-- The closing bracket for an opening one. -/
def partner? : Char → Option Char
  | '(' => some ')'
  | '[' => some ']'
  | '{' => some '}'
  | _ => none

/-- Reads a mark of one character, which may open or close a bracket. -/
def mark (s : State) (c : Char) (rest : List Char) : Step :=
  let row := s.cursor.row
  let stop (cause : Cause) : Step := .halt [] ⟨cause, row, true, s.brackets⟩
  let go (brackets : List (Char × Nat)) : Step :=
    .next [⟨.mark, String.singleton c, row, brackets.length⟩]
      { s with cursor := ⟨rest, row⟩, brackets := brackets }
  if (partner? c).isSome then
    if bracketLimit ≤ s.brackets.length then stop .tooManyBrackets else go ((c, row) :: s.brackets)
  else if c == ')' || c == ']' || c == '}' then
    match s.brackets with
    | [] => stop (.unmatched c)
    | (opening, opened) :: outer =>
      if partner? opening = some c then go outer
      else stop (.mismatched c opening (if opened = row then none else some (opened + 1)))
  else if Text.isPrintable c then go s.brackets
  else stop (.invisibleCharacter c)

/-- Reads a name: a keyword if it is spelled exactly so. -/
def name (s : State) (text : List Char) : Step :=
  let row := s.cursor.row
  let spelling := text.takeWhile Number.nameChar
  let rest := text.dropWhile Number.nameChar
  match if spelling.all (·.toNat < 128) then none else Text.identifierFault spelling with
  | some c =>
    let cause := if Text.isPrintable c then .badCharacter c else .invisibleCharacter c
    .halt [] ⟨cause, row, true, s.brackets⟩
  | none =>
    let word := String.ofList spelling
    .next [⟨if keywords.contains word then .keyword else .name, word, row, s.brackets.length⟩]
      { s with cursor := ⟨rest, row⟩ }

/-- Reads a number. -/
def number (s : State) (text : List Char) : Step :=
  let row := s.cursor.row
  match Number.scan text with
  | .error cause => .halt [] ⟨cause, row, true, s.brackets⟩
  | .ok rest =>
    .next [⟨.number, String.ofList (before text rest), row, s.brackets.length⟩]
      { s with cursor := ⟨rest, row⟩ }

/-- Reads the token at the head of a text that has no white space in front. -/
def token (s : State) (text : List Char) : Step :=
  match text with
  | [] => .finish []
  | c :: rest =>
    if c.isAlpha || c == '_' || 128 ≤ c.toNat then
      match afterPrefix? false false false false text with
      | some body => quoted s text body
      | none => name s text
    else if isQuote c then quoted s text text
    else if c.isDigit || (c == '.' && (rest.head?.map Char.isDigit).getD false) then number s text
    else
      match longMarks.find? (fun m => m.toList.isPrefixOf text) with
      | some m =>
        .next [⟨.mark, m, s.cursor.row, s.brackets.length⟩]
          { s with cursor := ⟨text.drop m.length, s.cursor.row⟩ }
      | none => mark s c rest

mutual

/-- Reads on at the head of a line. -/
def line : Nat → State → List Token × Option Halt
  | 0, _ => ([], none)
  | fuel + 1, s =>
    match margin s.brackets fuel ⟨0, 0, 0⟩ s.cursor with
    | .error halt => ([], some halt)
    | .ok (m, cursor) =>
      let s := { s with cursor := cursor }
      match cursor.rest.head? with
      | some '#' | some '\n' =>
        match cursor.rest.dropWhile (· != '\n') with
        | _ :: rest => line fuel { s with cursor := ⟨rest, cursor.row + 1⟩ }
        | [] => ([], none)
      | _ =>
        if s.brackets.isEmpty then
          match indentation m s.levels cursor.here with
          | .error halt => ([], some halt)
          | .ok (tokens, levels) =>
            let (more, halt) := within fuel { s with levels := levels }
            (tokens ++ more, halt)
        else within fuel s

/-- Reads on within a line. -/
def within : Nat → State → List Token × Option Halt
  | 0, _ => ([], none)
  | fuel + 1, s =>
    match gap s.brackets fuel s.cursor with
    | .error halt => ([], some halt)
    | .ok cursor =>
      let s := { s with cursor := cursor }
      match cursor.rest with
      | [] =>
        if s.brackets.isEmpty then ([⟨.finish, "", cursor.here, 0⟩], none)
        else ([], some (endHalt cursor.here s.brackets))
      | '\n' :: rest =>
        let (more, halt) := line fuel { s with cursor := ⟨rest, cursor.row + 1⟩ }
        if s.brackets.isEmpty then (⟨.newline, "", cursor.row, 0⟩ :: more, halt) else (more, halt)
      | text =>
        match token s text with
        | .next tokens s =>
          let (more, halt) := within fuel s
          (tokens ++ more, halt)
        | .finish tokens => (tokens, none)
        | .halt tokens halt => (tokens, some halt)

end

/-- The tokens of a text whose first line has the given row, and the halt after them. -/
def run (row : Nat) (text : List Char) : List Token × Option Halt :=
  let text := lines text
  line (2 * text.length + 2) ⟨⟨text, row⟩, [], []⟩

end Lexer

end Docwright.Source
