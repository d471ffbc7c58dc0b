import Docwright.Source.Fault
import Docwright.Source.Token
import Docwright.Text.CharName

/-!
# The value of quoted text

A token of quoted text is a prefix, quotes and a body (`Quoted.ofSpelling`).  The body of plain text
and of bytes has escapes, unless the prefix asks for the raw characters (`unescape`, `checkBytes`);
the body of a template has replacement fields besides (`Template.check`), whose expressions are
handed to a reader of their own.

Half of a surrogate pair, which an escape can name, stands for no character; the replacement
character keeps its place.  A fault without a row is reported where the parser is.
-/

namespace Docwright.Source

/-- A fault in quoted text; without a row it is reported at the last token the parser looked at. -/
structure LiteralFault where
  cause : Cause
  row : Option Nat

/-- Quoted text taken apart. -/
structure Quoted where
  bytes : Bool
  raw : Bool
  template : Bool
  body : List Char

namespace Quoted

/-- The body between quotes, single or triple, given the text from the opening quote on. -/
def bodyOf : List Char → List Char
  | a :: b :: c :: rest =>
    if a == b && b == c && 3 ≤ rest.length then rest.take (rest.length - 3)
    else (b :: c :: rest).dropLast
  | _ :: rest => rest.dropLast
  | [] => []

/-- Takes the spelling of a token of quoted text apart. -/
def ofSpelling (spelling : List Char) : Quoted :=
  let letters := spelling.takeWhile Char.isAlpha
  let has (lower upper : Char) : Bool := letters.any fun c => c == lower || c == upper
  { bytes := has 'b' 'B', raw := has 'r' 'R', template := has 'f' 'F',
    body := bodyOf (spelling.dropWhile Char.isAlpha) }

end Quoted

/-! ## Escapes -/

/-- The value of a hexadecimal digit. -/
def hexValue? (c : Char) : Option Nat :=
  if '0' ≤ c && c ≤ '9' then some (c.toNat - 48)
  else if 'a' ≤ c && c ≤ 'f' then some (c.toNat - 87)
  else if 'A' ≤ c && c ≤ 'F' then some (c.toNat - 55)
  else none

/-- Reads exactly `count` hexadecimal digits; where one is missing, tells how many there were. -/
def hexDigits (count : Nat) (value seen : Nat) : List Char → Except Nat (Nat × List Char)
  | text =>
    match count, text with
    | 0, text => .ok (value, text)
    | count + 1, c :: rest =>
      match hexValue? c with
      | some d => hexDigits count (value * 16 + d) (seen + 1) rest
      | none => .error seen
    | _ + 1, [] => .error seen

/-- Reads at most `count` octal digits. -/
def octalDigits (count : Nat) (value : Nat) (text : List Char) : Nat × List Char :=
  match count, text with
  | 0, text => (value, text)
  | count + 1, c :: rest =>
    if '0' ≤ c && c < '8' then octalDigits count (value * 8 + (c.toNat - 48)) rest
    else (value, c :: rest)
  | _ + 1, [] => (value, [])

/-- The character of a code point; half of a surrogate pair gives the replacement character. -/
def charOf (n : Nat) : Char :=
  if n < 0xd800 ∨ (0xdfff < n ∧ n < 0x110000) then Char.ofNat n else '\ufffd'

/-- What a backslash and one letter stand for. -/
def simpleEscape? : Char → Option (List Char)
  | '\n' => some []
  | '\\' => some ['\\']
  | '\'' => some ['\'']
  | '"' => some ['"']
  | 'a' => some ['\x07']
  | 'b' => some ['\x08']
  | 't' => some ['\t']
  | 'n' => some ['\n']
  | 'v' => some ['\x0b']
  | 'f' => some ['\x0c']
  | 'r' => some ['\r']
  | _ => none

/-- The bytes that characters take in the text that escapes are counted in.  A character beyond ASCII is
itself written as an escape of ten bytes there, and a backslash in front of one as an escape of six. -/
def escapedSize : List Char → Nat
  | [] => 0
  | '\\' :: c :: rest => (if c.toNat < 128 then 2 else 16) + escapedSize rest
  | c :: rest => (if c.toNat < 128 then 1 else 10) + escapedSize rest

/-- Replaces the escapes of plain text.  `position` counts the bytes before the text. -/
def unescape : Nat → Nat → List Char → Except Cause (List Char)
  | 0, _, _ => .ok []
  | _ + 1, _, [] => .ok []
  | _ + 1, _, ['\\'] => .ok ['\\']
  | fuel + 1, position, '\\' :: c :: rest =>
    let hex (count : Nat) (reason : String) : Except Cause (List Char) :=
      match hexDigits count 0 0 rest with
      | .error seen => .error (.badEscape position (position + 2 + seen) reason)
      | .ok (value, more) =>
        if 0x110000 ≤ value then
          .error (.badEscape position (position + 2 + count) "illegal Unicode character")
        else (charOf value :: ·) <$> unescape fuel (position + 2 + count) more
    match simpleEscape? c with
    | some value => (value ++ ·) <$> unescape fuel (position + 2) rest
    | none =>
      if '0' ≤ c && c < '8' then
        let (value, more) := octalDigits 3 0 (c :: rest)
        (charOf value :: ·) <$> unescape fuel (position + 2 + (rest.length - more.length)) more
      else if c == 'x' then hex 2 "truncated \\xXX escape"
      else if c == 'u' then hex 4 "truncated \\uXXXX escape"
      else if c == 'U' then hex 8 "truncated \\UXXXXXXXX escape"
      else if c == 'N' then
        let malformed (size : Nat) : Except Cause (List Char) :=
          .error (.badEscape position (position + 2 + size) "malformed \\N character escape")
        match rest with
        | '\x7b' :: inner =>
          let name := inner.takeWhile (· != '\x7d')
          match inner.dropWhile (· != '\x7d') with
          | [] => malformed (1 + escapedSize name)
          | _ :: more =>
            if name.isEmpty then malformed 1
            else
              let beyond := position + 4 + escapedSize name
              match Text.charNamed? (String.ofList name) with
              | some value => (value :: ·) <$> unescape fuel beyond more
              | none => .error (.badEscape position beyond "unknown Unicode character name")
        | _ => malformed 0
      else
        ('\\' :: c :: ·) <$> unescape fuel (position + escapedSize ['\\', c]) rest
  | fuel + 1, position, c :: rest =>
    (c :: ·) <$> unescape fuel (position + escapedSize [c]) rest

/-- The value of the body of plain text. -/
def textValue (raw : Bool) (body : List Char) : Except Cause (List Char) :=
  if raw || !body.contains '\\' then .ok body else unescape (body.length + 1) 0 body

/-- Checks the escapes of bytes; `position` counts the bytes before the text. -/
def checkEscapedBytes : Nat → Nat → List Char → Except Cause Unit
  | 0, _, _ => .ok ()
  | fuel + 1, position, '\\' :: 'x' :: rest =>
    match hexDigits 2 0 0 rest with
    | .error _ => .error (.badByteEscape position)
    | .ok (_, more) => checkEscapedBytes fuel (position + 4) more
  | fuel + 1, position, '\\' :: _ :: rest => checkEscapedBytes fuel (position + 2) rest
  | fuel + 1, position, _ :: rest => checkEscapedBytes fuel (position + 1) rest
  | _ + 1, _, [] => .ok ()

/-- Checks the body of bytes: ASCII only, and every hexadecimal escape in full. -/
def checkBytes (raw : Bool) (body : List Char) : Except Cause Unit :=
  if body.any (128 ≤ ·.toNat) then .error .bytesNotAscii
  else if raw then .ok ()
  else checkEscapedBytes (body.length + 1) 0 body

/-! ## Replacement fields -/

namespace Template

/-- Whether the character is a brace. -/
def isBrace (c : Char) : Bool :=
  c == '\x7b' || c == '\x7d'

/-- A stretch of literal text: its characters, whether a doubled brace ended it (then its first
brace belongs to the text), and what follows. -/
structure Stretch where
  text : List Char
  doubled : Bool
  rest : List Char

/-- What a brace means behind literal text (in reverse).  At the top level a doubled brace stands
for itself and a closing one must not stand alone. -/
def atBrace (top : Bool) (text : List Char) (c : Char) (rest : List Char) : Except Cause Stretch :=
  if top && rest.head? == some c then .ok ⟨(c :: text).reverse, true, rest.drop 1⟩
  else if top && c == '\x7d' then .error .loneBrace
  else .ok ⟨text.reverse, false, c :: rest⟩

/-- Reads literal text up to a brace or the end; `text` is what has been read, in reverse.  The
braces around the name of a character are part of its escape. -/
def literal (raw top : Bool) : Nat → List Char → List Char → Except Cause Stretch
  | 0, text, rest => .ok ⟨text.reverse, false, rest⟩
  | _ + 1, text, [] => .ok ⟨text.reverse, false, []⟩
  | fuel + 1, text, c :: rest =>
    if !raw && c == '\\' then
      match rest with
      | [] => .ok ⟨(c :: text).reverse, false, []⟩
      | 'N' :: '\x7b' :: inner =>
        let name := inner.takeWhile (· != '\x7d')
        let more := inner.dropWhile (· != '\x7d')
        literal raw top fuel
          ((more.take 1).reverse ++ name.reverse ++ '\x7b' :: 'N' :: c :: text) (more.drop 1)
      | 'N' :: more =>
        literal raw top fuel ((more.take 1).reverse ++ 'N' :: c :: text) (more.drop 1)
      | d :: more =>
        if isBrace d then atBrace top (c :: text) d more
        else literal raw top fuel (d :: c :: text) more
    else if isBrace c then atBrace top text c rest
    else literal raw top fuel (c :: text) rest

/-- The opening bracket for a closing one. -/
def opener? : Char → Option Char
  | ')' => some '('
  | ']' => some '['
  | '\x7d' => some '\x7b'
  | _ => none

/-- How deep brackets may nest in a field. -/
def bracketLimit : Nat := 200

/-- Where the expression of a field ends: its characters (in reverse in `taken`) and what follows.
`quote` is the quote that is open, if any, and whether it is tripled; `brackets` are the open ones.
-/
def expression (quote : Option (Char × Bool)) (brackets : List Char) :
    Nat → List Char → List Char → Except Cause (List Char × List Char)
  | 0, taken, rest => .ok (taken.reverse, rest)
  | _ + 1, taken, [] =>
    if quote.isSome then .error .fieldUnterminated
    else match brackets with
      | c :: _ => .error (.fieldUnmatched c)
      | [] => .ok (taken.reverse, [])
  | fuel + 1, taken, c :: rest =>
    let tripled : Bool := rest.take 2 == [c, c]
    if c == '\\' then .error .fieldBackslash
    else
      match quote with
      | some (q, triple) =>
        if c == q && triple && tripled then
          expression none brackets fuel (c :: c :: c :: taken) (rest.drop 2)
        else if c == q && !triple then expression none brackets fuel (c :: taken) rest
        else expression quote brackets fuel (c :: taken) rest
      | none =>
        if c == '\'' || c == '"' then
          if tripled then
            expression (some (c, true)) brackets fuel (c :: c :: c :: taken) (rest.drop 2)
          else expression (some (c, false)) brackets fuel (c :: taken) rest
        else if c == '(' || c == '[' || c == '\x7b' then
          if bracketLimit ≤ brackets.length then .error .fieldTooManyBrackets
          else expression none (c :: brackets) fuel (c :: taken) rest
        else if c == '#' then .error .fieldComment
        else if brackets.isEmpty && (c == '!' || c == ':' || c == '\x7d' || c == '=' || c == '<' ||
            c == '>') then
          if rest.head? == some '=' && (c == '!' || c == '=' || c == '<' || c == '>') then
            expression none brackets fuel ('=' :: c :: taken) (rest.drop 1)
          else if c == '<' || c == '>' then expression none brackets fuel (c :: taken) rest
          else .ok (taken.reverse, c :: rest)
        else
          match opener? c, brackets with
          | some _, [] => .error (.fieldUnmatched c)
          | some o, open' :: outer =>
            if o == open' then expression none outer fuel (c :: taken) rest
            else .error (.fieldMismatched c open')
          | none, _ => expression none brackets fuel (c :: taken) rest

/-- Whether the character may fill an expression that is empty. -/
def isFiller (c : Char) : Bool :=
  c == ' ' || c == '\t' || c == '\n' || c == '\x0c'

/-- White space that may follow the equals sign of a field. -/
def isSpace (c : Char) : Bool :=
  c == ' ' || (9 ≤ c.toNat && c.toNat ≤ 13)

/-- A cause reported where the parser is. -/
def here (cause : Cause) : LiteralFault := ⟨cause, none⟩

/-- A cause of a step, reported where the parser is. -/
def lift {α : Type} (result : Except Cause α) : Except LiteralFault α :=
  result.mapError here

/-- The conversion of a field, if it has one. -/
def conversion : List Char → Except Cause (List Char)
  | '!' :: rest =>
    match rest with
    | [] => .error .fieldUnclosed
    | c :: more =>
      if c == 's' || c == 'r' || c == 'a' then .ok more else .error .fieldConversion
  | rest => .ok rest

mutual

/-- Checks a template from the text on and returns what follows it: nothing at the top level, else
the brace that closes the field it belongs to.  `row` is the row of the text, and `parse` reads the
expression of a field at its row. -/
def pieces (parse : Nat → List Char → Except LiteralFault Unit) (raw : Bool) :
    Nat → Nat → Nat → List Char → Except LiteralFault (List Char)
  | 0, _, _, rest => .ok rest
  | fuel + 1, level, row, text => do
    let stretch ← lift (literal raw (level == 0) (text.length + 1) [] text)
    let _ ← lift (textValue raw stretch.text)
    let rest := stretch.rest
    let row := row + (text.take (text.length - rest.length)).count '\n'
    if stretch.doubled then pieces parse raw fuel level row rest
    else
      match rest with
      | '\x7b' :: inner =>
        let after ← field parse raw fuel level row inner
        pieces parse raw fuel level (row + (inner.take (inner.length - after.length)).count '\n')
          after
      | _ =>
        if level != 0 && rest.head? != some '\x7d' then .error (here .fieldUnclosed) else .ok rest

/-- Checks a field from behind its opening brace and returns what follows it. -/
def field (parse : Nat → List Char → Except LiteralFault Unit) (raw : Bool) :
    Nat → Nat → Nat → List Char → Except LiteralFault (List Char)
  | 0, _, _, rest => .ok rest
  | fuel + 1, level, row, text => do
    if 2 ≤ level then .error (here .fieldTooDeep)
    let (inner, rest) ← lift (expression none [] (text.length + 1) [] text)
    if rest.isEmpty then .error (here .fieldUnclosed)
    if inner.all isFiller then .error (here .fieldEmpty)
    parse row inner
    let rest := match rest with
      | '=' :: more => more.dropWhile isSpace
      | _ => rest
    if rest.isEmpty then .error (here .fieldUnclosed)
    let rest ← lift (conversion rest)
    let row := row + (text.take (text.length - rest.length)).count '\n'
    let rest ← match rest with
      | ':' :: more =>
        if more.isEmpty then .error (here .fieldUnclosed)
        else pieces parse raw fuel (level + 1) row more
      | _ => .ok rest
    match rest with
    | '\x7d' :: more => .ok more
    | _ => .error (here .fieldUnclosed)

end

/-- Checks the body of a template at the given row. -/
def check (parse : Nat → List Char → Except LiteralFault Unit) (raw : Bool) (row : Nat)
    (body : List Char) : Except LiteralFault Unit := do
  let _ ← pieces parse raw (2 * body.length + 2) 0 row body

end Template

/-! ## Adjacent texts -/

/-- The value of adjacent tokens of quoted text. -/
inductive Literal
  | text (value : List Char)
  | bytes
  | template

/-- The value of one token, with whether it is bytes. -/
def Literal.ofQuoted (q : Quoted) : Except Cause Literal := do
  if q.template then .ok .template
  else if q.bytes then
    checkBytes q.raw q.body
    .ok .bytes
  else .text <$> textValue q.raw q.body

/-- Joins two adjacent values of one kind: a template makes the whole a template. -/
def Literal.append : Literal → Literal → Literal
  | text a, text b => text (a ++ b)
  | bytes, bytes => bytes
  | _, _ => template

/-- The value of adjacent tokens: all or none of them are bytes. -/
def Literal.ofTokens (parse : Nat → List Char → Except LiteralFault Unit) :
    Option (Bool × Literal) → List Token → Except LiteralFault Literal
  | sofar, [] => .ok ((sofar.map (·.2)).getD (.text []))
  | sofar, t :: rest => do
    let q := Quoted.ofSpelling t.spelling.toList
    let value ← (Literal.ofQuoted q).mapError Template.here
    if let some (kind, _) := sofar then
      if kind != q.bytes then .error (Template.here .mixedBytes)
    if q.template then Template.check parse q.raw t.row q.body
    let whole := match sofar with
      | some (_, before) => before.append value
      | none => value
    Literal.ofTokens parse (some (q.bytes, whole)) rest

end Docwright.Source
