import Docwright.Datum

/-!
# Reading JSON

`Json.parse` reads a text that holds one value.  Beyond the standard it knows the names of the
infinities and of what is not a number.  A fault names what was expected and the place; places count
characters from zero, lines and columns from one.
-/

namespace Docwright.Json

/-- What is wrong at a place of a text. -/
inductive Fault
  | value
  | comma
  | colon
  | property
  | extra
  | unterminated
  | control
  | badEscape
  | badUnit
  | mark
  deriving DecidableEq, Repr

/-- The words for a fault. -/
def Fault.message : Fault → String
  | value => "Expecting value"
  | comma => "Expecting ',' delimiter"
  | colon => "Expecting ':' delimiter"
  | property => "Expecting property name enclosed in double quotes"
  | extra => "Extra data"
  | unterminated => "Unterminated string starting at"
  | control => "Invalid control character at"
  | badEscape => "Invalid \\escape"
  | badUnit => "Invalid \\uXXXX escape"
  | mark => "Unexpected UTF-8 BOM (decode using utf-8-sig)"

/-- Why a text could not be read: a fault and the characters before it, or a whole number of too
many digits. -/
inductive Error
  | fault (fault : Fault) (before : List Char)
  | tooManyDigits (count : Nat)
  deriving DecidableEq, Repr

/-- The words for an error. -/
def Error.message : Error → String
  | fault f before =>
    let line := before.count '\n' + 1
    let column := (before.reverse.takeWhile (· != '\n')).length + 1
    s!"{f.message}: line {line} column {column} (char {before.length})"
  | tooManyDigits count =>
    s!"Exceeds the limit (4300 digits) for integer string conversion: value has {count} digits; " ++
      "use sys.set_int_max_str_digits() to increase the limit"

/-- What is left of the text. -/
abbrev Rest := List Char

/-- A step of reading: a fault keeps what was left of the text where it was found. -/
inductive Stop
  | fault (fault : Fault) (rest : Rest)
  | tooManyDigits (count : Nat)

/-- Whether the character may stand between tokens. -/
def isSpace (c : Char) : Bool :=
  c == ' ' || c == '\t' || c == '\n' || c == '\r'

/-- Drops white space. -/
def trim : Rest → Rest :=
  List.dropWhile isSpace

/-- The value of a hexadecimal digit. -/
def hexValue? (c : Char) : Option Nat :=
  if '0' ≤ c && c ≤ '9' then some (c.toNat - 48)
  else if 'a' ≤ c && c ≤ 'f' then some (c.toNat - 87)
  else if 'A' ≤ c && c ≤ 'F' then some (c.toNat - 55)
  else none

/-- The UTF-16 unit that four hexadecimal digits give. -/
def unit? : List Char → Option Nat
  | [a, b, c, d] => do
    some ((((← hexValue? a) * 16 + (← hexValue? b)) * 16 + (← hexValue? c)) * 16 + (← hexValue? d))
  | _ => none

/-- The character of a code point; half of a surrogate pair gives the replacement character. -/
def charOf (n : Nat) : Char :=
  if n < 0xd800 ∨ (0xdfff < n ∧ n < 0x110000) then Char.ofNat n else '\ufffd'

/-- What a letter behind a backslash stands for. -/
def simpleEscape? : Char → Option Char
  | '"' => some '"'
  | '\\' => some '\\'
  | '/' => some '/'
  | 'b' => some '\x08'
  | 'f' => some '\x0c'
  | 'n' => some '\n'
  | 'r' => some '\r'
  | 't' => some '\t'
  | _ => none

/-- The character that UTF-16 units in escapes stand for, from the letter `u` on: one unit, or two
that make a pair.  A text cannot end with the digits.  An error is the text from the letter `u` of
the unit at fault. -/
def escapedUnits (start : Rest) : Except Rest (Char × Rest) :=
  let after := start.drop 5
  match unit? ((start.drop 1).take 4), after with
  | none, _ | _, [] => .error start
  | some high, _ =>
    if 0xd800 ≤ high ∧ high < 0xdc00 ∧ after.take 2 = ['\\', 'u'] ∧ 6 < after.length then
      match unit? ((after.drop 2).take 4) with
      | none => .error (after.drop 1)
      | some low =>
        if 0xdc00 ≤ low ∧ low < 0xe000 then
          .ok (charOf (0x10000 + (high - 0xd800) * 0x400 + (low - 0xdc00)), after.drop 6)
        else .ok (charOf high, after)
    else .ok (charOf high, after)

/-- Reads a text from behind its opening quote; `start` is the text from that quote on, and `taken`
holds what has been read, in reverse. -/
def string (start : Rest) : Nat → List Char → Rest → Except Stop (List Char × Rest)
  | 0, _, _ | _, _, [] => .error (.fault .unterminated start)
  | _ + 1, taken, '"' :: rest => .ok (taken.reverse, rest)
  | _ + 1, _, ['\\'] => .error (.fault .unterminated start)
  | fuel + 1, taken, '\\' :: 'u' :: rest =>
    match escapedUnits ('u' :: rest) with
    | .ok (c, rest) => string start fuel (c :: taken) rest
    | .error place => .error (.fault .badUnit place)
  | fuel + 1, taken, '\\' :: c :: rest =>
    match simpleEscape? c with
    | some c => string start fuel (c :: taken) rest
    | none => .error (.fault .badEscape ('\\' :: c :: rest))
  | fuel + 1, taken, c :: rest =>
    if c.toNat < 32 then .error (.fault .control (c :: rest))
    else string start fuel (c :: taken) rest

/-- The digits at the head of a text. -/
def digits (text : Rest) : List Char × Rest :=
  (text.takeWhile Char.isDigit, text.dropWhile Char.isDigit)

/-- A whole number in digits. -/
def natOf (digits : List Char) : Nat :=
  digits.foldl (fun n c => n * 10 + (c.toNat - 48)) 0

/-- A fraction: a point and at least one digit. -/
def fraction? : Rest → Option (List Char × Rest)
  | '.' :: rest =>
    match digits rest with
    | ([], _) => none
    | found => some found
  | _ => none

/-- An exponent: its mark, a sign or none, and at least one digit. -/
def exponent? : Rest → Option (Int × Rest)
  | mark :: rest =>
    if mark == 'e' || mark == 'E' then
      let (negative, body) := match rest with
        | '-' :: more => (true, more)
        | '+' :: more => (false, more)
        | _ => (false, rest)
      match digits body with
      | ([], _) => none
      | (found, rest) =>
        let n : Int := (natOf found : Nat)
        some (if negative then -n else n, rest)
    else none
  | [] => none

/-- The whole part of a number; nothing more belongs to one that begins with a zero. -/
def wholePart : Rest → List Char × Rest
  | '0' :: rest => (['0'], rest)
  | body => digits body

/-- Reads the number that begins with `text`, from `body` on, which is behind its sign. -/
def unsigned (negative : Bool) (text body : Rest) : Except Stop (Scalar × Rest) :=
  let (whole, rest) := wholePart body
  if whole.isEmpty then .error (.fault .value text)
  else
    let (places, rest') := (fraction? rest).getD ([], rest)
    let hasFraction := !places.isEmpty
    match exponent? rest' with
    | some (e, rest) =>
      .ok (.float (Double.ofDecimal negative (natOf (whole ++ places)) (e - places.length)), rest)
    | none =>
      if hasFraction then
        .ok (.float (Double.ofDecimal negative (natOf (whole ++ places)) (-(places.length : Int))),
          rest')
      else if Scalar.digitLimit < whole.length then .error (.tooManyDigits whole.length)
      else
        let n : Int := (natOf whole : Nat)
        .ok (.int (if negative then -n else n), rest')

/-- Reads a number that begins with `text`. -/
def number (text : Rest) : Except Stop (Scalar × Rest) :=
  if text.head? == some '-' then unsigned true text (text.drop 1) else unsigned false text text

/-- The names of scalars. -/
def names : List (List Char × Scalar) :=
  [("null".toList, .null), ("true".toList, .bool true), ("false".toList, .bool false),
   ("NaN".toList, .float .nan), ("Infinity".toList, .float (.infinite false)),
   ("-Infinity".toList, .float (.infinite true))]

/-- Reads a scalar that is no text. -/
def scalar (text : Rest) : Except Stop (Datum × Rest) :=
  match names.find? (fun entry => entry.1.isPrefixOf text) with
  | some (name, value) => .ok (.scalar value, text.drop name.length)
  | none => (number text).map fun (value, rest) => (.scalar value, rest)

mutual

/-- Reads a value. -/
def value : Nat → Rest → Except Stop (Datum × Rest)
  | 0, rest => .error (.fault .value rest)
  | _ + 1, [] => .error (.fault .value [])
  | fuel + 1, c :: rest =>
    if c == '"' then
      (string (c :: rest) (rest.length + 1) [] rest).map fun (s, rest) =>
        (.text (String.ofList s), rest)
    else if c == '[' then
      match trim rest with
      | ']' :: rest => .ok (.list [], rest)
      | rest => (items fuel rest).map fun (found, rest) => (.list found, rest)
    else if c == '\x7b' then
      match trim rest with
      | '\x7d' :: rest => .ok (.dict [], rest)
      | rest => (members fuel rest).map fun (found, rest) => (.dictOf found, rest)
    else scalar (c :: rest)

/-- Reads the items of an array up to its end. -/
def items : Nat → Rest → Except Stop (List Datum × Rest)
  | 0, rest => .error (.fault .value rest)
  | fuel + 1, rest => do
    let (first, rest) ← value fuel rest
    match trim rest with
    | ']' :: rest => .ok ([first], rest)
    | ',' :: rest =>
      let (others, rest) ← items fuel (trim rest)
      .ok (first :: others, rest)
    | rest => .error (.fault .comma rest)

/-- Reads the members of an object up to its end. -/
def members : Nat → Rest → Except Stop (List (Datum × Datum) × Rest)
  | 0, rest => .error (.fault .value rest)
  | fuel + 1, '"' :: rest => do
    let (name, rest) ← string ('"' :: rest) (rest.length + 1) [] rest
    match trim rest with
    | ':' :: rest =>
      let (found, rest) ← value fuel (trim rest)
      let entry := (Datum.text (String.ofList name), found)
      match trim rest with
      | '\x7d' :: rest => .ok ([entry], rest)
      | ',' :: rest =>
        let (others, rest) ← members fuel (trim rest)
        .ok (entry :: others, rest)
      | rest => .error (.fault .comma rest)
    | rest => .error (.fault .colon rest)
  | _ + 1, rest => .error (.fault .property rest)

end

/-- The error for what stopped the reading of a text. -/
def errorOf (text : List Char) : Stop → Error
  | .fault f rest => .fault f (text.take (text.length - rest.length))
  | .tooManyDigits count => .tooManyDigits count

/-- Reads a text that holds one value. -/
def parse (text : List Char) : Except Error Datum :=
  if text.head? == some '\ufeff' then .error (.fault .mark [])
  else
    match value (2 * text.length + 2) (trim text) with
    | .error stop => .error (errorOf text stop)
    | .ok (found, rest) =>
      match trim rest with
      | [] => .ok found
      | rest => .error (errorOf text (.fault .extra rest))

end Docwright.Json
