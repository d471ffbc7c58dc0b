import Docwright.Datum
import Docwright.Sorting

/-!
# Writing JSON

JSON in ASCII: every other character of a text is written as its UTF-16 units.  `compact` writes
scalars in one line; `pretty` writes each member on a line of its own, indented by two blanks a
level, and sorts the members of an object by name.
-/

namespace Docwright.Json

/-- A UTF-16 unit. -/
def unitEscape (n : Nat) : List Char :=
  '\\' :: 'u' :: Text.hexText 4 n

/-- A character within a text. -/
def escapedChar (c : Char) : List Char :=
  let n := c.toNat
  if c == '"' then ['\\', '"']
  else if c == '\\' then ['\\', '\\']
  else if c == '\n' then ['\\', 'n']
  else if c == '\r' then ['\\', 'r']
  else if c == '\t' then ['\\', 't']
  else if n == 8 then ['\\', 'b']
  else if n == 12 then ['\\', 'f']
  else if 32 ≤ n && n < 127 then [c]
  else if n < 0x10000 then unitEscape n
  else unitEscape (0xd800 + (n - 0x10000) / 0x400) ++ unitEscape (0xdc00 + (n - 0x10000) % 0x400)

/-- A text. -/
def quoted (text : List Char) : List Char :=
  '"' :: text.flatMap escapedChar ++ ['"']

/-- A double: the infinities and what is not a number have names. -/
def doubleText : Double → List Char
  | .nan => "NaN".toList
  | .infinite negative => Decimal.signed negative "Infinity".toList
  | d => Decimal.text d

/-- A scalar, unless it is a whole number of too many digits. -/
def scalarText? : Scalar → Option (List Char)
  | .text s => some (quoted s.toList)
  | .int n => Scalar.intText? n
  | .float d => some (doubleText d)
  | .bool b => some (if b then "true".toList else "false".toList)
  | .null => some "null".toList

/-- A list of scalars in one line. -/
def compact? (values : List Scalar) : Option (List Char) :=
  (values.mapM scalarText?).map fun texts => '[' :: List.intercalate [',', ' '] texts ++ [']']

/-! ### On several lines -/

/-- A value with scalars, arrays and objects only. -/
inductive Value
  | scalar (value : Scalar)
  | array (items : List Value)
  | object (members : List (String × Value))

/-- A new line at the given level. -/
def newline (level : Nat) : List Char :=
  '\n' :: List.replicate (2 * level) ' '

/-- Members between brackets, each on a line of its own; without members the brackets meet. -/
def bracketed (left right : Char) (level : Nat) : List (List Char) → List Char
  | [] => [left, right]
  | texts =>
    left :: newline (level + 1) ++ List.intercalate (',' :: newline (level + 1)) texts ++
      newline level ++ [right]

/-- The names of members, each with the text of its value, in ascending order. -/
def sortedMembers (members : List (String × List Char)) : List (String × List Char) :=
  Sorting.sort (fun a b => a.1 ≤ b.1) members

mutual

/-- A value at the given level, unless a whole number in it has too many digits. -/
def pretty? (level : Nat) : Value → Option (List Char)
  | .scalar s => scalarText? s
  | .array items => (prettyItems? (level + 1) items).map (bracketed '[' ']' level)
  | .object members =>
    (prettyMembers? (level + 1) members).map fun texts =>
      bracketed '\x7b' '\x7d' level
        ((sortedMembers texts).map fun (name, text) => quoted name.toList ++ ':' :: ' ' :: text)

/-- Values at the given level. -/
def prettyItems? (level : Nat) : List Value → Option (List (List Char))
  | [] => some []
  | v :: rest => do some ((← pretty? level v) :: (← prettyItems? level rest))

/-- Members at the given level. -/
def prettyMembers? (level : Nat) : List (String × Value) → Option (List (String × List Char))
  | [] => some []
  | (name, v) :: rest => do
    let text ← pretty? level v
    some ((name, text) :: (← prettyMembers? level rest))

end

end Docwright.Json
