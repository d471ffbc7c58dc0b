import Docwright.Source.Fault

/-!
# Number literals

`Number.scan` reads the number at the head of a text that starts with a digit, or with a point and a
digit, and returns what follows it.  Digits may be grouped by single underscores; a number must not
run into a name, unless the name starts with a keyword that may follow a number.
-/

namespace Docwright.Source.Number

/-- Whether the character can belong to a name: every character beyond ASCII counts until the name
is checked as a whole. -/
def nameChar (c : Char) : Bool :=
  c.isAlphanum || c == '_' || 128 ≤ c.toNat

/-- Whether the rest of a keyword stands at the head of a text and ends there. -/
def endsWith (word : String) (text : List Char) : Bool :=
  word.toList.isPrefixOf text && !((text.drop word.length).head?.map nameChar).getD false

/-- Whether a number may end before the text. -/
def mayEnd : List Char → Bool
  | [] => true
  | 'a' :: rest => endsWith "nd" rest
  | 'e' :: rest => endsWith "lse" rest
  | 'f' :: rest => endsWith "or" rest
  | 'i' :: rest => (rest.head?.map fun c => c == 'f' || c == 'n' || c == 's').getD false
  | 'o' :: rest => endsWith "r" rest
  | 'n' :: rest => endsWith "ot" rest
  | c :: _ => !nameChar c

/-- The text after a number of the given kind, if the number may end there. -/
def finish (kind : String) (rest : List Char) : Except Cause (List Char) :=
  if mayEnd rest then .ok rest else .error (.badNumber kind)

/-- The text after decimal digits, in which single underscores may separate digits. -/
def digits : List Char → Except Cause (List Char)
  | [] => .ok []
  | '_' :: d :: rest => if d.isDigit then digits rest else .error (.badNumber "decimal")
  | ['_'] => .error (.badNumber "decimal")
  | c :: rest => if c.isDigit then digits rest else .ok (c :: rest)

/-- The text after digits of a class, in which single underscores may stand before a digit; an
underscore that no digit follows is an error, which returns the text after it. -/
def digitsOf (isDigit : Char → Bool) : List Char → Except (List Char) (List Char)
  | [] => .ok []
  | '_' :: d :: rest => if isDigit d then digitsOf isDigit rest else .error (d :: rest)
  | ['_'] => .error []
  | c :: rest => if isDigit c then digitsOf isDigit rest else .ok (c :: rest)

/-- What is wrong where a digit of another base was wanted. -/
def wrongDigit (kind : String) (strict : Bool) : List Char → Cause
  | c :: _ => if strict && c.isDigit then .badDigit c kind else .badNumber kind
  | [] => .badNumber kind

/-- A number in another base, after its prefix.  In a `strict` base decimal digits that do not
belong to it are named. -/
def based (kind : String) (isDigit : Char → Bool) (strict : Bool) (text : List Char) :
    Except Cause (List Char) :=
  let body := match text with
    | '_' :: rest => rest
    | _ => text
  if (body.head?.map isDigit).getD false then
    match digitsOf isDigit body with
    | .error rest => .error (wrongDigit kind strict rest)
    | .ok rest =>
      if strict && (rest.head?.map Char.isDigit).getD false then
        .error (wrongDigit kind strict rest)
      else finish kind rest
  else .error (wrongDigit kind strict body)

/-- After the digits and the fraction of a number: the mark of an imaginary number, or the end. -/
def imaginary : List Char → Except Cause (List Char)
  | c :: rest =>
    if c == 'j' || c == 'J' then finish "imaginary" rest else finish "decimal" (c :: rest)
  | [] => .ok []

/-- After the digits and the fraction of a number: an exponent, if there is one, and the end. -/
def exponent : List Char → Except Cause (List Char)
  | e :: sign :: rest =>
    if e == 'e' || e == 'E' then
      if sign == '+' || sign == '-' then
        if (rest.head?.map Char.isDigit).getD false then digits rest >>= imaginary
        else .error (.badNumber "decimal")
      else if sign.isDigit then digits (sign :: rest) >>= imaginary
      else finish "decimal" (e :: sign :: rest)
    else imaginary (e :: sign :: rest)
  | rest => imaginary rest

/-- After the point of a number. -/
def fraction (text : List Char) : Except Cause (List Char) :=
  if (text.head?.map Char.isDigit).getD false then digits text >>= exponent else exponent text

/-- After the digits before the point. -/
def afterWhole : List Char → Except Cause (List Char)
  | '.' :: rest => fraction rest
  | rest => exponent rest

/-- Zeros, in which single underscores may stand before a digit. -/
def zeros : List Char → Except Cause (List Char)
  | [] => .ok []
  | '_' :: d :: rest =>
    if d == '0' then zeros rest
    else if d.isDigit then .ok (d :: rest)
    else .error (.badNumber "decimal")
  | ['_'] => .error (.badNumber "decimal")
  | c :: rest => if c == '0' then zeros rest else .ok (c :: rest)

/-- After leading zeros: a number that goes on with other digits must have a fraction, an exponent
or the mark of an imaginary number. -/
def afterZeros (text : List Char) : Except Cause (List Char) := do
  if (text.head?.map Char.isDigit).getD false then
    let rest ← digits text
    match rest with
    | c :: _ =>
      if c == '.' || c == 'e' || c == 'E' || c == 'j' || c == 'J' then afterWhole rest
      else .error .leadingZeros
    | [] => .error .leadingZeros
  else afterWhole text

/-- Whether the character is a hexadecimal digit. -/
def isHexDigit (c : Char) : Bool :=
  c.isDigit || ('a' ≤ c && c ≤ 'f') || ('A' ≤ c && c ≤ 'F')

/-- The text after the number at its head. -/
def scan : List Char → Except Cause (List Char)
  | '0' :: x :: rest =>
    if x == 'x' || x == 'X' then based "hexadecimal" isHexDigit false rest
    else if x == 'o' || x == 'O' then based "octal" (fun c => '0' ≤ c && c < '8') true rest
    else if x == 'b' || x == 'B' then based "binary" (fun c => c == '0' || c == '1') true rest
    else zeros (x :: rest) >>= afterZeros
  | '.' :: rest => fraction rest
  | text => digits text >>= afterWhole

/-- How many digits a decimal whole number may have. -/
def digitLimit : Nat := 4300

/-- The fault of a number that is well formed but too long to be converted: only decimal whole
numbers are limited. -/
def tooLong? (spelling : List Char) : Option Cause :=
  let count := (spelling.filter (· != '_')).length
  if spelling.all (fun c => c.isDigit || c == '_') && spelling.head? != some '0' &&
      digitLimit < count then
    some (.tooManyDigits count)
  else none

end Docwright.Source.Number
