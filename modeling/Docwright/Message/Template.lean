import Docwright.Datum

/-!
# Message templates

A template is text with directives, each of which begins with a percent sign and is replaced by the
next value; `%%` is no directive and stands for the sign itself.  A directive has flags, a least
width, a precision and a conversion; an asterisk takes the width or the precision from the values.

* `Directive.parse` reads a directive, taking the values the asterisks ask for.
* `Directive.convert` writes a value: whole numbers in base 8, 10 or 16, doubles in three notations,
  a single character, or the text of the value.
* `Piece` and `layout` put sign, prefix, digits and filling in order.
* `render` replaces all directives; every value has to be used.  A template without values is its
  own text.

A value that does not fit its directive makes the template a mismatch.  Numbers that are out of
reach of a conversion are faults of their own (`Overflow`).
-/

namespace Docwright.Template

/-- A number that is out of reach of a conversion. -/
inductive Overflow
  | character
  | infinity
  | double
  | width
  | precision
  | precisionLimit
  deriving DecidableEq, Repr

/-- The words for a number out of reach. -/
def Overflow.message : Overflow → String
  | character => "%c arg not in range(0x110000)"
  | infinity => "cannot convert float infinity to integer"
  | double => "int too large to convert to float"
  | width => "Python int too large to convert to C ssize_t"
  | precision => "Python int too large to convert to C int"
  | precisionLimit => "precision too large"

/-- Why a template could not be filled in. -/
inductive Failure
  | mismatch
  | overflow (cause : Overflow)
  deriving DecidableEq, Repr

/-- The result of a step of filling in. -/
abbrev Result (α : Type) := Except Failure α

/-- The flags of a directive. -/
structure Flags where
  left : Bool := false
  plus : Bool := false
  blank : Bool := false
  alternate : Bool := false
  zero : Bool := false

/-- A directive that has been read. -/
structure Directive where
  flags : Flags
  width : Option Nat
  precision : Option Nat
  conversion : Char

/-- The next value and those after it. -/
def next : List Datum → Result (Datum × List Datum)
  | [] => .error .mismatch
  | value :: rest => .ok (value, rest)

/-- The whole number an asterisk asks for. -/
def nextInt (values : List Datum) : Result (Int × List Datum) := do
  let (value, rest) ← next values
  match value.asInt? with
  | some n => .ok (n, rest)
  | none => .error .mismatch

namespace Directive

/-- Reads flags. -/
def parseFlags (flags : Flags) : List Char → Flags × List Char
  | '-' :: rest => parseFlags { flags with left := true } rest
  | '+' :: rest => parseFlags { flags with plus := true } rest
  | ' ' :: rest => parseFlags { flags with blank := true } rest
  | '#' :: rest => parseFlags { flags with alternate := true } rest
  | '0' :: rest => parseFlags { flags with zero := true } rest
  | rest => (flags, rest)

/-- Reads digits; a number above the limit is refused. -/
def parseNumber (limit : Nat) (value : Nat) : List Char → Result (Nat × List Char)
  | [] => .ok (value, [])
  | c :: rest =>
    if c.isDigit then
      let d := c.toNat - 48
      if (limit - d) / 10 < value then .error .mismatch
      else parseNumber limit (value * 10 + d) rest
    else .ok (value, c :: rest)

/-- The greatest number a width may be. -/
def widthLimit : Nat := Nat.pow 2 63 - 1

/-- The greatest number a precision may be. -/
def precisionLimit : Nat := Nat.pow 2 31 - 1

/-- Reads a width.  A negative width from the values means to fill on the right. -/
def parseWidth (flags : Flags) (values : List Datum) :
    List Char → Result (Flags × Option Nat × List Datum × List Char)
  | '*' :: rest => do
    let (n, values) ← nextInt values
    if (widthLimit : Int) < n ∨ n < -(widthLimit : Int) - 1 then .error (.overflow .width)
    else .ok (if n < 0 then { flags with left := true } else flags, some n.natAbs, values, rest)
  | c :: rest =>
    if c.isDigit then do
      let (n, rest) ← parseNumber widthLimit 0 (c :: rest)
      .ok (flags, some n, values, rest)
    else .ok (flags, none, values, c :: rest)
  | [] => .ok (flags, none, values, [])

/-- Reads a precision.  A point alone means none at all, and so does a negative number. -/
def parsePrecision (values : List Datum) :
    List Char → Result (Option Nat × List Datum × List Char)
  | '.' :: '*' :: rest => do
    let (n, values) ← nextInt values
    if (precisionLimit : Int) < n ∨ n < -(precisionLimit : Int) - 1 then
      .error (.overflow .precision)
    else .ok (some n.toNat, values, rest)
  | '.' :: rest => do
    let (n, rest) ← parseNumber precisionLimit 0 rest
    .ok (some n, values, rest)
  | rest => .ok (none, values, rest)

/-- Drops a letter that tells the size of a number elsewhere. -/
def dropSize : List Char → List Char
  | c :: rest => if c == 'h' || c == 'l' || c == 'L' then rest else c :: rest
  | [] => []

/-- Reads a directive from behind its percent sign.  A directive that asks for a value by name does
not fit a list of values. -/
def parse (values : List Datum) (text : List Char) :
    Result (Directive × List Datum × List Char) :=
  match text with
  | '(' :: _ => .error .mismatch
  | _ => do
    let (flags, text) := parseFlags {} text
    let (flags, width, values, text) ← parseWidth flags values text
    let (precision, values, text) ← parsePrecision values text
    match dropSize text with
    | [] => .error .mismatch
    | c :: rest => .ok (⟨flags, width, precision, c⟩, values, rest)

end Directive

/-- A value that has been written: the sign of a number, the prefix of its base, and the rest. -/
structure Piece where
  numeric : Bool
  negative : Bool
  base : List Char
  body : List Char

/-- The sign a piece is written with. -/
def Piece.sign (flags : Flags) (p : Piece) : List Char :=
  if !p.numeric then []
  else if p.negative then ['-']
  else if flags.plus then ['+']
  else if flags.blank then [' ']
  else []

/-- Lays a piece out: zeros fill between prefix and digits, blanks on either side of the whole. -/
def layout (flags : Flags) (width : Option Nat) (p : Piece) : List Char :=
  let sign := p.sign flags
  let size := sign.length + p.base.length + p.body.length
  let missing := width.getD 0 - size
  if flags.left then sign ++ p.base ++ p.body ++ List.replicate missing ' '
  else if p.numeric && flags.zero then sign ++ p.base ++ List.replicate missing '0' ++ p.body
  else List.replicate missing ' ' ++ sign ++ p.base ++ p.body

/-- A whole number in a base that is not ten has a prefix in the alternate form. -/
def basePrefix (conversion : Char) : List Char :=
  if conversion == 'o' then ['0', 'o']
  else if conversion == 'x' then ['0', 'x']
  else if conversion == 'X' then ['0', 'X']
  else []

/-- The digits of a whole number for a conversion. -/
def intDigits (conversion : Char) (n : Nat) : List Char :=
  if conversion == 'o' then Nat.toDigits 8 n
  else if conversion == 'x' then Nat.toDigits 16 n
  else if conversion == 'X' then (Nat.toDigits 16 n).map Char.toUpper
  else Decimal.digitsOf n

/-- The whole number a value is for a conversion: towards zero from a double, but only in base
ten. -/
def toInt (conversion : Char) (value : Datum) : Result Int :=
  match value.base? with
  | some (.float d) =>
    if basePrefix conversion != [] then .error .mismatch
    else
      match d with
      | .nan => .error .mismatch
      | .infinite _ => .error (.overflow .infinity)
      | .finite negative m e => .ok (Double.truncate negative m e)
  | _ =>
    match value.asInt? with
    | some n => .ok n
    | none => .error .mismatch

/-- Writes a whole number with at least `precision` digits. -/
def convertInt (d : Directive) (value : Datum) : Result Piece := do
  let n ← toInt d.conversion value
  let digits := intDigits d.conversion n.natAbs
  let base := basePrefix d.conversion
  let precision := d.precision.getD 0
  if Directive.precisionLimit - 3 < precision then .error (.overflow .precisionLimit)
  else if base.isEmpty && Scalar.digitLimit < digits.length then .error .mismatch
  else
    .ok ⟨true, n < 0, if d.flags.alternate then base else [],
      Decimal.zeros (precision - digits.length) ++ digits⟩

/-- The double a value is. -/
def toDouble (value : Datum) : Result Double :=
  match value.base? with
  | some (.float d) => .ok d
  | _ =>
    match value.asInt? with
    | none => .error .mismatch
    | some n =>
      match Double.ofInt? n with
      | some d => .ok d
      | none => .error (.overflow .double)

/-- Writes a double in the notation of the conversion, in upper case if that is. -/
def convertDouble (d : Directive) (value : Datum) : Result Piece := do
  let x ← toDouble value
  let upper := d.conversion.isUpper
  let word (text : String) : List Char :=
    if upper then text.toList.map Char.toUpper else text.toList
  let precision := d.precision.getD 6
  let alternate := d.flags.alternate
  match x with
  | .nan => .ok ⟨true, false, [], word "nan"⟩
  | .infinite negative => .ok ⟨true, negative, [], word "inf"⟩
  | .finite negative m e =>
    let (num, den) := Double.ratio m e
    let body :=
      if d.conversion == 'f' || d.conversion == 'F' then Decimal.fixed alternate precision num den
      else if d.conversion == 'e' || d.conversion == 'E' then
        Decimal.withExponent alternate upper precision num den
      else Decimal.general alternate upper precision num den
    .ok ⟨true, negative, [], body⟩

/-- Writes a single character, given by itself or by its code point. -/
def convertChar (value : Datum) : Result Piece :=
  match value.base? with
  | some (.text s) =>
    match s.toList with
    | [c] => .ok ⟨false, false, [], [c]⟩
    | _ => .error .mismatch
  | _ =>
    match value.asInt? with
    | none => .error .mismatch
    | some n =>
      if n < 0 ∨ 0x110000 ≤ n then .error (.overflow .character)
      else .ok ⟨false, false, [], [Char.ofNat n.toNat]⟩

/-- Writes the text of a value, at most `precision` characters of it. -/
def convertText (d : Directive) (value : Datum) : Result Piece :=
  let text :=
    if d.conversion == 's' then value.show?
    else if d.conversion == 'r' then value.literal?
    else value.literal?.map Text.ascii
  match text with
  | none => .error .mismatch
  | some text =>
    .ok ⟨false, false, [], match d.precision with
      | some p => text.take p
      | none => text⟩

/-- Writes a value as the directive asks. -/
def Directive.convert (d : Directive) (value : Datum) : Result (List Char) := do
  let c := d.conversion
  let piece ←
    if c == 's' || c == 'r' || c == 'a' then convertText d value
    else if c == 'd' || c == 'i' || c == 'u' || c == 'o' || c == 'x' || c == 'X' then
      convertInt d value
    else if c == 'e' || c == 'E' || c == 'f' || c == 'F' || c == 'g' || c == 'G' then
      convertDouble d value
    else if c == 'c' then convertChar value
    else .error .mismatch
  .ok (layout d.flags d.width piece)

/-- Fills in a template with values, all of which have to be used.  `fuel` bounds the length of the
template. -/
def fill : Nat → List Datum → List Char → Result (List Char)
  | 0, _, _ => .error .mismatch
  | _ + 1, [], [] => .ok []
  | _ + 1, _ :: _, [] => .error .mismatch
  | fuel + 1, values, '%' :: '%' :: rest => ('%' :: ·) <$> fill fuel values rest
  | fuel + 1, values, '%' :: rest => do
    let (d, values, rest) ← Directive.parse values rest
    let (value, values) ← next values
    let text ← d.convert value
    (text ++ ·) <$> fill fuel values rest
  | fuel + 1, values, c :: rest => (c :: ·) <$> fill fuel values rest

end Docwright.Template
