import Docwright.Number.Double

/-!
# Doubles in decimal

Decimal notations of a double, all from exact arithmetic on its value.

* `Decimal.shortest` gives the fewest digits that read back as the same number: for one digit, two
  digits and so on it looks at the two neighbours of the value on that decimal grid, and takes the
  nearer of those that lie among the reals which round to the number.
* `Decimal.significant` rounds to a count of digits, `Decimal.fixed` to a count of places; a tie
  goes to the even digit.
* `Notation` says how digits are laid out.
-/

namespace Docwright.Decimal

/-- The digits of a whole number. -/
def digitsOf (n : Nat) : List Char :=
  Nat.toDigits 10 n

/-- A positive number in digits: `0.d₁d₂… · 10 ^ point`, the first digit not zero. -/
structure Digits where
  digits : List Char
  point : Int
  deriving DecidableEq

/-- The power of ten just above a positive quotient: `10 ^ (p - 1) ≤ num / den < 10 ^ p`. -/
def magnitude (num den : Nat) : Int :=
  if den ≤ num then ((digitsOf (num / den)).length : Int)
  else
    -- one more digit in the denominator's quotient means one more leading zero
    let k := (digitsOf (den / num)).length
    -- the quotient is in (10 ^ -k, 10 ^ (1 - k)]; the upper end belongs to the next power
    if num * Nat.pow 10 (k - 1) = den then 2 - (k : Int) else 1 - (k : Int)

/-- A quotient times a power of ten, as a quotient. -/
def timesTen (num den : Nat) (e : Int) : Nat × Nat :=
  if 0 ≤ e then (num * Nat.pow 10 e.toNat, den) else (num, den * Nat.pow 10 (-e).toNat)

/-- Digits from a whole number and the place of its last digit: trailing zeros are dropped. -/
def trimmed (n : Nat) (lastPlace : Int) : Digits :=
  let digits := digitsOf n
  ⟨(digits.reverse.dropWhile (· == '0')).reverse, digits.length + lastPlace⟩

/-- The neighbour on the grid of `count` digits that reads back as the number, if one does: the
nearer one if both do.  `low` and `high` bound the reals that round to the number, over `unit`. -/
def onGrid? (num den : Nat) (inside : Nat → Nat → Bool) (place : Int) : Option Nat :=
  let (n, d) := timesTen num den (-place)
  let below := n / d
  let hits (q : Nat) : Bool :=
    let (qn, qd) := scaled q 10 place
    inside qn qd
  match hits below, hits (below + 1) with
  | true, true => some (roundDiv n d)
  | true, false => some below
  | false, true => some (below + 1)
  | false, false => none

/-- Searches the grids of `count` digits and more. -/
def search (num den : Nat) (inside : Nat → Nat → Bool) (magnitude : Int) :
    Nat → Int → Option (Nat × Int)
  | 0, _ => none
  | tries + 1, count =>
    let place := magnitude - count
    match onGrid? num den inside place with
    | some q => some (q, place)
    | none => search num den inside magnitude tries (count + 1)

/-- Whether a quotient lies among the reals that round to the positive double `m · 2 ^ e`.  The ends
belong to them when the mantissa is even; below a power of two the gap is half as wide. -/
def roundsTo (m : Nat) (e : Int) (num den : Nat) : Bool :=
  let narrow := m == Nat.pow 2 52 && Double.leastExponent < e
  let (lowNum, unitDen) := scaled (4 * m - (if narrow then 1 else 2)) 2 (e - 2)
  let (highNum, _) := scaled (4 * m + 2) 2 (e - 2)
  if m % 2 = 0 then lowNum * den ≤ num * unitDen && num * unitDen ≤ highNum * den
  else lowNum * den < num * unitDen && num * unitDen < highNum * den

/-- The fewest digits that read back as the positive double `m · 2 ^ e`. -/
def shortest (m : Nat) (e : Int) : Digits :=
  let (num, den) := Double.ratio m e
  let p := magnitude num den
  match search num den (roundsTo m e) p 17 1 with
  | some (q, place) => trimmed q place
  | none => trimmed (roundDiv (timesTen num den (17 - p)).1 (timesTen num den (17 - p)).2) (p - 17)

/-- A positive quotient rounded to `count` digits, trailing zeros kept. -/
def significant (num den : Nat) (count : Nat) : Digits :=
  let p := magnitude num den
  let (n, d) := timesTen num den (count - p)
  let digits := digitsOf (roundDiv n d)
  if digits.length = count then ⟨digits, p⟩ else ⟨digits.take count, p + 1⟩

/-- A sign in front of text. -/
def signed (negative : Bool) (text : List Char) : List Char :=
  if negative then '-' :: text else text

/-- Zeros. -/
def zeros (n : Nat) : List Char :=
  List.replicate n '0'

/-- Digits without an exponent: a zero before the point where the number is below one, and zeros up
to the point where the digits end before it. -/
def positional (d : Digits) : List Char × List Char :=
  if d.point ≤ 0 then (['0'], zeros (-d.point).toNat ++ d.digits)
  else
    let whole := d.point.toNat
    (d.digits.take whole ++ zeros (whole - d.digits.length), d.digits.drop whole)

/-- An exponent: a sign and at least two digits. -/
def exponentText (upper : Bool) (e : Int) : List Char :=
  let digits := digitsOf e.natAbs
  (if upper then 'E' else 'e') :: (if e < 0 then '-' else '+') ::
    (if digits.length < 2 then '0' :: digits else digits)

/-- Whole part, point and fraction; the point is left out before an empty fraction, unless it is to
be kept. -/
def pointed (keepPoint : Bool) (whole fraction : List Char) : List Char :=
  if fraction.isEmpty && !keepPoint then whole else whole ++ '.' :: fraction

/-- The first digit, then the others as a fraction, and the exponent. -/
def scientific (keepPoint upper : Bool) (d : Digits) : List Char :=
  pointed keepPoint (d.digits.take 1) (d.digits.drop 1) ++ exponentText upper (d.point - 1)

/-- The text of a double that reads back: positional from `10 ^ -4` up to below `10 ^ 16`, always
with a fraction there, and with an exponent elsewhere. -/
def text : Double → List Char
  | .nan => ['n', 'a', 'n']
  | .infinite negative => signed negative ['i', 'n', 'f']
  | .finite negative m e =>
    if m = 0 then signed negative ['0', '.', '0']
    else
      let d := shortest m e
      signed negative <|
        if d.point ≤ -4 ∨ 16 < d.point then scientific false false d
        else
          let (whole, fraction) := positional d
          pointed false whole (if fraction.isEmpty then ['0'] else fraction)

/-! ### Notations with a given precision -/

/-- A nonnegative quotient with the given count of places. -/
def fixed (keepPoint : Bool) (places : Nat) (num den : Nat) : List Char :=
  let digits := digitsOf (roundDiv (num * Nat.pow 10 places) den)
  let digits := zeros (places + 1 - digits.length) ++ digits
  pointed keepPoint (digits.take (digits.length - places)) (digits.drop (digits.length - places))

/-- Zero as digits, and any other quotient rounded to `count` digits. -/
def rounded (num den count : Nat) : Digits :=
  if num = 0 then ⟨zeros count, 1⟩ else significant num den count

/-- A nonnegative quotient with one digit before the point and the given count behind it. -/
def withExponent (keepPoint upper : Bool) (places : Nat) (num den : Nat) : List Char :=
  scientific keepPoint upper (rounded num den (places + 1))

/-- A nonnegative quotient with the given count of digits, positional or with an exponent, whichever
is shorter by the usual rule; trailing zeros are kept only in the alternate form. -/
def general (alternate upper : Bool) (precision : Nat) (num den : Nat) : List Char :=
  let count := max precision 1
  let d := rounded num den count
  let kept := if alternate then d.digits
    else
      let cut := (d.digits.reverse.dropWhile (· == '0')).reverse
      if cut.isEmpty then ['0'] else cut
  let d : Digits := ⟨kept, d.point⟩
  if d.point ≤ -4 ∨ (count : Int) < d.point then scientific alternate upper d
  else
    let (whole, fraction) := positional d
    pointed alternate whole fraction

end Docwright.Decimal
