/-!
# Double precision numbers

A number of double precision as what it means: not a number, infinity, or a sign, a whole mantissa
and a power of two.  The mantissa of a number that an operation returns is below `2 ^ 53`, and at
least `2 ^ 52` unless the exponent is the least one, so that equal numbers have one form.

`ofRatio` rounds a quotient to the nearest double, a tie to the even mantissa.
-/

namespace Docwright

/-- A number of double precision. -/
inductive Double
  | nan
  | infinite (negative : Bool)
  | finite (negative : Bool) (mantissa : Nat) (exponent : Int)
  deriving DecidableEq, Repr

/-- The whole number nearest to a quotient; of two equally near the even one. -/
def roundDiv (num den : Nat) : Nat :=
  let q := num / den
  let r := num % den
  if 2 * r < den then q else if den < 2 * r then q + 1 else q + q % 2

/-- A number `n * b ^ e` as a quotient of whole numbers. -/
def scaled (n b : Nat) (e : Int) : Nat × Nat :=
  if 0 ≤ e then (n * b.pow e.toNat, 1) else (n, b.pow (-e).toNat)

namespace Double

/-- The least exponent of a double. -/
def leastExponent : Int := -1074

/-- The greatest exponent of a double. -/
def greatestExponent : Int := 971

/-- Whether `num / den` is below `2 ^ e`. -/
def belowPower (num den : Nat) (e : Int) : Bool :=
  if 0 ≤ e then num < den * Nat.pow 2 e.toNat else num * Nat.pow 2 (-e).toNat < den

/-- The exponent that gives a quotient a mantissa of 53 bits, or the least exponent. -/
def exponentOf (num den : Nat) : Int :=
  let guess : Int := (num.log2 : Int) - (den.log2 : Int)
  let exponent := if belowPower num den guess then guess - 53 else guess - 52
  max exponent leastExponent

/-- The double nearest to a quotient. -/
def ofRatio (negative : Bool) (num den : Nat) : Double :=
  if num = 0 then finite negative 0 leastExponent
  else
    let e := exponentOf num den
    let m := if 0 ≤ e then roundDiv num (den * Nat.pow 2 e.toNat)
      else roundDiv (num * Nat.pow 2 (-e).toNat) den
    let (m, e) := if m = Nat.pow 2 53 then (Nat.pow 2 52, e + 1) else (m, e)
    if greatestExponent < e then infinite negative else finite negative m e

/-- The double nearest to a whole number, if there is one. -/
def ofInt? (n : Int) : Option Double :=
  match ofRatio (n < 0) n.natAbs 1 with
  | infinite _ => none
  | d => some d

/-- The double nearest to `digits * 10 ^ exponent`.  Numbers far beyond either end of the range are
not written out. -/
def ofDecimal (negative : Bool) (digits : Nat) (exponent : Int) : Double :=
  let magnitude : Int := (Nat.toDigits 10 digits).length + exponent
  if digits = 0 then finite negative 0 leastExponent
  else if 320 < magnitude then infinite negative
  else if magnitude < -400 then finite negative 0 leastExponent
  else
    let (num, den) := scaled digits 10 exponent
    ofRatio negative num den

/-- The absolute value of a finite number as a quotient. -/
def ratio (mantissa : Nat) (exponent : Int) : Nat × Nat :=
  scaled mantissa 2 exponent

/-- The whole number towards zero. -/
def truncate (negative : Bool) (mantissa : Nat) (exponent : Int) : Int :=
  let (num, den) := ratio mantissa exponent
  let n : Int := ((num / den : Nat) : Int)
  if negative then -n else n

/-- Whether a finite number is exactly the given whole number. -/
def isInt (negative : Bool) (mantissa : Nat) (exponent : Int) (n : Int) : Bool :=
  let (num, den) := ratio mantissa exponent
  num % den == 0 && truncate negative mantissa exponent == n

/-- Equality as numbers: zero has no sign, and what is not a number equals nothing. -/
def numEq : Double → Double → Bool
  | infinite a, infinite b => a == b
  | finite n m e, finite n' m' e' => (m == 0 && m' == 0) || (n == n' && m == m' && e == e')
  | _, _ => false

/-- Equality with a whole number. -/
def eqInt : Double → Int → Bool
  | finite n m e, k => isInt n m e k
  | _, _ => false

end Double

end Docwright
