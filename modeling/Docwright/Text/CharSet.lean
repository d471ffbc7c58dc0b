/-!
# Sets of characters given by where membership changes

A property of the Unicode standard holds on long runs of code points.  It is kept as the ascending
list of the places where it starts or stops to hold, and a character belongs to the set when an
odd number of those places is not above it.  `rank` counts them by bisection, so a question costs
the logarithm of the number of runs.
-/

namespace Docwright.Text

/-- Bisection for `rank`: every entry before `low` is at most `n`, every entry from `high` on is
above it, and each step halves what lies between. -/
def rankBetween (bounds : Array Nat) (n : Nat) : Nat → Nat → Nat → Nat
  | 0, low, _ => low
  | steps + 1, low, high =>
    if high ≤ low then low
    else
      let middle := (low + high) / 2
      if bounds.getD middle 0 ≤ n then rankBetween bounds n steps (middle + 1) high
      else rankBetween bounds n steps low middle

/-- The number of entries of the ascending `bounds` that are at most `n`. -/
def rank (bounds : Array Nat) (n : Nat) : Nat :=
  rankBetween bounds n (bounds.size.log2 + 1) 0 bounds.size

/-- Membership in the set that `bounds` describes: it starts outside and changes at each entry. -/
def holdsAt (bounds : Array Nat) (n : Nat) : Bool :=
  rank bounds n % 2 == 1

/-- Membership of a character, with a rule of its own for ASCII and a table for all others. -/
def inClass (ascii : Char → Bool) (bounds : Array Nat) (c : Char) : Bool :=
  if c.toNat < 128 then ascii c else holdsAt bounds c.toNat

end Docwright.Text
