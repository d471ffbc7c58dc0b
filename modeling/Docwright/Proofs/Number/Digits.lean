import Docwright.Json.Reader
import Mathlib.Algebra.Order.Field.Power
import Mathlib.Algebra.Order.Field.Rat
import Mathlib.Tactic.Linarith
import Mathlib.Tactic.Positivity
import Mathlib.Tactic.Ring

/-!
# Digits and the numbers they are

`Json.natOf` reads what `Decimal.digitsOf` writes.  The count of digits of a
positive number says between which powers of ten it is; hence its first digit is
not zero, and the numbers of too many digits are those from a power of ten on.
-/

namespace Docwright

open Decimal (digitsOf)
open Json (natOf)

/-- Characters that are decimal digits. -/
def AllDigits (ds : List Char) : Prop :=
  ∀ c ∈ ds, c.isDigit = true

theorem natOf_eq (ds : List Char) : natOf ds = Nat.ofDigitChars 10 ds 0 := by
  rw [natOf, Nat.ofDigitChars_eq_foldl]
  simp only [mul_comm]
  rfl

/-- A number is read back from its digits. -/
@[simp]
theorem natOf_digitsOf (n : Nat) : natOf (digitsOf n) = n := by
  rw [natOf_eq, digitsOf, Nat.ofDigitChars_ten_toDigits]

theorem natOf_append (ds more : List Char) :
    natOf (ds ++ more) = 10 ^ more.length * natOf ds + natOf more := by
  rw [natOf_eq, natOf_eq, natOf_eq, Nat.ofDigitChars_append, Nat.ofDigitChars_eq_ofDigitChars_zero]

theorem natOf_zeros (k : Nat) : natOf (Decimal.zeros k) = 0 := by
  rw [natOf_eq, Decimal.zeros, Nat.ofDigitChars_replicate_zero, mul_zero]

theorem length_zeros (k : Nat) : (Decimal.zeros k).length = k :=
  List.length_replicate

theorem allDigits_digitsOf (n : Nat) : AllDigits (digitsOf n) :=
  fun _ member => Nat.isDigit_of_mem_toDigits (by decide) (by decide) member

theorem allDigits_zeros (k : Nat) : AllDigits (Decimal.zeros k) := by
  intro c member
  rw [List.eq_of_mem_replicate member]
  rfl

theorem AllDigits.append {ds more : List Char} (h : AllDigits ds) (h' : AllDigits more) :
    AllDigits (ds ++ more) := by
  intro c member
  rcases List.mem_append.mp member with member | member
  · exact h c member
  · exact h' c member

theorem length_digitsOf_pos (n : Nat) : 0 < (digitsOf n).length :=
  Nat.length_toDigits_pos

/-- Digits are below the power of ten of their count. -/
theorem natOf_lt {ds : List Char} (digits : AllDigits ds) : natOf ds < 10 ^ ds.length := by
  induction ds with
  | nil => exact Nat.one_pos
  | cons c rest ih =>
      have digit : c.toNat - 48 < 10 := by
        have := digits c List.mem_cons_self
        rw [Char.isDigit_iff_toNat] at this
        have := this.2
        simp only [Char.reduceToNat] at this
        omega
      have less := ih fun d member => digits d (List.mem_cons_of_mem _ member)
      have first : natOf [c] = c.toNat - 48 := by simp [natOf]
      rw [show c :: rest = [c] ++ rest from rfl, natOf_append, first, List.length_append,
        List.length_singleton, pow_add, pow_one]
      have := Nat.mul_le_mul_left (10 ^ rest.length) (show c.toNat - 48 ≤ 9 by omega)
      omega

theorem lt_pow_length (n : Nat) : n < 10 ^ (digitsOf n).length :=
  (Nat.length_toDigits_le_iff (by decide) (length_digitsOf_pos n)).mp le_rfl

/-- A positive number is not below the power of ten of its digits but one. -/
theorem pow_length_le {n : Nat} (pos : 0 < n) : 10 ^ ((digitsOf n).length - 1) ≤ n := by
  by_contra less
  rw [not_le] at less
  by_cases one : (digitsOf n).length - 1 = 0
  · rw [one] at less
    omega
  · have := (Nat.length_toDigits_le_iff (b := 10) (by decide) (by omega)).mpr less
    have := length_digitsOf_pos n
    unfold digitsOf at *
    omega

/-- The first digit of a positive number is not zero. -/
theorem digitsOf_cons {n : Nat} (pos : 0 < n) :
    ∃ first rest, digitsOf n = first :: rest ∧ first ≠ '0' := by
  cases ds : digitsOf n with
  | nil => exact absurd (congrArg List.length ds) (length_digitsOf_pos n).ne'
  | cons first rest =>
      refine ⟨first, rest, rfl, ?_⟩
      rintro rfl
      have value := natOf_digitsOf n
      have digits := allDigits_digitsOf n
      rw [ds] at value digits
      have less : natOf rest < 10 ^ rest.length :=
        natOf_lt fun d member => digits d (List.mem_cons_of_mem _ member)
      have zero : natOf ['0'] = 0 := rfl
      rw [show '0' :: rest = ['0'] ++ rest from rfl, natOf_append, zero, mul_zero, zero_add] at value
      have least := pow_length_le pos
      rw [ds, List.length_cons, Nat.add_sub_cancel] at least
      omega

/-- A whole number is not converted to text from a power of ten on. -/
theorem Scalar.intText?_eq_none_iff {n : Int} :
    intText? n = none ↔ 10 ^ digitLimit ≤ n.natAbs := by
  have length := Nat.length_toDigits_le_iff (b := 10) (k := digitLimit) (n := n.natAbs)
    (by decide) (by decide)
  rw [intText?, ite_eq_left_iff, digitsOf, ← Nat.not_lt, ← length]
  simp

end Docwright
