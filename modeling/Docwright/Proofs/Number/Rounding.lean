import Docwright.Number.Decimal
import Mathlib.Algebra.Order.Field.Power
import Mathlib.Algebra.Order.Field.Rat
import Mathlib.Tactic.FieldSimp
import Mathlib.Tactic.Linarith
import Mathlib.Tactic.NormNum
import Mathlib.Tactic.Positivity
import Mathlib.Tactic.Ring

/-!
# Rounding to a double

`Rounds m e x` says that a rational lies among those which round to `m · 2 ^ e`.
It is what `Decimal.roundsTo` decides (`roundsTo_iff`), and `Double.ofRatio`
rounds accordingly (`ofRatio_of_rounds`): the exponent that it finds is the one
that gives the quotient 53 bits, and below a power of two, where the exponent is
one less, the mantissa is rounded up to that power.

Everything is about the value of a quotient and not about its two parts, since
the digits that are read back are another quotient than the one that was written.

A whole number from half a unit below the power of two that would be next to the greatest
double has no double near to it (`Double.ofInt?_eq_none_iff`).
-/

namespace Docwright

open Decimal Double

variable {m num den : Nat} {e : Int} {x : ℚ}

/-- A positive double in its one form: a mantissa of 53 bits, or the least exponent. -/
structure Double.Positive (m : Nat) (e : Int) : Prop where
  pos : 0 < m
  mantissa : m < 2 ^ 53
  least : leastExponent ≤ e
  greatest : e ≤ greatestExponent
  normal : 2 ^ 52 ≤ m ∨ e = leastExponent

/-- A double in its one form. -/
def Double.Canonical : Double → Prop
  | .nan | .infinite _ => True
  | .finite _ m e => (m = 0 ∧ e = leastExponent) ∨ Positive m e

/-- How far below a double the rationals begin that round to it, in quarters of its last place. -/
def Double.gapBelow (m : Nat) (e : Int) : Nat :=
  if m = 2 ^ 52 ∧ leastExponent < e then 1 else 2

/-- A rational is among those that round to `m · 2 ^ e`; the ends are only if the mantissa is even. -/
structure Double.Rounds (m : Nat) (e : Int) (x : ℚ) : Prop where
  low : (4 * m - gapBelow m e) * (2 : ℚ) ^ (e - 2) ≤ x
  high : x ≤ (4 * m + 2) * (2 : ℚ) ^ (e - 2)
  odd : m % 2 = 1 → (4 * m - gapBelow m e) * (2 : ℚ) ^ (e - 2) < x ∧ x < (4 * m + 2) * (2 : ℚ) ^ (e - 2)

theorem Double.gapBelow_le (m : Nat) (e : Int) : (gapBelow m e : ℚ) ≤ 2 := by
  unfold gapBelow
  split <;> norm_num

theorem Double.gapBelow_pos (m : Nat) (e : Int) : (1 : ℚ) ≤ gapBelow m e := by
  unfold gapBelow
  split <;> norm_num

theorem Double.gapBelow_power (above : leastExponent < e) : gapBelow (2 ^ 52) e = 1 :=
  if_pos ⟨rfl, above⟩

theorem Double.gapBelow_other (other : ¬ (m = 2 ^ 52 ∧ leastExponent < e)) : gapBelow m e = 2 :=
  if_neg other

/-! ### Powers of two, in quarters of a last place -/

theorem zpow_quarters (e : Int) : (2 : ℚ) ^ e = 4 * 2 ^ (e - 2) := by
  rw [zpow_sub₀ two_ne_zero]
  norm_num
  ring

theorem zpow_half_quarters (e : Int) : (2 : ℚ) ^ (e - 1) = 2 * 2 ^ (e - 2) := by
  rw [zpow_sub₀ two_ne_zero, zpow_sub₀ two_ne_zero]
  norm_num
  ring

theorem zpow_mantissa_quarters (e : Int) : (2 : ℚ) ^ (e + 52) = 2 ^ 54 * 2 ^ (e - 2) := by
  rw [← zpow_natCast, ← zpow_add₀ two_ne_zero]
  congr 1
  push_cast
  ring

/-! ### Quotients -/

theorem scaled_snd_pos (n : Nat) {b : Nat} (base : 0 < b) (e : Int) : 0 < (scaled n b e).2 := by
  unfold scaled
  split
  · exact Nat.one_pos
  · exact Nat.pow_pos base

/-- The value of a scaled number. -/
theorem scaled_value (n : Nat) {b : Nat} (base : 0 < b) (e : Int) :
    ((scaled n b e).1 / (scaled n b e).2 : ℚ) = n * (b : ℚ) ^ e := by
  have nonzero : (b : ℚ) ≠ 0 := by exact_mod_cast base.ne'
  unfold scaled
  split
  · next nonneg =>
      obtain ⟨k, rfl⟩ := Int.eq_ofNat_of_zero_le nonneg
      simp [Nat.pow_eq]
  · next negative =>
      obtain ⟨k, hk⟩ : ∃ k : Nat, e = -k := ⟨(-e).toNat, by omega⟩
      subst hk
      simp [Nat.pow_eq, div_eq_mul_inv]

theorem scaled_snd_eq (n n' b : Nat) (e : Int) : (scaled n b e).2 = (scaled n' b e).2 := by
  unfold scaled
  split <;> rfl

/-- Comparing two quotients by cross multiplication. -/
theorem mul_le_mul_iff_div {a b c d : Nat} (hb : 0 < b) (hd : 0 < d) :
    a * d ≤ c * b ↔ (a / b : ℚ) ≤ c / d := by
  have hb' : (0 : ℚ) < b := by exact_mod_cast hb
  have hd' : (0 : ℚ) < d := by exact_mod_cast hd
  rw [div_le_div_iff₀ hb' hd']
  exact_mod_cast Iff.rfl

theorem mul_lt_mul_iff_div {a b c d : Nat} (hb : 0 < b) (hd : 0 < d) :
    a * d < c * b ↔ (a / b : ℚ) < c / d := by
  have hb' : (0 : ℚ) < b := by exact_mod_cast hb
  have hd' : (0 : ℚ) < d := by exact_mod_cast hd
  rw [div_lt_div_iff₀ hb' hd']
  exact_mod_cast Iff.rfl

/-- What `roundsTo` decides. -/
theorem roundsTo_iff (hm : 0 < m) (hden : 0 < den) :
    roundsTo m e num den = true ↔ Rounds m e (num / den) := by
  have gap : (if (m == Nat.pow 2 52 && decide (leastExponent < e)) = true then 1 else 2) =
      gapBelow m e := by
    unfold gapBelow
    simp only [Bool.and_eq_true, beq_iff_eq, decide_eq_true_eq, Nat.pow_eq]
  have le_four : gapBelow m e ≤ 4 * m := by
    unfold gapBelow
    split <;> omega
  -- both ends are fractions of one denominator, so a comparison is one of products
  obtain ⟨unit, hunit⟩ : ∃ unit, unit = (scaled (4 * m - gapBelow m e) 2 (e - 2)).2 := ⟨_, rfl⟩
  have unit_pos : 0 < unit := hunit ▸ scaled_snd_pos _ Nat.two_pos _
  have low : (4 * m - gapBelow m e) * (2 : ℚ) ^ (e - 2) =
      (scaled (4 * m - gapBelow m e) 2 (e - 2)).1 / unit := by
    rw [hunit, scaled_value _ Nat.two_pos]
    push_cast [le_four]
    rfl
  have high : (4 * m + 2) * (2 : ℚ) ^ (e - 2) = (scaled (4 * m + 2) 2 (e - 2)).1 / unit := by
    rw [hunit, scaled_snd_eq _ (4 * m + 2), scaled_value _ Nat.two_pos]
    push_cast
    rfl
  unfold roundsTo
  simp only [gap, ← hunit]
  by_cases even : m % 2 = 0
  · rw [if_pos even]
    simp only [Bool.and_eq_true, decide_eq_true_eq, mul_le_mul_iff_div unit_pos hden,
      mul_le_mul_iff_div hden unit_pos]
    rw [← low, ← high]
    exact ⟨fun ⟨l, h⟩ => ⟨l, h, fun odd => by omega⟩, fun h => ⟨h.low, h.high⟩⟩
  · rw [if_neg even]
    simp only [Bool.and_eq_true, decide_eq_true_eq, mul_lt_mul_iff_div unit_pos hden,
      mul_lt_mul_iff_div hden unit_pos]
    rw [← low, ← high]
    exact ⟨fun ⟨l, h⟩ => ⟨l.le, h.le, fun _ => ⟨l, h⟩⟩, fun h => h.odd (by omega)⟩

/-! ### The mantissa -/

/-- The whole number nearest to a quotient, the even one where two are equally near. -/
theorem roundDiv_eq {q : Nat} (hden : 0 < den) (low : (q : ℚ) - 1 / 2 ≤ num / den)
    (high : (num / den : ℚ) ≤ q + 1 / 2)
    (odd : q % 2 = 1 → (q : ℚ) - 1 / 2 < num / den ∧ (num / den : ℚ) < q + 1 / 2) :
    roundDiv num den = q := by
  have hden' : (0 : ℚ) < den := by exact_mod_cast hden
  have low' : 2 * (q * den) ≤ 2 * num + den := by
    rw [le_div_iff₀ hden'] at low
    have scaled : (2 * (q * den) : ℚ) ≤ 2 * num + den := by linarith
    exact_mod_cast scaled
  have high' : 2 * num ≤ 2 * (q * den) + den := by
    rw [div_le_iff₀ hden'] at high
    have scaled : (2 * num : ℚ) ≤ 2 * (q * den) + den := by linarith
    exact_mod_cast scaled
  have odd' : q % 2 = 1 → 2 * (q * den) < 2 * num + den ∧ 2 * num < 2 * (q * den) + den := by
    intro h
    obtain ⟨l, r⟩ := odd h
    rw [lt_div_iff₀ hden'] at l
    rw [div_lt_iff₀ hden'] at r
    have l' : (2 * (q * den) : ℚ) < 2 * num + den := by linarith
    have r' : (2 * num : ℚ) < 2 * (q * den) + den := by linarith
    exact ⟨by exact_mod_cast l', by exact_mod_cast r'⟩
  have whole : num / den * den + num % den = num := Nat.div_add_mod' num den
  have rest : num % den < den := Nat.mod_lt num hden
  -- the number is one of the two neighbours of the quotient
  have near : q = num / den ∨ q = num / den + 1 := by
    have above : num / den ≤ q := by
      by_contra below
      have := Nat.mul_le_mul_right den (show q + 1 ≤ num / den by omega)
      rw [Nat.add_mul] at this
      omega
    have below : q ≤ num / den + 1 := by
      by_contra above
      have := Nat.mul_le_mul_right den (show num / den + 2 ≤ q by omega)
      rw [Nat.add_mul] at this
      omega
    omega
  unfold roundDiv
  simp only
  rcases near with near | near
  · rw [near] at low' high' odd' ⊢
    split
    · rfl
    · split
      · omega
      · omega
  · rw [near, Nat.add_mul] at low' high'
    rw [near, Nat.add_mul] at odd'
    rw [near]
    split
    · omega
    · split
      · omega
      · omega

/-! ### The exponent -/

theorem belowPower_iff (hden : 0 < den) (e : Int) :
    belowPower num den e = true ↔ (num / den : ℚ) < 2 ^ e := by
  have hden' : (0 : ℚ) < den := by exact_mod_cast hden
  unfold belowPower
  split
  · next nonneg =>
      obtain ⟨k, rfl⟩ := Int.eq_ofNat_of_zero_le nonneg
      rw [div_lt_iff₀ hden', decide_eq_true_iff]
      simp only [Int.toNat_natCast, Nat.pow_eq, zpow_natCast]
      rw [mul_comm]
      exact_mod_cast Iff.rfl
  · next negative =>
      obtain ⟨k, hk⟩ : ∃ k : Nat, e = -k := ⟨(-e).toNat, by omega⟩
      subst hk
      rw [zpow_neg, ← one_div, div_lt_div_iff₀ hden' (by positivity), decide_eq_true_iff]
      simp only [neg_neg, Int.toNat_natCast, Nat.pow_eq, zpow_natCast, one_mul]
      exact_mod_cast Iff.rfl

/-- The difference of two binary logarithms is that of the quotient, or one more. -/
theorem log2_quotient (hnum : 0 < num) (hden : 0 < den) {guess : Int}
    (hguess : guess = (num.log2 : Int) - den.log2) :
    (2 : ℚ) ^ (guess - 1) ≤ num / den ∧ (num / den : ℚ) < 2 ^ (guess + 1) := by
  have hden' : (0 : ℚ) < den := by exact_mod_cast hden
  have num_low : (2 : ℚ) ^ (num.log2 : Int) ≤ num := by
    rw [zpow_natCast]
    exact_mod_cast Nat.log2_self_le hnum.ne'
  have num_high : (num : ℚ) < 2 ^ ((num.log2 : Int) + 1) := by
    rw [← Nat.cast_succ, zpow_natCast]
    exact_mod_cast Nat.lt_log2_self
  have den_low : (2 : ℚ) ^ (den.log2 : Int) ≤ den := by
    rw [zpow_natCast]
    exact_mod_cast Nat.log2_self_le hden.ne'
  have den_high : (den : ℚ) < 2 ^ ((den.log2 : Int) + 1) := by
    rw [← Nat.cast_succ, zpow_natCast]
    exact_mod_cast Nat.lt_log2_self
  constructor
  · rw [le_div_iff₀ hden']
    calc (2 : ℚ) ^ (guess - 1) * den
        ≤ 2 ^ (guess - 1) * 2 ^ ((den.log2 : Int) + 1) := by gcongr
      _ = 2 ^ (num.log2 : Int) := by
          rw [← zpow_add₀ two_ne_zero, hguess]
          congr 1
          ring
      _ ≤ num := num_low
  · rw [div_lt_iff₀ hden']
    calc (num : ℚ) < 2 ^ ((num.log2 : Int) + 1) := num_high
      _ = 2 ^ (guess + 1) * 2 ^ (den.log2 : Int) := by
          rw [← zpow_add₀ two_ne_zero, hguess]
          congr 1
          ring
      _ ≤ 2 ^ (guess + 1) * den := by gcongr

/-- The exponent of a quotient: it leaves at most 53 bits, and no fewer unless it is the least one. -/
theorem exponentOf_spec (hnum : 0 < num) (hden : 0 < den) :
    leastExponent ≤ exponentOf num den ∧
      (num / den : ℚ) < 2 ^ (exponentOf num den + 53) ∧
      (exponentOf num den = leastExponent ∨ (2 : ℚ) ^ (exponentOf num den + 52) ≤ num / den) := by
  obtain ⟨guess, hguess⟩ : ∃ guess : Int, guess = (num.log2 : Int) - den.log2 := ⟨_, rfl⟩
  obtain ⟨low, high⟩ := log2_quotient hnum hden hguess
  have found : ∃ exponent : Int, exponentOf num den = max exponent leastExponent ∧
      (num / den : ℚ) < 2 ^ (exponent + 53) ∧ (2 : ℚ) ^ (exponent + 52) ≤ num / den := by
    unfold exponentOf
    simp only [← hguess]
    by_cases below : belowPower num den guess = true
    · refine ⟨guess - 53, by rw [if_pos below], ?_, ?_⟩
      · rw [sub_add_cancel]
        exact (belowPower_iff hden guess).mp below
      · rw [show guess - 53 + 52 = guess - 1 by ring]
        exact low
    · refine ⟨guess - 52, by rw [if_neg below], ?_, ?_⟩
      · rw [show guess - 52 + 53 = guess + 1 by ring]
        exact high
      · rw [sub_add_cancel]
        exact not_lt.mp fun h => below ((belowPower_iff hden guess).mpr h)
  obtain ⟨exponent, eq, high, low⟩ := found
  rw [eq]
  refine ⟨le_max_right _ _, ?_, ?_⟩
  · refine high.trans_le ?_
    have := le_max_left exponent leastExponent
    gcongr
    norm_num
  · rcases le_total exponent leastExponent with small | large
    · exact .inl (max_eq_right small)
    · rw [max_eq_left large]
      exact .inr low

/-- The exponent is determined by the bits that it leaves. -/
theorem exponentOf_eq (hnum : 0 < num) (hden : 0 < den) (least : leastExponent ≤ e)
    (high : (num / den : ℚ) < 2 ^ (e + 53))
    (low : e = leastExponent ∨ (2 : ℚ) ^ (e + 52) ≤ num / den) : exponentOf num den = e := by
  obtain ⟨least', high', low'⟩ := exponentOf_spec hnum hden
  have above : e ≤ exponentOf num den := by
    rcases low with rfl | low
    · exact least'
    · have := (zpow_lt_zpow_iff_right₀ (one_lt_two (α := ℚ))).mp (low.trans_lt high')
      omega
  have below : exponentOf num den ≤ e := by
    rcases low' with eq | low'
    · rw [eq]
      exact least
    · have := (zpow_lt_zpow_iff_right₀ (one_lt_two (α := ℚ))).mp (low'.trans_lt high)
      omega
  omega

/-! ### Rounding a quotient -/

/-- Rounding a quotient in units of a power of two. -/
theorem roundDiv_scaled {q : Nat} (hden : 0 < den) (e : Int)
    (low : ((q : ℚ) - 1 / 2) * 2 ^ e ≤ num / den) (high : (num / den : ℚ) ≤ (q + 1 / 2) * 2 ^ e)
    (odd : q % 2 = 1 →
      ((q : ℚ) - 1 / 2) * 2 ^ e < num / den ∧ (num / den : ℚ) < (q + 1 / 2) * 2 ^ e) :
    (if 0 ≤ e then roundDiv num (den * Nat.pow 2 e.toNat)
      else roundDiv (num * Nat.pow 2 (-e).toNat) den) = q := by
  have unit : (0 : ℚ) < 2 ^ e := by positivity
  rw [← le_div_iff₀ unit] at low
  rw [← div_le_iff₀ unit] at high
  have odd' : q % 2 = 1 →
      ((q : ℚ) - 1 / 2) < num / den / 2 ^ e ∧ (num / den / 2 ^ e : ℚ) < q + 1 / 2 := by
    intro h
    obtain ⟨l, r⟩ := odd h
    exact ⟨(lt_div_iff₀ unit).mpr l, (div_lt_iff₀ unit).mpr r⟩
  split
  · next nonneg =>
      obtain ⟨k, rfl⟩ := Int.eq_ofNat_of_zero_le nonneg
      have same : (num / den / 2 ^ (k : Int) : ℚ) = num / (den * Nat.pow 2 (k : Int).toNat : Nat) := by
        rw [div_div]
        simp [Nat.pow_eq]
      rw [same] at low high odd'
      exact roundDiv_eq (Nat.mul_pos hden (Nat.pow_pos Nat.two_pos)) low high odd'
  · next negative =>
      obtain ⟨k, hk⟩ : ∃ k : Nat, e = -k := ⟨(-e).toNat, by omega⟩
      subst hk
      have same : (num / den / 2 ^ (-(k : Int)) : ℚ) =
          (num * Nat.pow 2 (-(-(k : Int))).toNat : Nat) / den := by
        rw [zpow_neg, div_inv_eq_mul, div_mul_eq_mul_div]
        simp [Nat.pow_eq]
      rw [same] at low high odd'
      exact roundDiv_eq hden low high odd'

theorem Double.Rounds.pos (positive : Positive m e) (rounds : Rounds m e x) : 0 < x := by
  have pos : (1 : ℚ) ≤ m := by exact_mod_cast positive.pos
  have gap := gapBelow_le m e
  refine lt_of_lt_of_le ?_ rounds.low
  exact mul_pos (by linarith) (by positivity)

/-- Rounding a quotient, given its exponent and its mantissa: a mantissa of 54 bits is a power of two. -/
theorem ofRatio_eq {q : Nat} (hnum : 0 < num) (exponent : exponentOf num den = e)
    (mantissa : (if 0 ≤ e then roundDiv num (den * Nat.pow 2 e.toNat)
      else roundDiv (num * Nat.pow 2 (-e).toNat) den) = q) (negative : Bool) :
    ofRatio negative num den =
      if q = 2 ^ 53 then
        if greatestExponent < e + 1 then .infinite negative else .finite negative (2 ^ 52) (e + 1)
      else if greatestExponent < e then .infinite negative else .finite negative q e := by
  unfold ofRatio
  rw [if_neg hnum.ne']
  simp only [exponent, mantissa]
  rw [Nat.pow_eq, Nat.pow_eq]
  split <;> rfl

section

variable (positive : Positive m e) (rounds : Rounds m e x)

include positive rounds

/-- A rational that rounds to a double has no more bits than the double. -/
theorem Double.Rounds.lt_power : x < 2 ^ (e + 53) := by
  have mantissa : (m : ℚ) + 1 ≤ 2 ^ 53 := by exact_mod_cast positive.mantissa
  have unit : (0 : ℚ) < 2 ^ (e - 2) := by positivity
  calc x ≤ (4 * m + 2) * 2 ^ (e - 2) := rounds.high
    _ < 2 ^ 55 * 2 ^ (e - 2) := by
        gcongr
        linarith
    _ = 2 ^ (e + 53) := by
        rw [← zpow_natCast, ← zpow_add₀ two_ne_zero]
        congr 1
        push_cast
        ring

/-- It has fewer bits only if the double is a power of two. -/
theorem Double.Rounds.narrow (normal : e ≠ leastExponent) (below : x < 2 ^ (e + 52)) :
    m = 2 ^ 52 := by
  have mantissa := positive.normal.resolve_right normal
  by_contra other
  have above : (2 : ℚ) ^ 52 + 1 ≤ m := by
    have : 2 ^ 52 + 1 ≤ m := by omega
    exact_mod_cast this
  have low := rounds.low
  rw [gapBelow_other fun narrow => other narrow.1] at low
  refine absurd (lt_of_le_of_lt low below) (not_lt.mpr ?_)
  calc (2 : ℚ) ^ (e + 52) = 2 ^ 54 * 2 ^ (e - 2) := zpow_mantissa_quarters e
    _ ≤ (4 * m - (2 : Nat)) * 2 ^ (e - 2) := by
        gcongr
        push_cast
        linarith

/-- Where it has as many bits as the double, it is within half of the last place. -/
theorem Double.Rounds.half (whole : e = leastExponent ∨ (2 : ℚ) ^ (e + 52) ≤ x) :
    ((m : ℚ) - 1 / 2) * 2 ^ e ≤ x ∧ (m % 2 = 1 → ((m : ℚ) - 1 / 2) * 2 ^ e < x) := by
  by_cases narrow : m = 2 ^ 52 ∧ leastExponent < e
  · obtain ⟨rfl, normal⟩ := narrow
    have above := whole.resolve_left normal.ne'
    refine ⟨?_, fun odd => by norm_num at odd⟩
    refine le_trans ?_ above
    have unit : (0 : ℚ) < 2 ^ e := by positivity
    rw [zpow_add₀ two_ne_zero]
    push_cast
    norm_num
    linarith
  · have low := rounds.low
    have odd := rounds.odd
    rw [gapBelow_other narrow] at low odd
    rw [zpow_quarters e]
    push_cast at low odd
    exact ⟨by linarith, fun h => by linarith [(odd h).1]⟩

end

/-- What rounds to a power of two from below has 53 bits with the exponent before the power's, and is
within half of the last place of it there. -/
theorem Double.Rounds.just_below (rounds : Rounds (2 ^ 52) e x) (above : leastExponent < e)
    (below : x < 2 ^ (e + 52)) :
    (2 : ℚ) ^ (e - 1 + 52) ≤ x ∧ (((2 ^ 53 : Nat) : ℚ) - 1 / 2) * 2 ^ (e - 1) ≤ x ∧
      x ≤ (((2 ^ 53 : Nat) : ℚ) + 1 / 2) * 2 ^ (e - 1) := by
  have low := rounds.low
  rw [gapBelow_power above] at low
  rw [zpow_mantissa_quarters] at below
  have unit : (0 : ℚ) < 2 ^ (e - 2) := by positivity
  refine ⟨?_, ?_, ?_⟩
  · refine le_trans ?_ low
    rw [zpow_add₀ two_ne_zero, zpow_half_quarters]
    push_cast
    norm_num
    linarith
  · rw [zpow_half_quarters]
    push_cast at low ⊢
    linarith
  · rw [zpow_half_quarters]
    push_cast
    linarith

/-- **Whatever rounds to a double is rounded to it.** -/
theorem ofRatio_of_rounds (positive : Positive m e) (hden : 0 < den)
    (rounds : Rounds m e (num / den)) (negative : Bool) :
    ofRatio negative num den = .finite negative m e := by
  have hnum : 0 < num := by
    have := rounds.pos positive
    rcases Nat.eq_zero_or_pos num with rfl | hnum
    · simp at this
    · exact hnum
  have high := rounds.lt_power positive
  by_cases whole : e = leastExponent ∨ (2 : ℚ) ^ (e + 52) ≤ num / den
  · -- the quotient has the exponent of the double
    obtain ⟨low, odd⟩ := rounds.half positive whole
    have mantissa := roundDiv_scaled (q := m) hden e low (by rw [zpow_quarters e]; linarith [rounds.high])
      fun h => ⟨odd h, by rw [zpow_quarters e]; linarith [(rounds.odd h).2]⟩
    rw [ofRatio_eq hnum (exponentOf_eq hnum hden positive.least high whole) mantissa,
      if_neg positive.mantissa.ne, if_neg (not_lt.mpr positive.greatest)]
  · -- the double is a power of two, and the quotient just below it has the exponent before
    obtain ⟨normal, below⟩ := not_or.mp whole
    rw [not_le] at below
    obtain rfl := rounds.narrow positive normal below
    have above : leastExponent < e := lt_of_le_of_ne positive.least (Ne.symm normal)
    obtain ⟨bits, low, high⟩ := rounds.just_below above below
    have exponent : exponentOf num den = e - 1 :=
      exponentOf_eq hnum hden (by omega) (by rwa [show e - 1 + 53 = e + 52 by ring]) (.inr bits)
    have mantissa := @roundDiv_scaled num den (2 ^ 53) hden (e - 1) low high
      (fun odd => by norm_num at odd)
    rw [ofRatio_eq hnum exponent mantissa, if_pos rfl, sub_add_cancel,
      if_neg (not_lt.mpr positive.greatest)]

/-! ### Numbers out of reach -/

/-- A rounded quotient is at most half a unit above it. -/
theorem roundDiv_le (num den : Nat) : 2 * (roundDiv num den * den) ≤ 2 * num + den := by
  have whole : num / den * den + num % den = num := Nat.div_add_mod' num den
  have step : (num / den + 1) * den = num / den * den + den := Nat.succ_mul _ _
  unfold roundDiv
  simp only
  split
  · omega
  · split
    · omega
    · next above below =>
        have half : (num / den + num / den % 2) * den ≤ (num / den + 1) * den :=
          Nat.mul_le_mul_right den (by omega)
        omega

/-- A quotient is rounded up to a power of two from half a unit below it on. -/
theorem roundDiv_eq_power_iff {k : Nat} (hden : 0 < den) (pos : 0 < k) (below : num < 2 ^ k * den) :
    roundDiv num den = 2 ^ k ↔ 2 * (2 ^ k * den) ≤ 2 * num + den := by
  constructor
  · intro rounded
    rw [← rounded]
    exact roundDiv_le num den
  · intro near
    have hden' : (0 : ℚ) < den := by exact_mod_cast hden
    have near' : (2 * (2 ^ k * den) : ℚ) ≤ 2 * num + den := by exact_mod_cast near
    have below' : (num : ℚ) < 2 ^ k * den := by exact_mod_cast below
    have even : 2 ^ k % 2 = 0 := by
      obtain ⟨k, rfl⟩ := Nat.exists_eq_add_one_of_ne_zero pos.ne'
      rw [Nat.pow_succ, Nat.mul_mod_left]
    refine roundDiv_eq hden ?_ ?_ fun odd => by omega
    · rw [le_div_iff₀ hden']
      push_cast
      linarith
    · rw [div_le_iff₀ hden']
      push_cast
      linarith

/-- A whole number is rounded to infinity from half a unit below the power of two on that would be next. -/
theorem ofRatio_infinite_iff {k : Nat} (top : greatestExponent = (k + 1 : Nat)) (pos : 0 < num)
    (negative : Bool) :
    (∃ negative', ofRatio negative num 1 = .infinite negative') ↔ 2 ^ (k + 54) ≤ num + 2 ^ k := by
  obtain ⟨-, high, low⟩ := exponentOf_spec pos Nat.one_pos
  obtain ⟨e, exponent⟩ : ∃ e, exponentOf num 1 = e := ⟨_, rfl⟩
  obtain ⟨q, mantissa⟩ : ∃ q, (if 0 ≤ e then roundDiv num (1 * Nat.pow 2 e.toNat)
      else roundDiv (num * Nat.pow 2 (-e).toNat) 1) = q := ⟨_, rfl⟩
  rw [exponent, Nat.cast_one, div_one] at high low
  rw [ofRatio_eq pos exponent mantissa]
  have least : leastExponent < 0 := by decide
  have half : 2 ^ (k + 1) = 2 ^ k + 2 ^ k := by rw [Nat.pow_succ, Nat.mul_two]
  have power : 2 ^ (k + 54) = 2 ^ 53 * (1 * 2 ^ (k + 1)) := by
    rw [Nat.one_mul, ← Nat.pow_add]
    congr 1
    omega
  obtain small | same | great := lt_trichotomy e (k + 1 : Nat)
  · -- with another bit it would still not be great enough
    have below : num < 2 ^ (k + 53) := by
      have wide : (2 : ℚ) ^ (e + 53) ≤ 2 ^ ((k + 53 : Nat) : Int) :=
        zpow_le_zpow_right₀ one_le_two (by omega)
      exact_mod_cast high.trans_le wide
    have twice : 2 ^ (k + 54) = 2 ^ (k + 53) + 2 ^ (k + 53) := by rw [Nat.pow_succ, Nat.mul_two]
    have less : 2 ^ k ≤ 2 ^ (k + 53) := Nat.pow_le_pow_right Nat.two_pos (by omega)
    refine iff_of_false ?_ (by omega)
    rw [if_neg (by omega : ¬ greatestExponent < e + 1), if_neg (by omega : ¬ greatestExponent < e)]
    rintro ⟨negative', same⟩
    split at same <;> cases same
  · subst same
    rw [if_pos (Int.natCast_nonneg _), Int.toNat_natCast, Nat.pow_eq] at mantissa
    have below : num < 2 ^ 53 * (1 * 2 ^ (k + 1)) := by
      rw [← power]
      exact_mod_cast high
    have rounded := roundDiv_eq_power_iff (by positivity) (by decide) below
    rw [mantissa] at rounded
    rw [top, if_pos (Int.lt_succ _), if_neg (lt_irrefl _)]
    have near : 2 * (2 ^ 53 * (1 * 2 ^ (k + 1))) ≤ 2 * num + 1 * 2 ^ (k + 1) ↔
        2 ^ (k + 54) ≤ num + 2 ^ k := by
      rw [← power]
      omega
    rw [← near, ← rounded]
    constructor
    · rintro ⟨negative', same⟩
      by_contra other
      rw [if_neg other] at same
      cases same
    · intro up
      exact ⟨negative, if_pos up⟩
  · have above : 2 ^ (k + 54) ≤ num := by
      have wide : (2 : ℚ) ^ ((k + 54 : Nat) : Int) ≤ 2 ^ (e + 52) :=
        zpow_le_zpow_right₀ one_le_two (by omega)
      exact_mod_cast wide.trans (low.resolve_left (by omega))
    refine iff_of_true ⟨negative, ?_⟩ (by omega)
    rw [if_pos (by omega : greatestExponent < e + 1), if_pos (by omega : greatestExponent < e), ite_self]

/-- **Whole numbers that no double is near to.** -/
theorem Double.ofInt?_eq_none_iff {n : Int} : ofInt? n = none ↔ 2 ^ 1024 ≤ n.natAbs + 2 ^ 970 := by
  have infinite : ofInt? n = none ↔ ∃ negative, ofRatio (n < 0) n.natAbs 1 = .infinite negative := by
    rw [ofInt?]
    split
    · next negative same => exact iff_of_true rfl ⟨negative, same⟩
    · next other => exact iff_of_false nofun fun ⟨negative, same⟩ => other negative same
  rw [infinite]
  obtain zero | pos := Nat.eq_zero_or_pos n.natAbs
  · rw [zero]
    have less : 2 ^ 970 < 2 ^ 1024 := by gcongr <;> omega
    exact iff_of_false nofun (by omega)
  · have top : greatestExponent = (970 + 1 : Nat) := rfl
    have great := ofRatio_infinite_iff top pos (n < 0)
    simp only [Nat.reduceAdd] at great
    exact great

end Docwright
