import Docwright.Proofs.Number.Digits
import Docwright.Proofs.Number.Rounding

/-!
# The shortest digits of a double

`Decimal.shortest` writes digits that round to the double they were made for
(`shortest_rounds`).  What has to be shown is that its search comes to an end: on
the grid of seventeen digits one of the two neighbours of a double is among the
rationals that round to it (`hits_of_seventeen_digits`), since there the grid is
finer than the gap between doubles.

With `ofDecimal_of_rounds` the digits are read back as the double.
-/

namespace Docwright

open Decimal Double
open Json (natOf)

variable {m num den : Nat} {e : Int}

/-! ### The magnitude -/

/-- A positive number is between the powers of ten of its count of digits. -/
theorem digitsOf_bounds {n : Nat} (pos : 0 < n) :
    (10 : ℚ) ^ (((digitsOf n).length : Int) - 1) ≤ n ∧
      (n : ℚ) + 1 ≤ 10 ^ ((digitsOf n).length : Int) := by
  have length := length_digitsOf_pos n
  constructor
  · rw [← Nat.cast_one, ← Nat.cast_sub length, zpow_natCast]
    exact_mod_cast pow_length_le pos
  · rw [zpow_natCast]
    exact_mod_cast lt_pow_length n

theorem magnitude_spec (hnum : 0 < num) (hden : 0 < den) :
    (10 : ℚ) ^ (magnitude num den - 1) ≤ num / den ∧ (num / den : ℚ) < 10 ^ magnitude num den := by
  have hnum' : (0 : ℚ) < num := by exact_mod_cast hnum
  have hden' : (0 : ℚ) < den := by exact_mod_cast hden
  -- a quotient is between its whole part and the next number
  have whole : ∀ {a b : Nat}, 0 < b → ((a / b : Nat) : ℚ) ≤ a / b ∧ (a / b : ℚ) < (a / b : Nat) + 1 := by
    intro a b hb
    have hb' : (0 : ℚ) < b := by exact_mod_cast hb
    rw [le_div_iff₀ hb', div_lt_iff₀ hb']
    refine ⟨by exact_mod_cast Nat.div_mul_le_self a b, ?_⟩
    exact_mod_cast Nat.lt_mul_of_div_lt (Nat.lt_succ_self _) hb
  unfold magnitude
  split
  · next large =>
      obtain ⟨low, high⟩ := digitsOf_bounds (Nat.div_pos large hden)
      exact ⟨low.trans (whole hden).1, ((whole hden).2).trans_le high⟩
  · next small =>
      have positive := Nat.div_pos (not_le.mp small).le hnum
      obtain ⟨low, high⟩ := digitsOf_bounds positive
      obtain ⟨k, hk⟩ : ∃ k, k = (digitsOf (den / num)).length := ⟨_, rfl⟩
      have length : 0 < k := hk ▸ length_digitsOf_pos _
      rw [← hk] at low high
      have above := low.trans (whole (a := den) hnum).1
      have below := ((whole (a := den) hnum).2).trans_le high
      -- the same bounds, upside down
      have low' : (10 : ℚ) ^ (-(k : Int)) < num / den := by
        rw [zpow_neg, inv_lt_comm₀ (by positivity) (by positivity), inv_div]
        exact below
      have high' : (num / den : ℚ) ≤ 10 ^ (1 - (k : Int)) := by
        rw [show (1 : Int) - k = -(k - 1) by ring, zpow_neg, le_inv_comm₀ (by positivity) (by positivity),
          inv_div]
        exact above
      simp only [← hk]
      split
      · next exact_ =>
          have value : (num / den : ℚ) = 10 ^ (1 - (k : Int)) := by
            have scaled : (num : ℚ) * 10 ^ (k - 1) = den := by
              rw [Nat.pow_eq] at exact_
              exact_mod_cast exact_
            rw [← scaled, show (1 : Int) - k = -((k - 1 : Nat) : Int) by omega, zpow_neg, zpow_natCast]
            field_simp
          rw [value, show (2 : Int) - k - 1 = 1 - k by ring]
          exact ⟨le_rfl, zpow_lt_zpow_right₀ (by norm_num) (by omega)⟩
      · next inexact =>
          refine ⟨by rw [show (1 : Int) - k - 1 = -k by ring]; exact low'.le, ?_⟩
          refine lt_of_le_of_ne high' fun same => inexact ?_
          rw [show (1 : Int) - k = -((k - 1 : Nat) : Int) by omega, zpow_neg, zpow_natCast,
            div_eq_iff hden'.ne', inv_mul_eq_div, eq_div_iff (by positivity)] at same
          rw [Nat.pow_eq]
          exact_mod_cast same

/-! ### The grid -/

/-- A quotient times a power of ten. -/
theorem timesTen_value (hden : 0 < den) (e : Int) :
    0 < (timesTen num den e).2 ∧
      ((timesTen num den e).1 / (timesTen num den e).2 : ℚ) = num / den * 10 ^ e := by
  unfold timesTen
  split
  · next nonneg =>
      obtain ⟨k, rfl⟩ := Int.eq_ofNat_of_zero_le nonneg
      refine ⟨hden, ?_⟩
      simp [Nat.pow_eq, div_mul_eq_mul_div]
  · next negative =>
      obtain ⟨k, hk⟩ : ∃ k : Nat, e = -k := ⟨(-e).toNat, by omega⟩
      subst hk
      refine ⟨Nat.mul_pos hden (Nat.pow_pos (by decide)), ?_⟩
      simp [Nat.pow_eq, div_eq_mul_inv, mul_assoc, mul_comm]

/-- A number of the grid rounds to the double. -/
def Hits (m : Nat) (e place : Int) (q : Nat) : Prop :=
  Rounds m e (q * (10 : ℚ) ^ place)

theorem hits_iff (pos : 0 < m) (place : Int) (q : Nat) :
    (let (qn, qd) := scaled q 10 place; roundsTo m e qn qd) = true ↔ Hits m e place q := by
  have value := scaled_value q (show 0 < 10 by decide) place
  push_cast at value
  change roundsTo m e (scaled q 10 place).1 (scaled q 10 place).2 = true ↔ _
  rw [roundsTo_iff pos (scaled_snd_pos q (by decide) place), value]
  exact Iff.rfl

/-- A quotient is rounded to one of its neighbours. -/
theorem roundDiv_cases (num den : Nat) : roundDiv num den = num / den ∨ roundDiv num den = num / den + 1 := by
  unfold roundDiv
  simp only
  split
  · exact .inl rfl
  · split
    · exact .inr rfl
    · rcases Nat.mod_two_eq_zero_or_one (num / den) with even | odd
      · exact .inl (by rw [even, add_zero])
      · exact .inr (by rw [odd])

/-- What is found on a grid rounds to the double. -/
theorem hits_of_onGrid? (pos : 0 < m) {place : Int} {q : Nat}
    (found : onGrid? num den (roundsTo m e) place = some q) : Hits m e place q := by
  unfold onGrid? at found
  simp only at found
  split at found
  · next below above =>
      cases found
      rcases roundDiv_cases (timesTen num den (-place)).1 (timesTen num den (-place)).2 with same | same
      · rw [same]
        exact (hits_iff pos _ _).mp below
      · rw [same]
        exact (hits_iff pos _ _).mp above
  · next below above =>
      cases found
      exact (hits_iff pos _ _).mp below
  · next below above =>
      cases found
      exact (hits_iff pos _ _).mp above
  · cases found

/-- On a grid something is found if one of the neighbours rounds to the double. -/
theorem onGrid?_ne_none (pos : 0 < m) {place : Int} {below : Nat}
    (hbelow : below = (timesTen num den (-place)).1 / (timesTen num den (-place)).2)
    (hits : Hits m e place below ∨ Hits m e place (below + 1)) :
    onGrid? num den (roundsTo m e) place ≠ none := by
  rw [← hits_iff pos, ← hits_iff pos, hbelow] at hits
  unfold onGrid?
  simp only at hits ⊢
  split
  · exact Option.some_ne_none _
  · exact Option.some_ne_none _
  · exact Option.some_ne_none _
  · next below above =>
      rw [below, above] at hits
      rcases hits with impossible | impossible <;> cases impossible

/-- What a search finds rounds to the double. -/
theorem hits_of_search (pos : 0 < m) {p : Int} {tries : Nat} {count : Int} {q : Nat} {place : Int}
    (found : search num den (roundsTo m e) p tries count = some (q, place)) : Hits m e place q := by
  induction tries generalizing count with
  | zero => cases found
  | succ tries ih =>
      unfold search at found
      simp only at found
      split at found
      · next q' here =>
          cases found
          exact hits_of_onGrid? pos here
      · exact ih found

/-- A search that comes to a grid where something is found finds something. -/
theorem search_ne_none {p : Int} (tries : Nat) (count : Int)
    (last : onGrid? num den (roundsTo m e) (p - (count + tries)) ≠ none) :
    search num den (roundsTo m e) p (tries + 1) count ≠ none := by
  induction tries generalizing count with
  | zero =>
      rw [Nat.cast_zero, add_zero] at last
      unfold search
      simp only
      split
      · exact Option.some_ne_none _
      · next nothing => exact absurd nothing last
  | succ tries ih =>
      unfold search
      simp only
      split
      · exact Option.some_ne_none _
      · refine ih (count + 1) ?_
        rw [show count + 1 + (tries : Int) = count + (tries + 1 : Nat) by push_cast; ring]
        exact last

/-! ### Seventeen digits -/

/-- On the grid of seventeen digits one of the two neighbours of a double rounds to it. -/
theorem hits_of_seventeen_digits (positive : Positive m e) {p : Int} {below : Nat}
    (magnitude : (10 : ℚ) ^ (p - 1) ≤ m * 2 ^ e)
    (low : (below : ℚ) * 10 ^ (p - 17) ≤ m * 2 ^ e)
    (high : (m : ℚ) * 2 ^ e < (below + 1) * 10 ^ (p - 17)) :
    Hits m e (p - 17) below ∨ Hits m e (p - 17) (below + 1) := by
  obtain ⟨unit, hunit⟩ : ∃ unit : ℚ, unit = 2 ^ (e - 2) := ⟨_, rfl⟩
  have unit_pos : 0 < unit := by rw [hunit]; positivity
  have value : (m : ℚ) * 2 ^ e = 4 * m * unit := by
    rw [hunit, zpow_quarters e]
    ring
  have gap_le := gapBelow_le m e
  have gap_pos := gapBelow_pos m e
  have mantissa : (m : ℚ) ≤ 2 ^ 53 := by exact_mod_cast positive.mantissa.le
  -- the step of the grid, in quarters of the last place of the double
  obtain ⟨step, hstep⟩ : ∃ step : ℚ, step = 10 ^ (p - 17) := ⟨_, rfl⟩
  have fine : step * 10 ^ 16 ≤ 4 * m * unit := by
    rw [← value, hstep, ← zpow_natCast, ← zpow_add₀ (by norm_num)]
    refine le_of_eq_of_le ?_ magnitude
    congr 1
    push_cast
    ring
  rw [← hstep, value] at low high
  have inside : ∀ y : ℚ, (4 * m - gapBelow m e) * unit < y → y < (4 * m + 2) * unit →
      Rounds m e y := by
    intro y l h
    rw [hunit] at l h
    exact ⟨l.le, h.le, fun _ => ⟨l, h⟩⟩
  have gap_unit : (gapBelow m e : ℚ) * unit ≤ 2 * unit := by gcongr
  have unit_gap : unit ≤ gapBelow m e * unit := le_mul_of_one_le_left unit_pos.le gap_pos
  by_cases above : (below + 1 : ℚ) * step < (4 * m + 2) * unit
  · right
    refine inside _ ?_ ?_
    · rw [← hstep]
      push_cast
      linarith
    · rw [← hstep]
      push_cast
      exact above
  · left
    rw [not_lt] at above
    have mantissa_unit : (m : ℚ) * unit ≤ 2 ^ 53 * unit := by gcongr
    refine inside _ ?_ ?_
    · rw [← hstep]
      by_cases narrow : gapBelow m e = 2
      · rw [narrow]
        push_cast
        norm_num at fine mantissa_unit
        linarith
      · -- at a power of two the gap below is half as wide, and so is the step
        have power : m = 2 ^ 52 := by
          by_contra other
          exact narrow (gapBelow_other fun h => other h.1)
        subst power
        push_cast at fine above low
        norm_num at fine above low
        linarith
    · rw [← hstep]
      linarith

theorem Double.ratio_value (m : Nat) (e : Int) :
    0 < (ratio m e).2 ∧ ((ratio m e).1 / (ratio m e).2 : ℚ) = m * 2 ^ e := by
  refine ⟨scaled_snd_pos m Nat.two_pos e, ?_⟩
  have := scaled_value m Nat.two_pos e
  push_cast at this
  exact this

/-- The search for the shortest digits of a double ends with digits that round to it. -/
theorem shortest_search (positive : Positive m e) :
    ∃ q place, Hits m e place q ∧ shortest m e = trimmed q place := by
  obtain ⟨hden, value⟩ := ratio_value m e
  obtain ⟨num, hnum⟩ : ∃ num, num = (ratio m e).1 := ⟨_, rfl⟩
  obtain ⟨den, hden'⟩ : ∃ den, den = (ratio m e).2 := ⟨_, rfl⟩
  rw [← hden'] at hden
  rw [← hnum, ← hden'] at value
  have pos : (0 : ℚ) < m := by exact_mod_cast positive.pos
  have num_pos : 0 < num := by
    rcases Nat.eq_zero_or_pos num with zero | num_pos
    · have : (0 : ℚ) < m * 2 ^ e := by positivity
      rw [← value, zero, Nat.cast_zero, zero_div] at this
      exact absurd this (lt_irrefl 0)
    · exact num_pos
  obtain ⟨p, hp⟩ : ∃ p, p = magnitude num den := ⟨_, rfl⟩
  have magnitude := (magnitude_spec num_pos hden).1
  rw [← hp, value] at magnitude
  have last : onGrid? num den (roundsTo m e) (p - (1 + (16 : Nat))) ≠ none := by
    rw [show p - (1 + ((16 : Nat) : Int)) = p - 17 by push_cast; ring]
    refine onGrid?_ne_none positive.pos rfl ?_
    obtain ⟨unit_pos, scaled⟩ := @timesTen_value num den hden (-(p - 17))
    have unit_pos' : (0 : ℚ) < (timesTen num den (-(p - 17))).2 := by exact_mod_cast unit_pos
    have grid : (0 : ℚ) < 10 ^ (p - 17) := by positivity
    rw [value, zpow_neg, ← div_eq_mul_inv] at scaled
    refine hits_of_seventeen_digits positive magnitude ?_ ?_
    · rw [← le_div_iff₀ grid, ← scaled, le_div_iff₀ unit_pos']
      exact_mod_cast Nat.div_mul_le_self _ _
    · rw [← div_lt_iff₀ grid, ← scaled, div_lt_iff₀ unit_pos']
      exact_mod_cast Nat.lt_mul_of_div_lt (Nat.lt_succ_self _) unit_pos
  have found := search_ne_none 16 1 last
  unfold shortest
  simp only [← hnum, ← hden', ← hp]
  obtain ⟨⟨q, place⟩, here⟩ := Option.ne_none_iff_exists'.mp found
  refine ⟨q, place, hits_of_search positive.pos here, ?_⟩
  rw [here]

/-! ### The digits -/

/-- Digits of a positive number: the first one is not zero. -/
structure Decimal.Digits.Proper (d : Digits) : Prop where
  digits : AllDigits d.digits
  head : ∃ first rest, d.digits = first :: rest ∧ first ≠ '0'

/-- The number that digits are. -/
def Decimal.Digits.value (d : Digits) : ℚ :=
  natOf d.digits * 10 ^ (d.point - d.digits.length)

/-- Digits without the zeros at their end. -/
theorem digitsOf_trimmed (q : Nat) (place : Int) :
    ∃ k, digitsOf q = (trimmed q place).digits ++ zeros k := by
  have parts := (List.takeWhile_append_dropWhile (p := (· == '0')) (l := (digitsOf q).reverse)).symm
  have reversed := congrArg List.reverse parts
  rw [List.reverse_reverse, List.reverse_append] at reversed
  refine ⟨((digitsOf q).reverse.takeWhile (· == '0')).length, reversed.trans ?_⟩
  refine congrArg ((trimmed q place).digits ++ ·) ?_
  rw [List.eq_replicate_of_mem (a := '0') (l := (List.takeWhile _ _).reverse)]
  · rw [List.length_reverse, zeros]
  · intro c member
    exact beq_iff_eq.mp (List.all_eq_true.mp List.all_takeWhile c (List.mem_reverse.mp member))

theorem trimmed_proper {q : Nat} (pos : 0 < q) (place : Int) : (trimmed q place).Proper := by
  obtain ⟨k, parts⟩ := digitsOf_trimmed q place
  have digits := allDigits_digitsOf q
  obtain ⟨first, rest, whole, nonzero⟩ := digitsOf_cons pos
  refine ⟨fun c member => digits c (by rw [parts]; exact List.mem_append_left _ member), ?_⟩
  cases left : (trimmed q place).digits with
  | nil =>
      rw [left, List.nil_append] at parts
      have value := natOf_digitsOf q
      rw [parts, natOf_zeros] at value
      omega
  | cons c more =>
      rw [left, List.cons_append, whole] at parts
      obtain ⟨rfl, -⟩ := List.cons.inj parts
      exact ⟨first, more, rfl, nonzero⟩

theorem trimmed_value (q : Nat) (place : Int) : (trimmed q place).value = q * 10 ^ place := by
  obtain ⟨k, parts⟩ := digitsOf_trimmed q place
  have value := natOf_digitsOf q
  have length := congrArg List.length parts
  rw [parts, natOf_append, natOf_zeros, length_zeros, add_zero] at value
  rw [List.length_append, length_zeros] at length
  have point : (trimmed q place).point = (digitsOf q).length + place := rfl
  have whole : (q : ℚ) = 10 ^ k * natOf (trimmed q place).digits := by exact_mod_cast value.symm
  rw [Decimal.Digits.value, point, length, whole]
  push_cast
  rw [show ((trimmed q place).digits.length : Int) + k + place - (trimmed q place).digits.length =
    k + place by ring, zpow_add₀ (by norm_num), zpow_natCast]
  ring

/-- The shortest digits of a double round to it. -/
theorem shortest_rounds (positive : Positive m e) :
    (shortest m e).Proper ∧ Rounds m e (shortest m e).value := by
  obtain ⟨q, place, hits, found⟩ := shortest_search positive
  have pos : 0 < q := by
    have := hits.pos positive
    rcases Nat.eq_zero_or_pos q with rfl | pos
    · simp at this
    · exact pos
  rw [found, trimmed_value]
  exact ⟨trimmed_proper pos place, hits⟩

/-! ### Reading -/

/-- What rounds to a double is within the range of doubles. -/
theorem Double.Rounds.range {x : ℚ} (positive : Positive m e) (rounds : Rounds m e x) :
    (10 : ℚ) ^ (-400 : Int) < x ∧ x < 10 ^ (320 : Int) := by
  constructor
  · have pos : (1 : ℚ) ≤ m := by exact_mod_cast positive.pos
    have gap := gapBelow_le m e
    have least := positive.least
    have far : ((2 : ℚ) ^ 43) ^ 25 < (10 ^ 16) ^ 25 := by
      gcongr
      norm_num
    rw [← pow_mul, ← pow_mul, show 43 * 25 = 1075 from rfl, show 16 * 25 = 400 from rfl] at far
    calc (10 : ℚ) ^ (-400 : Int) < 2 ^ (leastExponent - 1) := by
          rw [show leastExponent - 1 = -(1075 : Nat) from rfl, show (-400 : Int) = -(400 : Nat) from rfl,
            zpow_neg, zpow_neg, zpow_natCast, zpow_natCast]
          exact inv_strictAnti₀ (by positivity) far
      _ ≤ 2 ^ (e - 1) := zpow_le_zpow_right₀ one_le_two (sub_le_sub_right least 1)
      _ = 2 * 2 ^ (e - 2) := zpow_half_quarters e
      _ ≤ (4 * m - gapBelow m e) * 2 ^ (e - 2) := by
          gcongr
          linarith
      _ ≤ x := rounds.low
  · have greatest := positive.greatest
    have near : ((2 : ℚ) ^ 32) ^ 32 < (10 ^ 10) ^ 32 := by
      gcongr
      norm_num
    rw [← pow_mul, ← pow_mul, show 32 * 32 = 1024 from rfl, show 10 * 32 = 320 from rfl] at near
    calc x < 2 ^ (e + 53) := rounds.lt_power positive
      _ ≤ 2 ^ (greatestExponent + 53) := zpow_le_zpow_right₀ one_le_two (add_le_add_left greatest 53)
      _ < 10 ^ (320 : Int) := by
          rw [show greatestExponent + 53 = (1024 : Nat) from rfl, show (320 : Int) = (320 : Nat) from rfl,
            zpow_natCast, zpow_natCast]
          exact near

/-- **Digits that round to a double are read as it**, whatever notation they are in. -/
theorem ofDecimal_of_rounds (positive : Positive m e) {n : Nat} {exponent : Int}
    (rounds : Rounds m e (n * (10 : ℚ) ^ exponent)) (negative : Bool) :
    ofDecimal negative n exponent = .finite negative m e := by
  have pos : 0 < n := by
    have := rounds.pos positive
    rcases Nat.eq_zero_or_pos n with rfl | pos
    · simp at this
    · exact pos
  obtain ⟨above, below⟩ := rounds.range positive
  obtain ⟨low, high⟩ := digitsOf_bounds pos
  have ten : (1 : ℚ) < 10 := by norm_num
  have power : (0 : ℚ) < 10 ^ exponent := by positivity
  -- a number in the range of doubles is on neither side of the bounds that are checked first
  have not_huge : ¬ 320 < ((digitsOf n).length : Int) + exponent := by
    intro huge
    have bound : (10 : ℚ) ^ (((digitsOf n).length : Int) - 1 + exponent) ≤ n * 10 ^ exponent := by
      rw [zpow_add₀ (by norm_num)]
      gcongr
    have := (zpow_lt_zpow_iff_right₀ ten).mp (bound.trans_lt below)
    omega
  have not_tiny : ¬ ((digitsOf n).length : Int) + exponent < -400 := by
    intro tiny
    have bound : (n * 10 ^ exponent : ℚ) < 10 ^ (((digitsOf n).length : Int) + exponent) := by
      rw [zpow_add₀ (by norm_num)]
      gcongr
      linarith
    have := (zpow_lt_zpow_iff_right₀ ten).mp (above.trans bound)
    omega
  unfold ofDecimal
  simp only
  unfold digitsOf at not_huge not_tiny
  rw [if_neg pos.ne', if_neg not_huge, if_neg not_tiny]
  have value := scaled_value n (show 0 < 10 by decide) exponent
  push_cast at value
  exact ofRatio_of_rounds positive (scaled_snd_pos n (by decide) exponent) (by rwa [value]) negative

end Docwright
