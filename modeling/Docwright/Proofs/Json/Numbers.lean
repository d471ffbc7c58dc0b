import Docwright.Json.Printer
import Docwright.Proofs.Number.Shortest

/-!
# Numbers in JSON

A number is read back from its text where a comma or a bracket follows
(`number_int`, `number_double`).  The text of a double comes in three layouts: a
first digit with an exponent, digits behind zeros, and digits with a point among
them.  Whatever the layout, the digits that are read are the shortest digits of
the double, perhaps with zeros around them, and so a quotient that rounds to it.
-/

namespace Docwright.Json

open Decimal (digitsOf signed zeros pointed exponentText scientific positional shortest Digits)
open Double (Positive Rounds)

/-- What stands behind a scalar in a list. -/
def Ends (rest : Rest) : Prop :=
  ∃ c more, rest = c :: more ∧ (c = ',' ∨ c = ']')

/-- The whole part of a number: a zero, or digits of which the first is not zero. -/
structure Whole (ds : List Char) : Prop where
  digits : AllDigits ds
  head : ∃ first more, ds = first :: more ∧ (first = '0' → more = [])

variable {ds whole places rest : List Char} {negative : Bool} {e : Int}

theorem Ends.not_digit (ends : Ends rest) : ∀ c ∈ rest.head?, c.isDigit = false := by
  obtain ⟨c, more, rfl, comma | bracket⟩ := ends
  · subst comma
    simp
  · subst bracket
    simp

/-- The digits at the head of a text end where no digit follows. -/
theorem digits_append (digits : AllDigits ds) (stop : ∀ c ∈ rest.head?, c.isDigit = false) :
    Json.digits (ds ++ rest) = (ds, rest) := by
  have taken : (ds ++ rest).takeWhile Char.isDigit = ds ∧
      (ds ++ rest).dropWhile Char.isDigit = rest := by
    induction ds with
    | nil =>
        cases rest with
        | nil => exact ⟨rfl, rfl⟩
        | cons c more =>
            have := stop c rfl
            simp [this]
    | cons c more ih =>
        have first := digits c List.mem_cons_self
        obtain ⟨take, drop⟩ := ih fun d member => digits d (List.mem_cons_of_mem _ member)
        simp [first, take, drop]
  rw [Json.digits, taken.1, taken.2]

theorem whole_digitsOf (n : Nat) : Whole (digitsOf n) where
  digits := allDigits_digitsOf n
  head := by
    rcases Nat.eq_zero_or_pos n with rfl | pos
    · exact ⟨'0', [], rfl, fun _ => rfl⟩
    · obtain ⟨first, more, same, nonzero⟩ := digitsOf_cons pos
      exact ⟨first, more, same, fun zero => absurd zero nonzero⟩

/-- The whole part at the head of a text. -/
theorem whole_zero : Whole ['0'] :=
  ⟨allDigits_zeros 1, '0', [], rfl, fun _ => rfl⟩

theorem wholePart_append (whole_ : Whole ds) (stop : ∀ c ∈ rest.head?, c.isDigit = false) :
    wholePart (ds ++ rest) = (ds, rest) := by
  obtain ⟨first, more, rfl, alone⟩ := whole_.head
  unfold wholePart
  by_cases zero : first = '0'
  · rw [alone zero, zero]
    rfl
  · split
    · next same =>
        rw [List.cons_append] at same
        exact absurd (List.cons.inj same).1 zero
    · exact digits_append whole_.digits stop

/-- A sign is read off first. -/
theorem number_signed {body : Rest} (head : ∀ c ∈ body.head?, c ≠ '-') :
    number (signed negative body) = unsigned negative (signed negative body) body := by
  cases negative with
  | true => rfl
  | false =>
      have plus : (body.head? == some '-') = false := by
        cases body with
        | nil => rfl
        | cons c more => simpa using head c rfl
      unfold number
      rw [signed, if_neg Bool.false_ne_true, plus, if_neg Bool.false_ne_true]

/-- The whole part of a number is read, then a fraction, then an exponent. -/
theorem unsigned_whole (text : Rest) (whole_ : Whole ds)
    (stop : ∀ c ∈ rest.head?, c.isDigit = false) :
    unsigned negative text (ds ++ rest) =
      let (places, rest') := (fraction? rest).getD ([], rest)
      match exponent? rest' with
      | some (e, rest) =>
        .ok (.float (Double.ofDecimal negative (natOf (ds ++ places)) (e - places.length)), rest)
      | none =>
        if !places.isEmpty then
          .ok (.float (Double.ofDecimal negative (natOf (ds ++ places)) (-(places.length : Int))),
            rest')
        else if Scalar.digitLimit < ds.length then .error (.tooManyDigits ds.length)
        else .ok (.int (if negative then -(natOf ds : Int) else natOf ds), rest') := by
  have nonempty : ds.isEmpty = false := by
    obtain ⟨first, more, rfl, -⟩ := whole_.head
    rfl
  unfold unsigned
  rw [wholePart_append whole_ stop]
  exact if_neg (by simp [nonempty])

theorem Ends.fraction? (ends : Ends rest) : fraction? rest = none := by
  obtain ⟨c, more, rfl, rfl | rfl⟩ := ends <;> rfl

theorem Ends.exponent? (ends : Ends rest) : exponent? rest = none := by
  obtain ⟨c, more, rfl, rfl | rfl⟩ := ends <;> rfl

theorem Whole.not_sign (whole_ : Whole ds) (more : Rest) : ∀ c ∈ (ds ++ more).head?, c ≠ '-' := by
  obtain ⟨first, rest, rfl, -⟩ := whole_.head
  rintro c member rfl
  cases member
  exact absurd (whole_.digits '-' List.mem_cons_self) (by decide)

theorem signed_append (negative : Bool) (text more : List Char) :
    signed negative text ++ more = signed negative (text ++ more) := by
  cases negative <;> rfl

/-- **A whole number is read back.** -/
theorem number_int {n : Int} {text : List Char} (written : Scalar.intText? n = some text)
    (ends : Ends rest) : number (text ++ rest) = .ok (.int n, rest) := by
  unfold Scalar.intText? at written
  simp only at written
  split at written
  · cases written
  · next few =>
      cases written
      have whole_ := whole_digitsOf n.natAbs
      rw [signed_append, number_signed (whole_.not_sign rest),
        unsigned_whole _ whole_ ends.not_digit, ends.fraction?]
      simp only [Option.getD_none, ends.exponent?, List.isEmpty_nil, Bool.not_true,
        Bool.false_eq_true, if_false, if_neg few, natOf_digitsOf]
      congr 3
      by_cases neg : n < 0
      · simp only [neg, decide_true, if_true]
        omega
      · simp only [neg, decide_false, Bool.false_eq_true, if_false]
        omega

/-- A number with a fraction. -/
theorem number_fraction (whole_ : Whole whole) (digits : AllDigits places) (some_ : places ≠ [])
    (ends : Ends rest) :
    number (signed negative (whole ++ '.' :: places) ++ rest) =
      .ok (.float (Double.ofDecimal negative (natOf (whole ++ places)) (-(places.length : Int))),
        rest) := by
  have fraction : Json.fraction? ('.' :: (places ++ rest)) = some (places, rest) := by
    obtain ⟨c, more, rfl⟩ := List.exists_cons_of_ne_nil some_
    unfold Json.fraction?
    simp only [digits_append digits ends.not_digit]
  have nonempty : places.isEmpty = false := by simpa using some_
  rw [signed_append, List.append_assoc, List.cons_append, number_signed (whole_.not_sign _),
    unsigned_whole _ whole_ (by simp), fraction]
  simp only [Option.getD_some, ends.exponent?, nonempty, Bool.not_false, if_true]

/-- The digits of an exponent, of which there are two at least. -/
theorem exponent_digits (n : Nat) :
    AllDigits (if (digitsOf n).length < 2 then '0' :: digitsOf n else digitsOf n) ∧
      natOf (if (digitsOf n).length < 2 then '0' :: digitsOf n else digitsOf n) = n ∧
      (if (digitsOf n).length < 2 then '0' :: digitsOf n else digitsOf n) ≠ [] := by
  split
  · have zero : natOf ['0'] = 0 := rfl
    refine ⟨(allDigits_zeros 1).append (allDigits_digitsOf _), ?_, List.cons_ne_nil _ _⟩
    rw [show '0' :: digitsOf n = ['0'] ++ digitsOf n from rfl, natOf_append, zero,
      mul_zero, zero_add, natOf_digitsOf]
  · exact ⟨allDigits_digitsOf _, natOf_digitsOf _, List.ne_nil_of_length_pos (length_digitsOf_pos _)⟩

/-- An exponent is read back. -/
theorem exponent?_exponentText (e : Int) (ends : Ends rest) :
    exponent? (exponentText false e ++ rest) = some (e, rest) := by
  obtain ⟨digits, value, nonempty⟩ := exponent_digits e.natAbs
  unfold exponentText
  simp only
  generalize (if (digitsOf e.natAbs).length < 2 then '0' :: digitsOf e.natAbs
      else digitsOf e.natAbs) = text at digits value nonempty ⊢
  obtain ⟨c, more, rfl⟩ := List.exists_cons_of_ne_nil nonempty
  have found := digits_append digits ends.not_digit
  by_cases neg : e < 0
  · rw [if_pos neg]
    unfold exponent?
    simp only [List.cons_append, Bool.false_eq_true, if_false, beq_self_eq_true, Bool.true_or,
      if_true] at found ⊢
    rw [found]
    simp only [value, Option.some.injEq, Prod.mk.injEq, and_true]
    omega
  · rw [if_neg neg]
    unfold exponent?
    simp only [List.cons_append, Bool.false_eq_true, if_false, beq_self_eq_true, Bool.true_or,
      if_true] at found ⊢
    rw [found]
    simp only [value, Option.some.injEq, Prod.mk.injEq, and_true]
    omega

/-- A number with an exponent, and with a fraction if there are places. -/
theorem number_exponent (whole_ : Whole whole) (digits : AllDigits places) (e : Int)
    (ends : Ends rest) :
    number (signed negative (pointed false whole places ++ exponentText false e) ++ rest) =
      .ok (.float (Double.ofDecimal negative (natOf (whole ++ places)) (e - places.length)),
        rest) := by
  have exponent := exponent?_exponentText e ends
  have mark : ∀ c ∈ (exponentText false e ++ rest).head?, c.isDigit = false := by
    unfold exponentText
    simp
  unfold pointed
  cases places with
  | nil =>
      have none_ : Json.fraction? (exponentText false e ++ rest) = none := rfl
      simp only [List.isEmpty_nil, Bool.not_false, Bool.and_self, if_true]
      rw [signed_append, List.append_assoc, number_signed (whole_.not_sign _),
        unsigned_whole _ whole_ mark, none_]
      simp only [Option.getD_none, exponent]
  | cons c more =>
      have fraction : Json.fraction? ('.' :: (c :: more ++ (exponentText false e ++ rest))) =
          some (c :: more, exponentText false e ++ rest) := by
        unfold Json.fraction?
        simp only [digits_append digits mark]
      simp only [List.isEmpty_cons, Bool.false_and, Bool.false_eq_true, if_false]
      rw [signed_append, List.append_assoc, List.append_assoc, List.cons_append,
        number_signed (whole_.not_sign _), unsigned_whole _ whole_ (by simp), fraction]
      simp only [Option.getD_some, exponent]

/-! ### Doubles -/

variable {m : Nat} {d : Digits}

theorem Whole.of_proper {first : Char} {more : List Char} (proper : d.Proper)
    (digits : d.digits = first :: more) (prefix_ : List Char) (kept : ∃ tail, prefix_ = first :: tail)
    (all : AllDigits prefix_) : Whole prefix_ where
  digits := all
  head := by
    obtain ⟨tail, rfl⟩ := kept
    obtain ⟨first', more', digits', nonzero⟩ := proper.head
    rw [digits] at digits'
    obtain ⟨rfl, rfl⟩ := List.cons.inj digits'
    exact ⟨first, tail, rfl, fun zero => absurd zero nonzero⟩

/-- Digits in the layout with an exponent. -/
theorem number_scientific (proper : d.Proper) (ends : Ends rest) :
    number (signed negative (scientific false false d) ++ rest) =
      .ok (.float (Double.ofDecimal negative (natOf d.digits) (d.point - d.digits.length)), rest) := by
  obtain ⟨first, more, digits, nonzero⟩ := proper.head
  have whole_ : Whole [first] :=
    ⟨fun c member => proper.digits c (by rw [digits]; simp_all), ⟨first, [], rfl, fun _ => rfl⟩⟩
  have places : AllDigits more :=
    fun c member => proper.digits c (by rw [digits]; exact List.mem_cons_of_mem _ member)
  unfold scientific
  rw [digits, List.take_succ_cons, List.take_zero, List.drop_succ_cons, List.drop_zero,
    number_exponent whole_ places (d.point - 1) ends, List.singleton_append, List.length_cons]
  congr 4
  push_cast
  ring

/-- A text, with its sign, is read as a double of the value of digits. -/
def ReadsAs (negative : Bool) (d : Digits) (text rest : List Char) : Prop :=
  ∃ (n : Nat) (exponent : Int), (n : ℚ) * 10 ^ exponent = d.value ∧
    number (signed negative text ++ rest) = .ok (.float (Double.ofDecimal negative n exponent), rest)

/-- Zeros stand behind the point, and then the digits. -/
theorem readsAs_small (proper : d.Proper) (ends : Ends rest) (small : d.point ≤ 0) :
    ReadsAs negative d (['0'] ++ '.' :: (zeros (-d.point).toNat ++ d.digits)) rest := by
  obtain ⟨first, more, digits, nonzero⟩ := proper.head
  refine ⟨_, _, ?_, number_fraction whole_zero
    ((allDigits_zeros _).append proper.digits) (by rw [digits]; simp) ends⟩
  have zero : natOf ['0'] = 0 := rfl
  rw [natOf_append, natOf_append, natOf_zeros, zero, mul_zero, mul_zero, zero_add, zero_add,
    Digits.value, List.length_append, length_zeros]
  congr 2
  push_cast
  omega

/-- The point stands among the digits. -/
theorem readsAs_among (proper : d.Proper) (ends : Ends rest) {k : Nat} (point : d.point = k + 1)
    (long : k + 1 < d.digits.length) :
    ReadsAs negative d (d.digits.take (k + 1) ++ '.' :: d.digits.drop (k + 1)) rest := by
  obtain ⟨first, more, digits, nonzero⟩ := proper.head
  have left : d.digits.drop (k + 1) ≠ [] := by
    rw [← List.length_pos_iff, List.length_drop]
    omega
  have whole_ : Whole (d.digits.take (k + 1)) := by
    refine .of_proper proper digits _ ⟨more.take k, by rw [digits, List.take_succ_cons]⟩ ?_
    exact fun c member => proper.digits c (List.mem_of_mem_take member)
  have places : AllDigits (d.digits.drop (k + 1)) :=
    fun c member => proper.digits c (List.mem_of_mem_drop member)
  refine ⟨_, _, ?_, number_fraction whole_ places left ends⟩
  rw [List.take_append_drop, Digits.value, List.length_drop, point]
  congr 2
  push_cast [long.le]
  omega

/-- Zeros stand between the digits and the point. -/
theorem readsAs_great (proper : d.Proper) (ends : Ends rest) {k : Nat} (point : d.point = k + 1)
    (short : d.digits.length ≤ k + 1) :
    ReadsAs negative d (d.digits ++ zeros (k + 1 - d.digits.length) ++ '.' :: ['0']) rest := by
  obtain ⟨first, more, digits, nonzero⟩ := proper.head
  have ten : (10 : ℚ) ≠ 0 := by norm_num
  have whole_ : Whole (d.digits ++ zeros (k + 1 - d.digits.length)) :=
    .of_proper proper digits _ ⟨more ++ zeros (k + 1 - d.digits.length), by
      rw [digits, List.cons_append]⟩ (proper.digits.append (allDigits_zeros _))
  refine ⟨_, _, ?_, number_fraction whole_ (allDigits_zeros 1) (List.cons_ne_nil _ _) ends⟩
  have zero : natOf ['0'] = 0 := rfl
  rw [natOf_append, natOf_append, natOf_zeros, zero, add_zero, add_zero, Digits.value, length_zeros,
    List.length_singleton]
  push_cast
  have power : (10 : ℚ) ^ (d.point - d.digits.length) = 10 ^ (k + 1 - d.digits.length) := by
    rw [← zpow_natCast]
    congr 1
    omega
  rw [power]
  field_simp

/-- Digits in the layout with a point. -/
theorem number_positional (negative : Bool) (proper : d.Proper) (ends : Ends rest) :
    ReadsAs negative d (pointed false (positional d).1
      (if (positional d).2.isEmpty then ['0'] else (positional d).2)) rest := by
  obtain ⟨first, more, digits, nonzero⟩ := proper.head
  unfold positional
  by_cases small : d.point ≤ 0
  · have nonempty : (zeros (-d.point).toNat ++ d.digits).isEmpty = false := by
      rw [digits]
      simp
    rw [if_pos small]
    simp only [nonempty, Bool.false_eq_true, if_false, pointed, Bool.false_and]
    exact readsAs_small proper ends small
  · obtain ⟨k, hk⟩ : ∃ k : Nat, d.point = k + 1 := ⟨(d.point - 1).toNat, by omega⟩
    have point : d.point.toNat = k + 1 := by omega
    rw [if_neg small]
    simp only [point]
    by_cases long : k + 1 < d.digits.length
    · have none_ : k + 1 - d.digits.length = 0 := by omega
      have nonempty : (d.digits.drop (k + 1)).isEmpty = false := by
        rw [List.isEmpty_eq_false_iff, ← List.length_pos_iff, List.length_drop]
        omega
      rw [none_]
      simp only [zeros, List.replicate_zero, List.append_nil, nonempty, Bool.false_eq_true, if_false,
        pointed, Bool.false_and]
      exact readsAs_among proper ends hk long
    · have empty : d.digits.drop (k + 1) = [] := List.drop_eq_nil_of_le (by omega)
      have all : d.digits.take (k + 1) = d.digits := List.take_of_length_le (by omega)
      rw [empty, all]
      simp only [List.isEmpty_nil, if_true, pointed, List.isEmpty_cons, Bool.false_and,
        Bool.false_eq_true, if_false]
      exact readsAs_great proper ends hk (by omega)

/-- **A finite double is read back.** -/
theorem number_double (canonical : (Double.finite negative m e).Canonical) (ends : Ends rest) :
    number (Decimal.text (.finite negative m e) ++ rest) =
      .ok (.float (.finite negative m e), rest) := by
  rcases canonical with ⟨rfl, rfl⟩ | positive
  · exact number_fraction whole_zero
      (allDigits_zeros 1) (List.cons_ne_nil _ _) ends
  · obtain ⟨proper, rounds⟩ := Docwright.shortest_rounds positive
    simp only [Decimal.text, if_neg positive.pos.ne']
    split
    · rw [number_scientific proper ends]
      rw [Docwright.ofDecimal_of_rounds positive rounds]
    · obtain ⟨n, exponent, value, read⟩ := number_positional negative proper ends
      rw [read]
      rw [← value] at rounds
      rw [Docwright.ofDecimal_of_rounds positive rounds]

end Docwright.Json
