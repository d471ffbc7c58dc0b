import Docwright.Json.Printer
import Docwright.Json.Reader

/-!
# Texts in JSON

Every character is read back from what it is written as (`string_escaped`): as
itself, as a letter behind a backslash, as one UTF-16 unit, or as two that make a
pair.  A unit on its own is never mistaken for the first half of a pair, since no
character has a surrogate for its code point.
-/

namespace Docwright.Json

open Text (hexText)

/-! ### UTF-16 units -/

/-- Four hexadecimal digits. -/
theorem hexText_four {n : Nat} (small : n < 65536) :
    hexText 4 n = [(n / 4096).digitChar, (n / 256 % 16).digitChar, (n / 16 % 16).digitChar,
      (n % 16).digitChar] := by
  unfold hexText
  simp only
  rw [Nat.toDigits_eq_if (by decide)]
  split
  · next one =>
      have first : n / 4096 = 0 := by omega
      have second : n / 256 % 16 = 0 := by omega
      have third : n / 16 % 16 = 0 := by omega
      rw [first, second, third, Nat.mod_eq_of_lt one]
      rfl
  · next one =>
      rw [Nat.toDigits_eq_if (by decide)]
      split
      · next two =>
          have first : n / 4096 = 0 := by omega
          have second : n / 256 % 16 = 0 := by omega
          rw [first, second, Nat.mod_eq_of_lt two]
          rfl
      · next two =>
          rw [Nat.toDigits_eq_if (by decide), Nat.div_div_eq_div_mul]
          split
          · next three =>
              have first : n / 4096 = 0 := by omega
              rw [first, Nat.mod_eq_of_lt three]
              rfl
          · next three =>
              rw [Nat.div_div_eq_div_mul, Nat.toDigits_of_lt_base (by omega)]
              rfl

theorem hexValue?_digitChar : ∀ d < 16, hexValue? d.digitChar = some d := by
  decide

/-- A unit is read back from its four digits. -/
theorem unit?_hexText {n : Nat} (small : n < 65536) : unit? (hexText 4 n) = some n := by
  rw [hexText_four small, unit?, hexValue?_digitChar _ (by omega), hexValue?_digitChar _ (by omega),
    hexValue?_digitChar _ (by omega), hexValue?_digitChar _ (by omega)]
  simp only [Option.bind_eq_bind, Option.bind_some, Option.some.injEq]
  omega

theorem length_hexText {n : Nat} (small : n < 65536) : (hexText 4 n).length = 4 := by
  rw [hexText_four small]
  rfl

/-- Behind the letter `u` the digits of a unit stand, and then the rest. -/
theorem take_unit {n : Nat} (small : n < 65536) (rest : List Char) :
    (('u' :: (hexText 4 n ++ rest)).drop 1).take 4 = hexText 4 n ∧
      ('u' :: (hexText 4 n ++ rest)).drop 5 = rest := by
  have length := length_hexText small
  constructor
  · rw [List.drop_one, List.tail_cons, List.take_left' length]
  · rw [List.drop_succ_cons, List.drop_left' length]

/-- A single unit that is no surrogate. -/
theorem escapedUnits_single {n : Nat} (small : n < 65536) (single : ¬ (0xd800 ≤ n ∧ n < 0xdc00))
    {rest : List Char} (more : rest ≠ []) :
    escapedUnits ('u' :: (hexText 4 n ++ rest)) = .ok (charOf n, rest) := by
  obtain ⟨digits, after⟩ := take_unit small rest
  obtain ⟨c, tail, rfl⟩ := List.exists_cons_of_ne_nil more
  unfold escapedUnits
  simp only [digits, after, unit?_hexText small]
  rw [if_neg fun pair => single ⟨pair.1, pair.2.1⟩]

/-- Two units that make a pair. -/
theorem escapedUnits_pair {high low : Nat} (hhigh : 0xd800 ≤ high ∧ high < 0xdc00)
    (hlow : 0xdc00 ≤ low ∧ low < 0xe000) {rest : List Char} (more : rest ≠ []) :
    escapedUnits ('u' :: (hexText 4 high ++ unitEscape low ++ rest)) =
      .ok (charOf (0x10000 + (high - 0xd800) * 0x400 + (low - 0xdc00)), rest) := by
  have small : low < 65536 := by omega
  have length := length_hexText small
  obtain ⟨digits, after⟩ := take_unit (n := high) (by omega) (unitEscape low ++ rest)
  obtain ⟨digits', after'⟩ := take_unit small rest
  have whole : unitEscape low ++ rest = '\\' :: 'u' :: (hexText 4 low ++ rest) := rfl
  rw [whole] at after digits
  have long : 6 < ('\\' :: 'u' :: (hexText 4 low ++ rest)).length := by
    have := List.length_pos_iff.mpr more
    simp only [List.length_cons, List.length_append, length]
    omega
  have second : (('\\' :: 'u' :: (hexText 4 low ++ rest)).drop 2).take 4 = hexText 4 low := digits'
  have third : ('\\' :: 'u' :: (hexText 4 low ++ rest)).drop 6 = rest := after'
  rw [List.append_assoc, whole]
  unfold escapedUnits
  simp only [digits, after, unit?_hexText (n := high) (by omega)]
  rw [if_pos ⟨hhigh.1, hhigh.2, rfl, long⟩]
  simp only [second, third, unit?_hexText small, if_pos hlow]

/-- A character is the one of its code point. -/
theorem charOf_toNat (c : Char) : charOf c.toNat = c := by
  have valid := c.valid
  rw [UInt32.isValidChar, Nat.isValidChar] at valid
  unfold charOf
  rw [if_pos, Char.ofNat_toNat]
  exact valid

/-! ### Characters -/

/-- A character that is written as itself is read as itself. -/
theorem string_raw (start : Rest) (fuel : Nat) (taken : List Char) {c : Char} (rest : Rest)
    (quote : c ≠ '"') (backslash : c ≠ '\\') (visible : ¬ c.toNat < 32) :
    string start (fuel + 1) taken (c :: rest) = string start fuel (c :: taken) rest := by
  rw [string]
  · rw [if_neg visible]
  · exact quote
  · exact fun same => absurd same backslash
  · exact fun _ same => absurd same backslash
  · exact fun _ _ same => absurd same backslash

/-- An escape is read as the letter behind the backslash says. -/
theorem string_simple (start : Rest) (fuel : Nat) (taken : List Char) {letter c : Char} (rest : Rest)
    (other : letter ≠ 'u') (means : simpleEscape? letter = some c) :
    string start (fuel + 1) taken ('\\' :: letter :: rest) = string start fuel (c :: taken) rest := by
  rw [string]
  · rw [means]
  · exact fun same => absurd same other

/-- An escape with UTF-16 units is read as they say. -/
theorem string_units (start : Rest) (fuel : Nat) (taken : List Char) {c : Char} {text rest : Rest}
    (units : escapedUnits ('u' :: text) = .ok (c, rest)) :
    string start (fuel + 1) taken ('\\' :: 'u' :: text) = string start fuel (c :: taken) rest := by
  rw [string, units]

/-- The ways in which a character is written: behind a backslash, as itself, or by its UTF-16 units. -/
inductive Escaped (c : Char) : List Char → Prop
  | simple {letter : Char} (other : letter ≠ 'u') (means : simpleEscape? letter = some c) :
      Escaped c ['\\', letter]
  | visible (quote : c ≠ '"') (backslash : c ≠ '\\') (printable : 32 ≤ c.toNat) : Escaped c [c]
  | unit (basic : c.toNat < 0x10000) : Escaped c (unitEscape c.toNat)
  | pair (beyond : 0x10000 ≤ c.toNat) :
      Escaped c (unitEscape (0xd800 + (c.toNat - 0x10000) / 0x400) ++
        unitEscape (0xdc00 + (c.toNat - 0x10000) % 0x400))

theorem escaped_escapedChar (c : Char) : Escaped c (escapedChar c) := by
  have named : ∀ {n : Nat} {d : Char}, c.toNat = n → d.toNat = n → c = d := by
    intro n d here there
    rw [← Char.ofNat_toNat c, ← Char.ofNat_toNat d, here, there]
  have simple : ∀ {d letter : Char}, c = d → letter ≠ 'u' → simpleEscape? letter = some d →
      Escaped c ['\\', letter] := by
    rintro d letter rfl other means
    exact .simple other means
  unfold escapedChar
  simp only [beq_iff_eq]
  split
  · next same => exact simple same (by decide) rfl
  split
  · next same => exact simple same (by decide) rfl
  split
  · next same => exact simple same (by decide) rfl
  split
  · next same => exact simple same (by decide) rfl
  split
  · next same => exact simple same (by decide) rfl
  split
  · next same => exact simple (named (d := '\x08') same rfl) (by decide) rfl
  split
  · next same => exact simple (named (d := '\x0c') same rfl) (by decide) rfl
  split
  · next quote backslash _ _ _ _ _ visible =>
      simp only [Bool.and_eq_true, decide_eq_true_eq] at visible
      exact .visible quote backslash visible.1
  split
  · next basic => exact .unit basic
  · next beyond => exact .pair (Nat.le_of_not_lt beyond)

/-- **A character is read back from what it is written as.** -/
theorem string_escapedChar (start : Rest) (fuel : Nat) (taken : List Char) (c : Char) {rest : Rest}
    (more : rest ≠ []) :
    string start (fuel + 1) taken (escapedChar c ++ rest) = string start fuel (c :: taken) rest := by
  have valid := c.valid
  rw [UInt32.isValidChar, Nat.isValidChar] at valid
  change c.toNat < 0xd800 ∨ 0xdfff < c.toNat ∧ c.toNat < 0x110000 at valid
  have written := escaped_escapedChar c
  generalize escapedChar c = text at written ⊢
  cases written with
  | simple other means => exact string_simple start fuel taken rest other means
  | visible quote backslash printable => exact string_raw start fuel taken rest quote backslash (Nat.not_lt.mpr printable)
  | unit basic =>
      have units : escapedUnits ('u' :: (hexText 4 c.toNat ++ rest)) = .ok (c, rest) := by
        rw [escapedUnits_single basic (by omega) more, charOf_toNat]
      exact string_units start fuel taken units
  | pair beyond =>
      -- the units are named, lest their values be computed
      obtain ⟨high, high_eq⟩ : ∃ high, high = 0xd800 + (c.toNat - 0x10000) / 0x400 := ⟨_, rfl⟩
      obtain ⟨low, low_eq⟩ : ∃ low, low = 0xdc00 + (c.toNat - 0x10000) % 0x400 := ⟨_, rfl⟩
      have whole : 0x10000 + (high - 0xd800) * 0x400 + (low - 0xdc00) = c.toNat := by omega
      rw [← high_eq, ← low_eq]
      have units : escapedUnits ('u' :: (hexText 4 high ++ unitEscape low ++ rest)) = .ok (c, rest) := by
        rw [escapedUnits_pair (by omega) (by omega) more, whole, charOf_toNat]
      exact string_units start fuel taken units

/-- A text is read back from what stands between its quotes. -/
theorem string_escaped (start : Rest) (text : List Char) (taken : List Char) (rest : Rest)
    {fuel : Nat} (enough : text.length < fuel) :
    string start fuel taken (text.flatMap escapedChar ++ '"' :: rest) =
      .ok (taken.reverse ++ text, rest) := by
  induction text generalizing taken fuel with
  | nil =>
      obtain ⟨fuel, rfl⟩ := Nat.exists_eq_succ_of_ne_zero (Nat.ne_of_gt enough)
      rw [List.flatMap_nil, List.nil_append, string, List.append_nil]
  | cons c more ih =>
      rw [List.length_cons] at enough
      obtain ⟨fuel, rfl⟩ := Nat.exists_eq_succ_of_ne_zero (show fuel ≠ 0 by omega)
      rw [List.flatMap_cons, List.append_assoc, string_escapedChar _ _ _ _ (by simp),
        ih (c :: taken) (by omega)]
      simp

theorem length_le_escaped (text : List Char) :
    text.length ≤ (text.flatMap escapedChar).length := by
  have written : ∀ c, 1 ≤ (escapedChar c).length := by
    intro c
    have unit : ∀ n, 1 ≤ (unitEscape n).length := fun n => by simp [unitEscape]
    have escaped := escaped_escapedChar c
    generalize escapedChar c = text at escaped ⊢
    cases escaped with
    | simple => exact Nat.le_add_left 1 1
    | visible => exact Nat.le_refl 1
    | unit => exact unit _
    | pair =>
        rw [List.length_append]
        exact Nat.le_add_right_of_le (unit _)
  induction text with
  | nil => exact Nat.le_refl _
  | cons c more ih =>
      have := written c
      rw [List.flatMap_cons, List.length_append, List.length_cons]
      omega

/-- A text in quotes is read back, from behind the first quote on. -/
theorem string_quoted (start : Rest) (text : List Char) (rest : Rest) :
    string start ((text.flatMap escapedChar ++ '"' :: rest).length + 1) []
      (text.flatMap escapedChar ++ '"' :: rest) = .ok (text, rest) := by
  have long := length_le_escaped text
  refine string_escaped start text [] rest ?_
  rw [List.length_append]
  omega

end Docwright.Json
