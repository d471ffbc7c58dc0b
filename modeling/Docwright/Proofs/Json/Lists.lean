import Docwright.Proofs.Json.Numbers
import Docwright.Proofs.Json.Strings

/-!
# Lists of scalars in JSON

`parse_compact`: a list of scalars is read back from the line it is written in.
The one thing that is asked of the scalars is that doubles have their one form;
a whole number of too many digits is not written at all.
-/

namespace Docwright

/-- A scalar in its one form. -/
def Scalar.Canonical : Scalar → Prop
  | .float d => d.Canonical
  | .text _ | .int _ | .bool _ | .null => True

namespace Json

variable {s : Scalar} {text rest : Rest}

/-! ### Scalars -/

theorem names_eq : names =
    [(['n', 'u', 'l', 'l'], .null), (['t', 'r', 'u', 'e'], .bool true),
     (['f', 'a', 'l', 's', 'e'], .bool false), (['N', 'a', 'N'], .float .nan),
     (['I', 'n', 'f', 'i', 'n', 'i', 't', 'y'], .float (.infinite false)),
     (['-', 'I', 'n', 'f', 'i', 'n', 'i', 't', 'y'], .float (.infinite true))] := rfl

/-- A text that begins like a number: with a digit, or with a sign and a digit. -/
inductive Numeric : List Char → Prop
  | digit {c : Char} {more : List Char} (digit : c.isDigit = true) : Numeric (c :: more)
  | negative {c : Char} {more : List Char} (digit : c.isDigit = true) : Numeric ('-' :: c :: more)

/-- No name begins like a number. -/
theorem scalar_numeric (numeric : Numeric text) :
    scalar text = (number text).map fun (value, rest) => (.scalar value, rest) := by
  have unnamed : names.find? (fun entry => entry.1.isPrefixOf text) = none := by
    rw [names_eq, List.find?_eq_none]
    simp only [List.mem_cons, List.not_mem_nil, or_false]
    cases numeric with
    | digit digit =>
        rintro entry (rfl | rfl | rfl | rfl | rfl | rfl) <;>
          · simp only [List.isPrefixOf, Bool.and_eq_true, beq_iff_eq]
            rintro ⟨rfl, -⟩
            exact absurd digit (by decide)
    | negative digit =>
        rintro entry (rfl | rfl | rfl | rfl | rfl | rfl)
        iterate 5 simp [List.isPrefixOf]
        simp only [List.isPrefixOf, Bool.and_eq_true, beq_iff_eq]
        rintro ⟨-, rfl, -⟩
        exact absurd digit (by decide)
  unfold scalar
  rw [unnamed]

/-- A number in digits begins like a number, with a sign and without one. -/
theorem numeric_signed (negative : Bool) {body : List Char}
    (head : ∃ c more, body = c :: more ∧ c.isDigit = true) :
    Numeric (Decimal.signed negative body) := by
  obtain ⟨c, more, rfl, digit⟩ := head
  cases negative with
  | true => exact .negative digit
  | false => exact .digit digit

theorem Numeric.append (numeric : Numeric text) (rest : Rest) : Numeric (text ++ rest) := by
  cases numeric with
  | digit digit => exact .digit digit
  | negative digit => exact .negative digit

theorem numeric_intText {n : Int} (written : Scalar.intText? n = some text) : Numeric text := by
  simp only [Scalar.intText?] at written
  split at written
  · cases written
  · obtain ⟨first, more, same, -⟩ := (whole_digitsOf n.natAbs).head
    have digit : first.isDigit = true :=
      allDigits_digitsOf n.natAbs first (same ▸ List.mem_cons_self)
    rw [← Option.some.inj written, same]
    exact numeric_signed _ ⟨first, more, rfl, digit⟩

/-- The text of a finite double begins like a number. -/
theorem numeric_double {negative : Bool} {m : Nat} {e : Int}
    (canonical : (Double.finite negative m e).Canonical) :
    Numeric (Decimal.text (.finite negative m e)) := by
  rcases canonical with ⟨rfl, rfl⟩ | positive
  · exact numeric_signed negative ⟨'0', ['.', '0'], rfl, rfl⟩
  · obtain ⟨proper, -⟩ := shortest_rounds positive
    obtain ⟨first, more, digits, -⟩ := proper.head
    have digit : first.isDigit = true := proper.digits first (digits ▸ List.mem_cons_self)
    have begins : ∀ tail fraction : List Char, ∃ c more,
        Decimal.pointed false (first :: tail) fraction = c :: more ∧ c.isDigit = true := by
      intro tail fraction
      unfold Decimal.pointed
      split
      · exact ⟨first, tail, rfl, digit⟩
      · exact ⟨first, _, rfl, digit⟩
    simp only [Decimal.text, if_neg positive.pos.ne']
    apply numeric_signed
    split
    · obtain ⟨c, more', same, digit⟩ := begins [] more
      unfold Decimal.scientific
      rw [digits, List.take_succ_cons, List.take_zero, List.drop_succ_cons, List.drop_zero, same]
      exact ⟨c, _, rfl, digit⟩
    · unfold Decimal.positional
      split
      · exact ⟨'0', '.' :: (Decimal.zeros (-(Decimal.shortest m e).point).toNat ++ first :: more),
          by simp [Decimal.pointed, digits], rfl⟩
      · obtain ⟨k, point⟩ : ∃ k : Nat, (Decimal.shortest m e).point.toNat = k + 1 :=
          ⟨(Decimal.shortest m e).point.toNat - 1, by omega⟩
        simp only [point, digits, List.take_succ_cons, List.cons_append]
        exact begins _ _

/-- A value that is no text, list or object is a scalar. -/
theorem value_scalar (fuel : Nat) {c : Char} {more : Rest}
    (plain : c ≠ '"' ∧ c ≠ '[' ∧ c ≠ '\x7b') :
    value (fuel + 1) (c :: more) = scalar (c :: more) := by
  rw [value, if_neg (by simpa using plain.1), if_neg (by simpa using plain.2.1),
    if_neg (by simpa using plain.2.2)]

theorem not_of_digit {c d : Char} (digit : c.isDigit = true) (not : d.isDigit = false) : c ≠ d := by
  rintro rfl
  rw [digit] at not
  exact nomatch not

/-- What begins like a number is read as one. -/
theorem value_numeric (fuel : Nat) (numeric : Numeric text) {found : Scalar}
    (read : number text = .ok (found, rest)) :
    value (fuel + 1) text = .ok (.scalar found, rest) := by
  have whole : scalar text = .ok (.scalar found, rest) := by
    rw [scalar_numeric numeric, read]
    rfl
  cases numeric with
  | digit digit =>
      have not {d : Char} (letter : d.isDigit = false) := not_of_digit digit letter
      rw [value_scalar fuel ⟨not rfl, not rfl, not rfl⟩, whole]
  | negative digit => rw [value_scalar fuel (by decide), whole]

/-- **A scalar is read back** where a comma or a bracket follows. -/
theorem value_scalarText (fuel : Nat) (written : scalarText? s = some text)
    (canonical : s.Canonical) (ends : Ends rest) :
    value (fuel + 1) (text ++ rest) = .ok (.scalar s, rest) := by
  cases s with
  | text t =>
      obtain rfl := Option.some.inj written
      rw [quoted, List.cons_append, List.cons_append, List.append_assoc, List.singleton_append, value,
        if_pos (by rfl), string_quoted]
      simp only [Except.map, Datum.text, String.ofList_toList]
  | int n => exact value_numeric fuel ((numeric_intText written).append rest) (number_int written ends)
  | float d =>
      obtain rfl := Option.some.inj written
      cases d with
      | nan => exact value_scalar fuel (by decide)
      | infinite negative => cases negative <;> exact value_scalar fuel (by decide)
      | finite negative m e =>
          exact value_numeric fuel ((numeric_double canonical).append rest)
            (number_double canonical ends)
  | bool b =>
      obtain rfl := Option.some.inj written
      cases b <;> exact value_scalar fuel (by decide)
  | null =>
      obtain rfl := Option.some.inj written
      exact value_scalar fuel (by decide)

/-! ### Lists -/

theorem not_space_of_digit {c : Char} (digit : c.isDigit = true) : isSpace c = false ∧ c ≠ ']' := by
  have not {d : Char} (letter : d.isDigit = false) : c ≠ d := not_of_digit digit letter
  refine ⟨?_, not rfl⟩
  simp only [isSpace, Bool.or_eq_false_iff, beq_eq_false_iff_ne]
  exact ⟨⟨⟨not rfl, not rfl⟩, not rfl⟩, not rfl⟩

theorem Numeric.head (numeric : Numeric text) :
    ∃ c more, text = c :: more ∧ isSpace c = false ∧ c ≠ ']' := by
  cases numeric with
  | digit digit => exact ⟨_, _, rfl, not_space_of_digit digit⟩
  | negative digit => exact ⟨_, _, rfl, by decide⟩

/-- The text of a scalar begins neither with white space nor with the end of a list. -/
theorem scalarText_head (written : scalarText? s = some text) (canonical : s.Canonical) :
    ∃ c more, text = c :: more ∧ isSpace c = false ∧ c ≠ ']' := by
  cases s with
  | text t =>
      obtain rfl := Option.some.inj written
      exact ⟨'"', _, rfl, by decide⟩
  | int n => exact (numeric_intText written).head
  | float d =>
      obtain rfl := Option.some.inj written
      cases d with
      | nan => exact ⟨'N', _, rfl, by decide⟩
      | infinite negative =>
          cases negative
          · exact ⟨'I', _, rfl, by decide⟩
          · exact ⟨'-', _, rfl, by decide⟩
      | finite negative m e => exact (numeric_double canonical).head
  | bool b =>
      obtain rfl := Option.some.inj written
      cases b
      · exact ⟨'f', _, rfl, by decide⟩
      · exact ⟨'t', _, rfl, by decide⟩
  | null =>
      obtain rfl := Option.some.inj written
      exact ⟨'n', _, rfl, by decide⟩

theorem trim_cons {c : Char} {more : Rest} (solid : isSpace c = false) :
    trim (c :: more) = c :: more := by
  rw [trim, List.dropWhile_cons_of_neg (by simp [solid])]

/-- What is made of a list in full is made of each of its elements. -/
theorem forall₂_of_mapM {α β : Type} {f : α → Option β} {as : List α} :
    ∀ {bs : List β}, as.mapM f = some bs → List.Forall₂ (fun a b => f a = some b) as bs := by
  induction as with
  | nil =>
      intro bs made
      obtain rfl := Option.some.inj made
      exact .nil
  | cons a as ih =>
      intro bs made
      rw [List.mapM_cons, Option.bind_eq_bind, Option.bind_eq_some_iff] at made
      obtain ⟨b, first, made⟩ := made
      rw [Option.bind_eq_bind, Option.bind_eq_some_iff] at made
      obtain ⟨others, rest, made⟩ := made
      obtain rfl := Option.some.inj made
      exact .cons first (ih rest)

/-- The texts of scalars, between commas, are read as a list of them up to the bracket.  Each item
takes one unit of fuel. -/
theorem items_scalarTexts (rest : Rest) {values : List Scalar} :
    ∀ {s : Scalar} {text : List Char} {texts : List (List Char)} {fuel : Nat},
      scalarText? s = some text →
      List.Forall₂ (fun v text => scalarText? v = some text) values texts →
      (∀ v ∈ s :: values, v.Canonical) → values.length < fuel →
      items (fuel + 1) (List.intercalate [',', ' '] (text :: texts) ++ ']' :: rest) =
        .ok ((s :: values).map .scalar, rest) := by
  induction values with
  | nil =>
      intro s text texts fuel written none_ canonical enough
      obtain ⟨fuel, rfl⟩ := Nat.exists_eq_succ_of_ne_zero (Nat.ne_of_gt enough)
      cases none_
      have first := value_scalarText fuel written (canonical s List.mem_cons_self)
        (⟨']', rest, rfl, .inr rfl⟩ : Ends (']' :: rest))
      rw [List.intercalate_singleton, items, first]
      rfl
  | cons v values ih =>
      intro s text texts fuel written others canonical enough
      obtain ⟨fuel, rfl⟩ := Nat.exists_eq_succ_of_ne_zero (Nat.ne_of_gt (Nat.zero_lt_of_lt enough))
      cases others with
      | @cons _ next _ more written' others =>
          have canonical' : ∀ w ∈ v :: values, w.Canonical :=
            fun w member => canonical w (List.mem_cons_of_mem _ member)
          obtain ⟨c, tail, head, solid, -⟩ :=
            scalarText_head written' (canonical' v List.mem_cons_self)
          have begins : ∃ tail', List.intercalate [',', ' '] (next :: more) ++ ']' :: rest =
              c :: tail' := by
            rw [head, List.intercalate_cons_cons_left]
            exact ⟨_, rfl⟩
          obtain ⟨tail', begins⟩ := begins
          have skipped : trim (' ' :: (List.intercalate [',', ' '] (next :: more) ++ ']' :: rest)) =
              List.intercalate [',', ' '] (next :: more) ++ ']' :: rest := by
            rw [trim, List.dropWhile_cons_of_pos (by rfl), begins]
            exact trim_cons solid
          have first := value_scalarText fuel written (canonical s List.mem_cons_self)
            (⟨',', ' ' :: (List.intercalate [',', ' '] (next :: more) ++ ']' :: rest), rfl, .inl rfl⟩ :
              Ends _)
          rw [List.intercalate_cons_cons, List.append_assoc, List.append_assoc, items]
          simp only [List.cons_append, List.nil_append]
          rw [first]
          simp only [bind, Except.bind, trim_cons (show isSpace ',' = false from rfl), skipped,
            ih written' others canonical' (Nat.lt_of_succ_lt_succ enough), List.map_cons]

/-- Texts that are not empty take room for each of them. -/
theorem length_le_intercalate {values : List Scalar} {texts : List (List Char)}
    (written : List.Forall₂ (fun v text => scalarText? v = some text) values texts)
    (canonical : ∀ v ∈ values, v.Canonical) :
    values.length ≤ (List.intercalate [',', ' '] texts).length := by
  induction written with
  | nil => exact Nat.zero_le _
  | @cons v text values texts first others ih =>
      obtain ⟨c, tail, rfl, -⟩ := scalarText_head first (canonical v List.mem_cons_self)
      have rest := ih fun w member => canonical w (List.mem_cons_of_mem _ member)
      cases others with
      | nil => simp
      | cons _ _ =>
          rw [List.intercalate_cons_cons, List.length_append, List.length_append, List.length_cons]
          simp only [List.length_cons] at rest ⊢
          omega

/-- **A list of scalars is read back from its line.** -/
theorem parse_compact {values : List Scalar} (line : compact? values = some text)
    (canonical : ∀ v ∈ values, v.Canonical) :
    parse text = .ok (.list (values.map .scalar)) := by
  obtain ⟨texts, each, rfl⟩ := Option.map_eq_some_iff.mp line
  have written := forall₂_of_mapM each
  have long := length_le_intercalate written canonical
  cases written with
  | nil => rfl
  | @cons s first values texts written others =>
      obtain ⟨c, tail, head, solid, open_⟩ :=
        scalarText_head written (canonical s List.mem_cons_self)
      have begins : ∃ more, List.intercalate [',', ' '] (first :: texts) ++ [']'] = c :: more := by
        rw [head, List.intercalate_cons_cons_left]
        exact ⟨_, rfl⟩
      obtain ⟨more, begins⟩ := begins
      have found : ∀ fuel, values.length + 2 < fuel →
          value fuel ('[' :: List.intercalate [',', ' '] (first :: texts) ++ [']']) =
            .ok (.list ((s :: values).map .scalar), []) := by
        intro fuel enough
        obtain ⟨fuel, rfl⟩ : ∃ more, fuel = more + 2 := ⟨fuel - 2, by omega⟩
        have read := items_scalarTexts [] written others canonical
          (show values.length < fuel by omega)
        rw [List.cons_append, value, if_neg (by decide), if_pos (by rfl)]
        rw [begins] at read ⊢
        rw [trim_cons solid]
        split
        · next same => exact absurd (List.cons.inj same).1 open_
        · rw [read]
          rfl
      unfold parse
      rw [if_neg (by simp), List.cons_append, trim_cons (by rfl), ← List.cons_append, found]
      · rfl
      · simp only [List.length_cons, List.length_append] at long ⊢
        omega

end Json

end Docwright
