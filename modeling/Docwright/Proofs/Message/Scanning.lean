import Docwright.Proofs.Message.Directives
import Docwright.Proofs.Message.Filling

/-!
# Filling in, piece by piece

`filled` is what a template comes to with values.  It is a character that stays, a percent
sign for two of them, or what a directive is replaced by, and then what comes of the rest
(`filled_char`, `filled_sign`, `filled_directive`); the bound on the length of templates, by
which filling in is defined, plays no part.

So templates are gone through by `scan_induction`.  By it, a template that is filled in with
values is filled in alike in front of any other one (`filled_append`), and what ends the
filling in can be told from where it stands (`filled_error_iff`).
-/

namespace Docwright.Template

variable {values rest others : List Datum} {text after front : List Char} {shown : List Char}
  {failure : Failure}

/-- A template filled in with values. -/
def filled (values : List Datum) (text : List Char) : Result (List Char) :=
  fill (text.length + 1) values text

/-- What a directive behind its percent sign is replaced by, and what is left. -/
def replaced (values : List Datum) (text : List Char) :
    Result (List Char × List Datum × List Char) :=
  (Directive.parse values text).bind fun (d, values, text) =>
    (next values).bind fun (value, values) =>
      (d.convert value).map fun shown => (shown, values, text)

theorem replaced_eq_ok_iff :
    replaced values text = .ok (shown, rest, after) ↔
      ∃ d value, Directive.parse values text = .ok (d, value :: rest, after) ∧ d.convert value = .ok shown := by
  unfold replaced
  constructor
  · intro done
    obtain ⟨⟨d, values₁, text₁⟩, read, onwards⟩ := Except.bind_eq_ok_iff.mp done
    obtain ⟨⟨value, values₂⟩, taken, last⟩ := Except.bind_eq_ok_iff.mp onwards
    cases values₁ with
    | nil => cases taken
    | cons first values₁ =>
        obtain ⟨rfl, rfl⟩ := Prod.mk.inj (Except.ok.inj taken)
        dsimp only at last
        cases converted : d.convert first with
        | error failure =>
            rw [converted] at last
            cases last
        | ok shown' =>
            rw [converted] at last
            cases last
            exact ⟨d, first, read, converted⟩
  · rintro ⟨d, value, read, converted⟩
    rw [read]
    simp only [Except.bind, next, converted]
    rfl

/-- A directive is not replaced if it cannot be read, has no value, or its value cannot be written. -/
theorem replaced_eq_error_iff :
    replaced values text = .error failure ↔
      Directive.parse values text = .error failure ∨
        (∃ d after, Directive.parse values text = .ok (d, [], after) ∧ failure = .mismatch) ∨
        ∃ d value rest after, Directive.parse values text = .ok (d, value :: rest, after) ∧
          d.convert value = .error failure := by
  unfold replaced
  cases read : Directive.parse values text with
  | error failure' => simp [Except.bind]
  | ok answer =>
      obtain ⟨d, others, after⟩ := answer
      cases others with
      | nil => simp [Except.bind, next, eq_comm]
      | cons value rest => simp [Except.bind, next, Except.map_eq_error_iff, and_assoc]

/-- What a directive is replaced by does not depend on what comes behind. -/
theorem replaced_local (done : replaced values text = .ok (shown, rest, after)) :
    ∃ form taken, form ≠ [] ∧ text = form ++ after ∧ values = taken ++ rest ∧
      ∀ others more, replaced (taken ++ others) (form ++ more) = .ok (shown, others, more) := by
  obtain ⟨d, value, read, converted⟩ := replaced_eq_ok_iff.mp done
  obtain ⟨form, taken, filled, rfl, rfl, again⟩ := Directive.parse_local read
  refine ⟨form, taken ++ [value], filled, rfl, by simp, fun others more => ?_⟩
  refine replaced_eq_ok_iff.mpr ⟨d, value, ?_, converted⟩
  rw [List.append_assoc]
  exact again (value :: others) more

theorem length_lt_of_replaced (done : replaced values text = .ok (shown, rest, after)) :
    after.length < text.length := by
  obtain ⟨form, taken, nonempty, rfl, -⟩ := replaced_local done
  have := List.length_pos_iff.mpr nonempty
  rw [List.length_append]
  omega

/-! ### Without a bound -/

theorem fill_directive {fuel : Nat} (single : '%' ∉ text.head?) :
    fill (fuel + 1) values ('%' :: text) =
      (replaced values text).bind fun (shown, values, text) => (shown ++ ·) <$> fill fuel values text := by
  rw [fill]
  · unfold replaced
    cases Directive.parse values text with
    | error failure => rfl
    | ok read =>
        obtain ⟨d, values, text⟩ := read
        simp only [bind, Except.bind]
        cases next values with
        | error failure => rfl
        | ok taken =>
            dsimp only
            cases d.convert taken.1 <;> rfl
  · rintro more rfl
    exact single rfl

theorem fill_sign {fuel : Nat} :
    fill (fuel + 1) values ('%' :: '%' :: text) = ('%' :: ·) <$> fill fuel values text := by
  rw [fill]

/-- Bounds that are great enough give the same. -/
theorem fill_congr {fuel fuel' : Nat} (enough : text.length < fuel) (enough' : text.length < fuel') :
    fill fuel values text = fill fuel' values text := by
  induction fuel generalizing fuel' values text with
  | zero => exact absurd enough (Nat.not_lt_zero _)
  | succ fuel ih =>
      obtain ⟨fuel', rfl⟩ := Nat.exists_eq_add_one_of_ne_zero (Nat.ne_zero_of_lt enough')
      cases text with
      | nil => cases values <;> rfl
      | cons c text =>
          rw [List.length_cons] at enough enough'
          by_cases plain : c = '%'
          · subst plain
            by_cases single : '%' ∈ text.head?
            · obtain ⟨more, rfl⟩ := List.head?_eq_some_iff.mp single
              rw [List.length_cons] at enough enough'
              rw [fill_sign, fill_sign, ih (by omega : more.length < fuel) (by omega : more.length < fuel')]
            · rw [fill_directive single, fill_directive single]
              cases done : replaced values text with
              | error failure => rfl
              | ok answer =>
                  obtain ⟨shown, rest, after⟩ := answer
                  have shorter := length_lt_of_replaced done
                  simp only [Except.bind]
                  rw [ih (by omega : after.length < fuel) (by omega : after.length < fuel')]
          · rw [fill_char plain, fill_char plain, ih (by omega : text.length < fuel) (by omega : text.length < fuel')]

theorem filled_char {c : Char} (plain : c ≠ '%') :
    filled values (c :: text) = (c :: ·) <$> filled values text :=
  fill_char plain

theorem filled_sign : filled values ('%' :: '%' :: text) = ('%' :: ·) <$> filled values text := by
  have enough : text.length < ('%' :: text).length + 1 := by
    rw [List.length_cons]
    omega
  rw [filled, List.length_cons, fill_sign, fill_congr enough (Nat.lt_succ_self _), filled]

theorem filled_directive (single : '%' ∉ text.head?) :
    filled values ('%' :: text) =
      (replaced values text).bind fun (shown, values, text) => (shown ++ ·) <$> filled values text := by
  rw [filled, fill_directive single]
  cases done : replaced values text with
  | error failure => rfl
  | ok answer =>
      obtain ⟨shown, rest, after⟩ := answer
      have shorter := length_lt_of_replaced done
      simp only [Except.bind, List.length_cons]
      rw [fill_congr (by omega) (Nat.lt_succ_self after.length), filled]

/-- Going through a template with values: a character that stays, a percent sign, or a directive. -/
theorem scan_induction {motive : List Datum → List Char → Prop} (nil : ∀ values, motive values [])
    (char : ∀ values c text, c ≠ '%' → motive values text → motive values (c :: text))
    (sign : ∀ values text, motive values text → motive values ('%' :: '%' :: text))
    (directive : ∀ values text, '%' ∉ text.head? →
      (∀ shown rest after, replaced values text = .ok (shown, rest, after) → motive rest after) →
        motive values ('%' :: text))
    (values : List Datum) (text : List Char) : motive values text :=
  match text with
  | [] => nil values
  | c :: text =>
    if plain : c = '%' then
      if single : '%' ∈ text.head? then by
        obtain ⟨more, rfl⟩ := List.head?_eq_some_iff.mp single
        exact plain ▸ sign values more (scan_induction nil char sign directive values more)
      else
        plain ▸ directive values text single fun shown rest after done =>
          have := length_lt_of_replaced done
          scan_induction nil char sign directive rest after
    else char values c text plain (scan_induction nil char sign directive values text)
termination_by text.length

/-! ### What stands before and behind -/

theorem map_eq_ok_iff {put : List Char → List Char} {result : Result (List Char)} :
    put <$> result = .ok shown ↔ ∃ inner, result = .ok inner ∧ put inner = shown := by
  cases result <;> simp [Functor.map, Except.map]

theorem map_eq_error_iff {put : List Char → List Char} {result : Result (List Char)} :
    put <$> result = .error failure ↔ result = .error failure :=
  Except.map_eq_error_iff

/-- **A template in front of another one is filled in as it is by itself**, with the values it takes. -/
theorem filled_append (done : filled values front = .ok shown) (others : List Datum) (text : List Char) :
    filled (values ++ others) (front ++ text) = (shown ++ ·) <$> filled others text := by
  induction values, front using scan_induction generalizing shown with
  | nil values =>
      cases values with
      | nil =>
          cases done
          exact (id_map _).symm
      | cons value values => cases done
  | char values c front plain ih =>
      rw [filled_char plain] at done
      obtain ⟨inner, within, rfl⟩ := map_eq_ok_iff.mp done
      rw [List.cons_append, filled_char plain, ih within]
      cases filled others text <;> rfl
  | sign values front ih =>
      rw [filled_sign] at done
      obtain ⟨inner, within, rfl⟩ := map_eq_ok_iff.mp done
      rw [List.cons_append, List.cons_append, filled_sign, ih within]
      cases filled others text <;> rfl
  | directive values front single ih =>
      rw [filled_directive single] at done
      obtain ⟨⟨put, rest, after⟩, replaces, onwards⟩ := Except.bind_eq_ok_iff.mp done
      obtain ⟨inner, within, rfl⟩ := map_eq_ok_iff.mp onwards
      obtain ⟨form, taken, nonempty, rfl, rfl, again⟩ := replaced_local replaces
      have single' : '%' ∉ (form ++ after ++ text).head? := by
        cases form with
        | nil => exact absurd rfl nonempty
        | cons c form => exact single
      rw [List.cons_append, filled_directive single', List.append_assoc, List.append_assoc, again]
      simp only [Except.bind]
      rw [ih put rest after replaces within]
      cases filled others text with
      | error failure => rfl
      | ok last => exact congrArg Except.ok (List.append_assoc put inner last).symm

/-- A directive is filled in by itself. -/
theorem filled_of_replaced (single : '%' ∉ text.head?)
    (done : replaced values text = .ok (shown, rest, after)) :
    ∃ form taken, text = form ++ after ∧ values = taken ++ rest ∧ filled taken ('%' :: form) = .ok shown := by
  obtain ⟨form, taken, nonempty, rfl, rfl, again⟩ := replaced_local done
  refine ⟨form, taken, rfl, rfl, ?_⟩
  have single' : '%' ∉ form.head? := by
    cases form with
    | nil => exact absurd rfl nonempty
    | cons c form => exact single
  have alone := again [] []
  rw [List.append_nil, List.append_nil] at alone
  rw [filled_directive single', alone]
  exact congrArg Except.ok (List.append_nil shown)

/-- Filling in comes to a directive, with these values left and this text behind its percent sign. -/
structure Reaches (values : List Datum) (text : List Char) (others : List Datum) (more : List Char) :
    Prop where
  split : ∃ front used shown, text = front ++ '%' :: more ∧ values = used ++ others ∧
    filled used front = .ok shown
  single : '%' ∉ more.head?

/-- What ends the filling in of a template: a directive is not replaced, or values are left. -/
inductive Stops (values : List Datum) (text : List Char) : Failure → Prop
  | replacing {others : List Datum} {more : List Char} {failure : Failure}
      (reaches : Reaches values text others more) (failed : replaced others more = .error failure) :
      Stops values text failure
  | left {used others : List Datum} {shown : List Char} (some_ : others ≠ [])
      (split : values = used ++ others) (done : filled used text = .ok shown) : Stops values text .mismatch

/-- What ends the filling in of a template ends it behind another one. -/
theorem Stops.behind (stops : Stops rest after failure) (done : filled values front = .ok shown) :
    Stops (values ++ rest) (front ++ after) failure := by
  cases stops with
  | replacing reaches failed =>
      obtain ⟨⟨front', used, shown', rfl, rfl, done'⟩, single⟩ := reaches
      refine .replacing ⟨⟨front ++ front', values ++ used, shown ++ shown', by simp, by simp, ?_⟩, single⟩
        failed
      rw [filled_append done, done']
      rfl
  | @left used others shown' some_ split done' =>
      have whole : filled (values ++ used) (front ++ after) = .ok (shown ++ shown') := by
        rw [filled_append done, done']
        rfl
      exact .left some_ (by rw [split, List.append_assoc]) whole

/-- **Where filling in ends without a text.** -/
theorem filled_error_iff : filled values text = .error failure ↔ Stops values text failure := by
  constructor
  · induction values, text using scan_induction with
    | nil values =>
        cases values with
        | nil => nofun
        | cons value values =>
            intro failed
            cases failed
            exact .left (List.cons_ne_nil value values) rfl (rfl : filled [] [] = .ok [])
    | char values c text plain ih =>
        rw [filled_char plain, map_eq_error_iff]
        intro failed
        have one : filled [] [c] = .ok [c] := by
          rw [filled_char plain]
          rfl
        exact (ih failed).behind one
    | sign values text ih =>
        rw [filled_sign, map_eq_error_iff]
        intro failed
        exact (ih failed).behind (rfl : filled [] ['%', '%'] = .ok ['%'])
    | directive values text single ih =>
        rw [filled_directive single]
        intro failed
        obtain first | ⟨⟨shown, rest, after⟩, done, last⟩ := Except.bind_eq_error_iff.mp failed
        · exact .replacing ⟨⟨[], [], [], rfl, rfl, rfl⟩, single⟩ first
        · have ends := ih shown rest after done (map_eq_error_iff.mp last)
          obtain ⟨form, taken, rfl, rfl, filled_⟩ := filled_of_replaced single done
          exact ends.behind filled_
  · rintro (⟨⟨⟨front, used, shown, rfl, rfl, done⟩, single⟩, failed⟩ | ⟨some_, rfl, done⟩)
    · rw [filled_append done, filled_directive single, failed]
      rfl
    · next used others shown =>
        have ends := filled_append done others []
        rw [List.append_nil] at ends
        rw [ends]
        cases others with
        | nil => exact absurd rfl some_
        | cons value others => rfl

end Docwright.Template
