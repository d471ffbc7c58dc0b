import Docwright.Proofs.Message.Scanning
import Docwright.Proofs.Number.Digits
import Docwright.Record

/-!
# Substitution by position

A template may be made of segments: texts without a percent sign, percent signs, which are
written as two, and places for values, which are written `%s`.  Filling in puts the values
into the places in order, each of them by itself, and every place needs a value and every
value a place (`filled_wording`).  What is put in is not looked at again, whatever it holds.

The length of a run of percent signs does not matter: it is read from the left, two by two,
and `Segment` is what it is read as.
-/

namespace Docwright

namespace Scalar

variable {values : List Scalar} {value : Scalar}

/-- A value that can be written: a whole number has no more digits than may be converted. -/
def Short : Scalar → Prop
  | int n => n.natAbs < 10 ^ digitLimit
  | _ => True

theorem literal?_eq_none_iff : value.literal? = none ↔ ¬ value.Short := by
  cases value with
  | int n => exact intText?_eq_none_iff.trans Nat.not_lt.symm
  | text s | float d | bool b | null => simp [literal?, Short]

theorem show?_eq_none_iff : value.show? = none ↔ ¬ value.Short := by
  cases value with
  | text s => simp [show?, Short]
  | int n | float d | bool b | null => simp [show?, literal?_eq_none_iff]

/-- Values and their texts. -/
abbrev Spoken : List Scalar → List (List Char) → Prop :=
  List.Forall₂ fun value text => value.show? = some text

/-- Values that can be written have texts. -/
theorem exists_spoken (short : ∀ value ∈ values, value.Short) : ∃ texts, Spoken values texts := by
  induction values with
  | nil => exact ⟨[], .nil⟩
  | cons value rest ih =>
      obtain ⟨first, others⟩ := List.forall_mem_cons.mp short
      obtain ⟨texts, spoken⟩ := ih others
      obtain ⟨text, shown⟩ := Option.ne_none_iff_exists'.mp fun none => show?_eq_none_iff.mp none first
      exact ⟨text :: texts, .cons shown spoken⟩

end Scalar

/-- Values that can be written can be shown together. -/
theorem Datum.exists_literals {values : List Scalar} (short : ∀ value ∈ values, value.Short) :
    ∃ texts, literals? (values.map .scalar) = some texts := by
  induction values with
  | nil => exact ⟨[], rfl⟩
  | cons value rest ih =>
      obtain ⟨first, others⟩ := List.forall_mem_cons.mp short
      obtain ⟨texts, shown⟩ := ih others
      obtain ⟨text, written⟩ :=
        Option.ne_none_iff_exists'.mp fun none => Scalar.literal?_eq_none_iff.mp none first
      refine ⟨text :: texts, ?_⟩
      rw [List.map_cons, literals?, literal?, written, shown]
      rfl

/-- A message of values that can be written shows them where it does not fit. -/
theorem Message.mismatchOf_short {template : String} {values : List Scalar}
    (short : ∀ value ∈ values, value.Short) :
    ∃ shown, mismatchOf ⟨template, values.map .scalar⟩ = .mismatch template shown := by
  obtain ⟨texts, shown⟩ := Datum.exists_literals short
  simp [mismatchOf, Datum.literal?, shown]

namespace Template

/-- A part of a template. -/
inductive Segment
  | plain (text : List Char) (free : '%' ∉ text)
  | sign
  | place

/-- How a part of a template is written. -/
def Segment.wording : Segment → List Char
  | plain text _ => text
  | sign => ['%', '%']
  | place => ['%', 's']

/-- How a template is written. -/
def wording (segments : List Segment) : List Char :=
  segments.flatMap Segment.wording

/-- The number of places for values. -/
def places : List Segment → Nat
  | [] => 0
  | .plain _ _ :: rest => places rest
  | .sign :: rest => places rest
  | .place :: rest => places rest + 1

/-- A template with texts in its places, in order. -/
def said : List Segment → List (List Char) → List Char
  | [], _ => []
  | .plain text _ :: rest, texts => text ++ said rest texts
  | .sign :: rest, texts => '%' :: said rest texts
  | .place :: rest, text :: texts => text ++ said rest texts
  | .place :: rest, [] => said rest []

variable {values : List Datum} {value : Datum} {rest text : List Char}

theorem filled_plain (free : '%' ∉ text) (values : List Datum) (rest : List Char) :
    filled values (text ++ rest) = (text ++ ·) <$> filled values rest := by
  have plain : ∀ c ∈ text, c ≠ '%' := fun c member same => free (same ▸ member)
  have alone : filled [] text = .ok text := by
    have done := @fill_plain 1 [] text [] plain
    rw [List.append_nil] at done
    rw [filled, done]
    exact congrArg Except.ok (List.append_nil text)
  exact filled_append alone values rest

/-- A value is put in by itself, unless it has no text. -/
theorem filled_place :
    filled (value :: values) ('%' :: 's' :: rest) =
      match value.show? with
      | some text => (text ++ ·) <$> filled values rest
      | none => .error .mismatch := by
  have parsed : Directive.parse (value :: values) ('s' :: rest) =
      .ok (⟨{}, none, none, 's'⟩, value :: values, rest) := rfl
  have written : Directive.convert ⟨{}, none, none, 's'⟩ value =
      match value.show? with
      | some text => .ok text
      | none => .error .mismatch := by
    unfold Directive.convert convertText
    cases value.show? with
    | none => rfl
    | some text => simp [layout, Piece.sign, bind, Except.bind]
  have single : '%' ∉ ('s' :: rest).head? := by
    rintro ⟨⟩
  rw [filled_directive single, replaced, parsed]
  simp only [Except.bind, next, written]
  cases value.show? <;> rfl

/-- A place is not filled in without a value. -/
theorem filled_place_nil : filled [] ('%' :: 's' :: rest) = .error .mismatch := by
  have single : '%' ∉ ('s' :: rest).head? := by
    rintro ⟨⟩
  rw [filled_directive single]
  rfl

/-- **What segments are filled in with.**  Each place takes the next value, and all values are taken. -/
theorem filled_wording {segments : List Segment} {values : List Scalar} {texts : List (List Char)}
    (spoken : Scalar.Spoken values texts) :
    filled (values.map .scalar) (wording segments) =
      if places segments = values.length then .ok (said segments texts) else .error .mismatch := by
  induction segments generalizing values texts with
  | nil => cases spoken <;> rfl
  | cons segment rest ih =>
      cases segment with
      | plain text free =>
          refine (filled_plain free (values.map .scalar) (wording rest)).trans ?_
          rw [ih spoken, apply_ite (Functor.map _)]
          rfl
      | sign =>
          refine (@filled_sign (values.map .scalar) (wording rest)).trans ?_
          rw [ih spoken, apply_ite (Functor.map _)]
          rfl
      | place =>
          cases spoken with
          | nil => exact filled_place_nil
          | @cons value text values texts shown spoken =>
              refine (@filled_place (values.map .scalar) (.scalar value) (wording rest)).trans ?_
              rw [Datum.show?, shown, ih spoken]
              dsimp only
              rw [apply_ite (Functor.map _), places, List.length_cons]
              exact if_congr (Nat.add_right_cancel_iff).symm rfl rfl

end Template

namespace Message

open Template (Segment wording places said)

/-- How a template of segments takes its values. -/
structure Substitutes (segments : List Segment) (values : List Scalar) (message : Message) : Prop where
  rendered_iff : (∃ text, message.render = .ok text) ↔ places segments = values.length
  text : places segments = values.length →
    ∃ texts, Scalar.Spoken values texts ∧ message.render = .ok (String.ofList (said segments texts))
  otherwise : places segments ≠ values.length →
    ∃ shown, message.render = .error (.mismatch message.template shown)

/-- **Values are substituted by position.**  A message is rendered exactly if it has as many places as
values, and a message without values is its template. -/
theorem render_segments (segments : List Segment) (values : List Scalar)
    (short : ∀ value ∈ values, value.Short) (template : String) :
    (values ≠ [] →
      Substitutes segments values ⟨String.ofList (wording segments), values.map .scalar⟩) ∧
        render ⟨template, []⟩ = .ok template := by
  refine ⟨fun some_ => ?_, rfl⟩
  obtain ⟨texts, spoken⟩ := Scalar.exists_spoken short
  obtain ⟨shown, mismatch⟩ := @mismatchOf_short (String.ofList (wording segments)) values short
  have filled := @Template.filled_wording segments values texts spoken
  have taken : ¬ (values.map Datum.scalar).isEmpty := by
    rwa [List.isEmpty_map, List.isEmpty_iff]
  by_cases fits : places segments = values.length
  · have done : render ⟨String.ofList (wording segments), values.map .scalar⟩ =
        .ok (String.ofList (said segments texts)) := by
      rw [if_pos fits, Template.filled] at filled
      rw [render, if_neg taken, String.toList_ofList]
      simp only [filled]
    exact ⟨iff_of_true ⟨_, done⟩ fits, fun _ => ⟨texts, spoken, done⟩, absurd fits⟩
  · have refused : render ⟨String.ofList (wording segments), values.map .scalar⟩ =
        .error (.mismatch (String.ofList (wording segments)) shown) := by
      rw [if_neg fits, Template.filled] at filled
      rw [render, if_neg taken, String.toList_ofList]
      simp only [filled, mismatch]
    have silent : ¬ ∃ text, render ⟨String.ofList (wording segments), values.map .scalar⟩ = .ok text := by
      simp [refused]
    exact ⟨iff_of_false silent fits, (absurd · fits), fun _ => ⟨shown, refused⟩⟩

/-- A run of three percent signs before an `s`, and a value that looks like a place. -/
theorem render_segments_percents :
    (∀ value ∈ [Scalar.text "%s", .null], value.Short) ∧ [Scalar.text "%s", .null] ≠ [] ∧
      Substitutes [.sign, .place, .plain ['?'] (by decide), .place] [.text "%s", .null]
        ⟨"%%%s?%s", [.scalar (.text "%s"), .scalar .null]⟩ ∧
      render ⟨"%%%s?%s", [.scalar (.text "%s"), .scalar .null]⟩ = .ok "%%s?None" := by
  have short : ∀ value ∈ [Scalar.text "%s", .null], value.Short := by
    simp [Scalar.Short]
  exact ⟨short, List.cons_ne_nil _ _, (render_segments _ _ short "").1 (List.cons_ne_nil _ _), rfl⟩

end Message

end Docwright
