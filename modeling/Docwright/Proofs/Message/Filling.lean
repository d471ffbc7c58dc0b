import Docwright.Message

/-!
# Filling in texts

The part of filling in that a message needs whose values are texts: characters other
than a percent sign stay (`fill_plain`), and `%s` is replaced by the next text
(`fill_text`).  So a template with as many of these directives as there are texts can
be rendered, whatever the texts are (`render_texts`).
-/

namespace Docwright.Template

variable {fuel : Nat} {values : List Datum} {front rest : List Char}

theorem fill_char {c : Char} (plain : c ≠ '%') :
    fill (fuel + 1) values (c :: rest) = (c :: ·) <$> fill fuel values rest := by
  rw [fill]
  · rintro rest' rfl
    exact absurd rfl plain
  · rintro rfl
    exact absurd rfl plain

/-- What holds no percent sign stays. -/
theorem fill_plain (plain : ∀ c ∈ front, c ≠ '%') :
    fill (front.length + fuel) values (front ++ rest) = (front ++ ·) <$> fill fuel values rest := by
  induction front with
  | nil =>
      rw [List.length_nil, Nat.zero_add, List.nil_append]
      exact (id_map _).symm
  | cons c front ih =>
      have step : (c :: front).length + fuel = front.length + fuel + 1 := by
        rw [List.length_cons, Nat.add_right_comm]
      rw [step, List.cons_append, fill_char (plain c List.mem_cons_self),
        ih fun d member => plain d (List.mem_cons_of_mem _ member)]
      cases fill fuel values rest <;> rfl

/-- A text is laid out as it is. -/
theorem convert_text (s : String) :
    Directive.convert ⟨{}, none, none, 's'⟩ (.scalar (.text s)) = .ok s.toList := by
  show Except.ok (layout {} none ⟨false, false, [], s.toList⟩) = _
  simp [layout, Piece.sign]

/-- The next value is put in, if it is a text. -/
theorem fill_text (s : String) :
    fill (fuel + 1) (.scalar (.text s) :: values) ('%' :: 's' :: rest) =
      (s.toList ++ ·) <$> fill fuel values rest := by
  have parsed : Directive.parse (.scalar (.text s) :: values) ('s' :: rest) =
      .ok (⟨{}, none, none, 's'⟩, .scalar (.text s) :: values, rest) := rfl
  have taken : next (.scalar (.text s) :: values) = .ok (.scalar (.text s), values) := rfl
  rw [fill, parsed]
  · simp only [bind, Except.bind, taken, convert_text]
  · rintro rest' same
    cases same

/-! ### Templates of texts -/

/-- A template that has pieces, each with a directive for a text behind it, and an end. -/
def woven : List (List Char) → List Char → List Char
  | [], last => last
  | front :: more, last => front ++ '%' :: 's' :: woven more last

/-- The same with texts put in. -/
def filledIn : List (List Char × String) → List Char → List Char
  | [], last => last
  | (front, s) :: more, last => front ++ (s.toList ++ filledIn more last)

/-- A template of texts: between the directives it holds no percent sign. -/
structure OfTexts (template : List Char) (fronts : List (List Char)) (last : List Char) : Prop where
  plain : ∀ piece ∈ last :: fronts, ∀ c ∈ piece, c ≠ '%'
  whole : template = woven fronts last

instance (template : List Char) (fronts : List (List Char)) (last : List Char) :
    Decidable (OfTexts template fronts last) :=
  decidable_of_iff (((last :: fronts).all fun piece => piece.all (· != '%')) ∧ template = woven fronts last)
    ⟨fun ⟨plain, whole⟩ => ⟨by simpa using plain, whole⟩, fun ⟨plain, whole⟩ => ⟨by simpa using plain, whole⟩⟩

/-- **A template of texts is filled in.**  A directive is two characters long and takes one step, so some
of the fuel is left over. -/
theorem fill_woven {pieces : List (List Char × String)} {last : List Char}
    (plain : ∀ piece ∈ last :: pieces.map Prod.fst, ∀ c ∈ piece, c ≠ '%') (extra : Nat) :
    fill ((woven (pieces.map Prod.fst) last).length + (extra + 1))
      (pieces.map fun piece => .scalar (.text piece.2)) (woven (pieces.map Prod.fst) last) =
        .ok (filledIn pieces last) := by
  induction pieces generalizing extra with
  | nil =>
      have filled := @fill_plain (extra + 1) [] last [] (plain last List.mem_cons_self)
      rw [List.append_nil] at filled
      rw [List.map_nil, woven, List.map_nil, filled]
      exact congrArg Except.ok (List.append_nil last)
  | cons piece more ih =>
      obtain ⟨front, s⟩ := piece
      rw [List.map_cons, List.forall_mem_cons, List.forall_mem_cons] at plain
      have length : (woven (front :: more.map Prod.fst) last).length + (extra + 1) =
          front.length + ((woven (more.map Prod.fst) last).length + (extra + 1 + 1) + 1) := by
        rw [woven, List.length_append, List.length_cons, List.length_cons]
        omega
      rw [List.map_cons, length, woven, fill_plain plain.2.1, List.map_cons, fill_text,
        ih (List.forall_mem_cons.mpr ⟨plain.1, plain.2.2⟩) (extra + 1)]
      rfl

end Docwright.Template

namespace Docwright.Message

open Template (filledIn OfTexts)

/-- **What a message of texts says.** -/
theorem render_texts {message : Message} {pieces : List (List Char × String)} {last : List Char}
    (template : OfTexts message.template.toList (pieces.map Prod.fst) last) (filled : pieces ≠ [])
    (values : message.values = pieces.map fun piece => .scalar (.text piece.2)) :
    message.render = .ok (String.ofList (filledIn pieces last)) := by
  have taken : ¬ message.values.isEmpty := by
    rw [values, List.isEmpty_map, List.isEmpty_iff]
    exact filled
  have done := Template.fill_woven template.plain 0
  rw [Nat.zero_add] at done
  rw [render, if_neg taken, template.whole, values]
  simp only [done]

end Docwright.Message
