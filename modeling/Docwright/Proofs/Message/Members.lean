import Docwright.Proofs.Message.Substitution

/-!
# Members in a message

A member of an enumeration counts as a scalar, but has words of its own.  Whether a message
tells the two apart depends on nothing else: what is said with scalars in the places of
members (`Datum.plain`) is the same under every template exactly if each member has the
words of its scalar (`Message.plain_rendered_iff`, `Problem.plain_rendered_iff`).

A directive looks at a value in two ways, for its words or for the scalar that it counts as,
and the scalar is the same for both.  So reading and filling in go the same way with either
(`parse_plain`, `filled_plain_eq`).  For the converse there is a template that shows the words of
one value alone (`telling`): the directive `%.0s` takes a value and shows nothing of it.
-/

namespace Docwright

namespace Datum

/-- A value with a scalar in the place of a member. -/
def plain : Datum → Datum
  | member m => scalar m.base
  | d => d

@[simp] theorem base?_plain (value : Datum) : value.plain.base? = value.base? := by
  cases value <;> rfl

@[simp] theorem asInt?_plain (value : Datum) : value.plain.asInt? = value.asInt? := by
  rw [asInt?, base?_plain, asInt?]

/-- A value has the words of the scalar that it counts as. -/
structure Plainspoken (value : Datum) : Prop where
  shown : value.plain.show? = value.show?
  literal : value.plain.literal? = value.literal?

/-- A value has words. -/
structure Utterable (value : Datum) : Prop where
  shown : ∃ text, value.show? = some text
  literal : ∃ text, value.literal? = some text

theorem plain_ofContext (value : ContextValue) : (ofContext value).plain = scalar value.base := by
  cases value <;> rfl

theorem utterable_scalar {s : Scalar} (short : s.Short) : (scalar s).Utterable where
  shown := Option.ne_none_iff_exists'.mp fun none => Scalar.show?_eq_none_iff.mp none short
  literal := Option.ne_none_iff_exists'.mp fun none => Scalar.literal?_eq_none_iff.mp none short

/-- A member has words, whatever it counts as. -/
theorem utterable_ofContext {value : ContextValue} (short : value.base.Short) :
    (ofContext value).Utterable := by
  cases value with
  | scalar s => exact utterable_scalar short
  | member m => exact ⟨⟨_, rfl⟩, ⟨_, rfl⟩⟩

theorem literals?_plain {values : List Datum} (plain : ∀ value ∈ values, value.Plainspoken) :
    literals? (values.map Datum.plain) = literals? values := by
  induction values with
  | nil => rfl
  | cons value rest ih =>
      obtain ⟨first, others⟩ := List.forall_mem_cons.mp plain
      rw [List.map_cons, literals?, literals?, first.literal, ih others]

end Datum

namespace Template

variable {value : Datum} {values rest : List Datum} {text after shown : List Char} {d : Directive}

/-! ### The same words -/

theorem convert_plain (plain : value.Plainspoken) : d.convert value.plain = d.convert value := by
  have texts : convertText d value.plain = convertText d value := by
    simp only [convertText, plain.shown, plain.literal]
  have whole : convertInt d value.plain = convertInt d value := by
    simp only [convertInt, toInt, Datum.base?_plain, Datum.asInt?_plain]
  have double : convertDouble d value.plain = convertDouble d value := by
    simp only [convertDouble, toDouble, Datum.base?_plain, Datum.asInt?_plain]
  have character : convertChar value.plain = convertChar value := by
    simp only [convertChar, Datum.base?_plain, Datum.asInt?_plain]
  simp only [Directive.convert, texts, whole, double, character]

theorem asked_plain (limit : Nat) (beyond : Overflow) (values : List Datum) :
    asked limit beyond (values.map .plain) =
      (asked limit beyond values).map fun (n, rest) => (n, rest.map .plain) := by
  cases values with
  | nil => rfl
  | cons value rest =>
      rw [List.map_cons, asked_cons, asked_cons, Datum.asInt?_plain]
      cases value.asInt? with
      | none => rfl
      | some n =>
          dsimp only
          split <;> rfl

namespace Directive

theorem parseWidth_plain (flags : Flags) (values : List Datum) (text : List Char) :
    parseWidth flags (values.map .plain) text =
      (parseWidth flags values text).map fun (flags, width, rest, after) =>
        (flags, width, rest.map .plain, after) := by
  obtain other | ⟨more, rfl⟩ | ⟨c, more, rfl, digit⟩ := width_cases text
  · rw [parseWidth_other other, parseWidth_other other]
    rfl
  · rw [parseWidth_star, parseWidth_star, asked_plain]
    cases asked widthLimit .width values <;> rfl
  · rw [parseWidth_digit digit, parseWidth_digit digit]
    cases parseNumber widthLimit 0 (c :: more) <;> rfl

theorem parsePrecision_plain (values : List Datum) (text : List Char) :
    parsePrecision (values.map .plain) text =
      (parsePrecision values text).map fun (precision, rest, after) =>
        (precision, rest.map .plain, after) := by
  obtain other | ⟨more, rfl⟩ | ⟨more, rfl, digits⟩ := precision_cases text
  · rw [parsePrecision_other other, parsePrecision_other other]
    rfl
  · rw [parsePrecision_star, parsePrecision_star, asked_plain]
    cases asked precisionLimit .precision values <;> rfl
  · rw [parsePrecision_point digits, parsePrecision_point digits]
    cases parseNumber precisionLimit 0 more <;> rfl

/-- **Reading a directive does not tell members from scalars.** -/
theorem parse_plain (values : List Datum) (text : List Char) :
    parse (values.map .plain) text =
      (parse values text).map fun (d, rest, after) => (d, rest.map .plain, after) := by
  by_cases named : '(' ∈ text.head?
  · obtain ⟨more, rfl⟩ := List.head?_eq_some_iff.mp named
    rfl
  · obtain ⟨front, after, rfl, all, stops⟩ := exists_flags text
    rw [parse_eq named rfl all stops, parse_eq named rfl all stops, parseWidth_plain]
    cases parseWidth (parseFlags {} front).1 values after with
    | error failure => rfl
    | ok sized =>
        obtain ⟨flags, width, values₁, after₁⟩ := sized
        simp only [Except.map, Except.bind, parsePrecision_plain]
        cases parsePrecision values₁ after₁ with
        | error failure => rfl
        | ok precise =>
            obtain ⟨precision, values₂, after₂⟩ := precise
            simp only
            cases dropSize after₂ <;> rfl

end Directive

theorem replaced_plain (plain : ∀ value ∈ values, value.Plainspoken) (text : List Char) :
    replaced (values.map .plain) text =
      (replaced values text).map fun (shown, rest, after) => (shown, rest.map .plain, after) := by
  rw [replaced, replaced, Directive.parse_plain]
  cases read : Directive.parse values text with
  | error failure => rfl
  | ok answer =>
      obtain ⟨d, others, after⟩ := answer
      obtain ⟨-, taken, -, -, rfl, -⟩ := Directive.parse_local read
      cases others with
      | nil => rfl
      | cons value rest =>
          have first := plain value (List.mem_append_right _ List.mem_cons_self)
          simp only [Except.map, Except.bind, List.map_cons, next, convert_plain first]
          cases d.convert value <;> rfl

/-- **Filling in is the same** with scalars in the places of members that have their words. -/
theorem filled_plain_eq (plain : ∀ value ∈ values, value.Plainspoken) :
    filled (values.map .plain) text = filled values text := by
  induction values, text using scan_induction with
  | nil values => cases values <;> rfl
  | char values c text other ih => rw [filled_char other, filled_char other, ih plain]
  | sign values text ih => rw [filled_sign, filled_sign, ih plain]
  | directive values text single ih =>
      rw [filled_directive single, filled_directive single, replaced_plain plain]
      cases done : replaced values text with
      | error failure => rfl
      | ok answer =>
          obtain ⟨shown, rest, after⟩ := answer
          obtain ⟨-, taken, -, -, rfl, -⟩ := replaced_local done
          have left := ih shown rest after done fun value member =>
            plain value (List.mem_append_right _ member)
          simp only [Except.map, Except.bind, left]

/-! ### Words of its own -/

/-- Directives that take values and show nothing of them. -/
def skipping (count : Nat) : List Char :=
  (List.replicate count ['%', '.', '0', 's']).flatten

/-- A template for the words of one value, or for those from which its kind can be told, with so many
values before and behind it. -/
def telling (conversion : Char) (before behind : Nat) : List Char :=
  skipping before ++ '%' :: conversion :: skipping behind

/-- The words that a conversion shows. -/
def words? (conversion : Char) (value : Datum) : Option (List Char) :=
  if conversion = 's' then value.show? else value.literal?

theorem filled_skipped (utterable : value.Utterable) :
    filled (value :: values) ('%' :: '.' :: '0' :: 's' :: text) = filled values text := by
  obtain ⟨words, shown⟩ := utterable.shown
  have parsed : Directive.parse (value :: values) ('.' :: '0' :: 's' :: text) =
      .ok (⟨{}, none, some 0, 's'⟩, value :: values, text) := rfl
  have written : Directive.convert ⟨{}, none, some 0, 's'⟩ value = .ok [] := by
    simp [Directive.convert, convertText, shown, layout, Piece.sign, bind, Except.bind]
  have single : '%' ∉ ('.' :: '0' :: 's' :: text).head? := by
    rintro ⟨⟩
  rw [filled_directive single, replaced, parsed]
  simp only [Except.bind, next, written, Except.map]
  exact id_map _

theorem filled_skipping {others : List Datum} (utterable : ∀ value ∈ values, value.Utterable) :
    filled (values ++ others) (skipping values.length ++ text) = filled others text := by
  induction values with
  | nil => rfl
  | cons value values ih =>
      obtain ⟨first, rest⟩ := List.forall_mem_cons.mp utterable
      exact (filled_skipped first).trans (ih rest)

/-- A template that shows one value alone. -/
theorem filled_telling {conversion : Char} (either : conversion = 's' ∨ conversion = 'r')
    {before behind : List Datum} (utterable : ∀ value ∈ before ++ behind, value.Utterable)
    (words : words? conversion value = some shown) :
    filled (before ++ value :: behind) (telling conversion before.length behind.length) = .ok shown := by
  have parsed : Directive.parse (value :: behind) (conversion :: skipping behind.length) =
      .ok (⟨{}, none, none, conversion⟩, value :: behind, skipping behind.length) := by
    rcases either with rfl | rfl <;> rfl
  have written : Directive.convert ⟨{}, none, none, conversion⟩ value = .ok shown := by
    rcases either with rfl | rfl <;>
      simp_all [words?, Directive.convert, convertText, layout, Piece.sign, bind, Except.bind]
  have single : '%' ∉ (conversion :: skipping behind.length).head? := by
    rcases either with rfl | rfl <;> rintro ⟨⟩
  have nothing : filled behind (skipping behind.length) = .ok [] := by
    have skipped := @filled_skipping behind [] [] fun value member =>
      utterable value (List.mem_append_right _ member)
    rw [List.append_nil, List.append_nil] at skipped
    exact skipped
  rw [telling, filled_skipping fun value member => utterable value (List.mem_append_left _ member),
    filled_directive single, replaced, parsed]
  simp only [Except.bind, next, written, Except.map, nothing]
  exact congrArg Except.ok (List.append_nil shown)

end Template

namespace Message

open Template (telling words?)

variable {values before behind : List Datum} {value : Datum} {conversion : Char} {shown shown' : List Char}

/-- A message is rendered alike with scalars in the places of members that have their words. -/
theorem render_plain (plain : ∀ value ∈ values, value.Plainspoken) (template : String) :
    render ⟨template, values.map .plain⟩ = render ⟨template, values⟩ := by
  have mismatch : mismatchOf ⟨template, values.map .plain⟩ = mismatchOf ⟨template, values⟩ := by
    simp only [mismatchOf, Datum.literal?, Datum.literals?_plain plain]
  have filled := @Template.filled_plain_eq values template.toList plain
  simp only [Template.filled] at filled
  simp only [render, List.isEmpty_map, filled, mismatch]

/-- A message may show one of its values alone. -/
theorem render_telling (either : conversion = 's' ∨ conversion = 'r')
    (utterable : ∀ value ∈ before ++ behind, value.Utterable)
    (words : words? conversion value = some shown) :
    render ⟨String.ofList (telling conversion before.length behind.length), before ++ value :: behind⟩ =
      .ok (String.ofList shown) := by
  have taken : ¬ (before ++ value :: behind).isEmpty := by simp
  have filled := Template.filled_telling either utterable words
  rw [Template.filled] at filled
  simp only [render, if_neg taken, String.toList_ofList, filled]

/-- Where no template tells members from scalars, each value has the words of the scalar it counts as. -/
theorem words_of_alike (either : conversion = 's' ∨ conversion = 'r')
    (utterable : ∀ other ∈ before ++ behind, other.Utterable ∧ other.plain.Utterable)
    (alike : ∀ template, render ⟨template, (before ++ value :: behind).map .plain⟩ =
      render ⟨template, before ++ value :: behind⟩)
    (words : words? conversion value = some shown) (words' : words? conversion value.plain = some shown') :
    shown' = shown := by
  have own := render_telling either (fun other member => (utterable other member).1) words
  have scalars : ∀ other ∈ before.map Datum.plain ++ behind.map Datum.plain, other.Utterable := by
    rw [← List.map_append]
    exact List.forall_mem_map.mpr fun other member => (utterable other member).2
  have plain := render_telling either scalars words'
  rw [List.length_map, List.length_map, ← List.map_cons, ← List.map_append, alike, own] at plain
  exact (String.ofList_injective (Except.ok.inj plain)).symm

/-- **What tells members from scalars.**  Values that have words are rendered alike with scalars in the
places of members, whatever the template, exactly if each has the words of the scalar it counts as. -/
theorem plain_rendered_iff (utterable : ∀ value ∈ values, value.Utterable ∧ value.plain.Utterable) :
    (∀ template, render ⟨template, values.map .plain⟩ = render ⟨template, values⟩) ↔
      ∀ value ∈ values, value.Plainspoken := by
  refine ⟨fun alike value member => ?_, render_plain⟩
  obtain ⟨⟨⟨shown, said⟩, ⟨literal, written⟩⟩, ⟨shown', said'⟩, ⟨literal', written'⟩⟩ :=
    utterable value member
  obtain ⟨before, behind, rfl⟩ := List.append_of_mem member
  have others : ∀ other ∈ before ++ behind, other.Utterable ∧ other.plain.Utterable := fun other member =>
    utterable other <| List.mem_append.mpr <|
      (List.mem_append.mp member).imp_right (List.mem_cons_of_mem value)
  exact ⟨by rw [said, said', words_of_alike (.inl rfl) others alike said said'],
    by rw [written, written', words_of_alike (.inr rfl) others alike written written']⟩

end Message

namespace Problem

/-- A problem with scalars in the places of members. -/
def plain (p : Problem) : Problem :=
  { p with context := p.values.map .scalar }

@[simp] theorem values_plain (p : Problem) : p.plain.values = p.values := by
  simp [plain, values, ContextValue.base]

/-- All values of a problem are scalars. -/
def Scalars (p : Problem) : Prop :=
  ∀ value ∈ p.context, ∃ s, value = .scalar s

theorem plain_eq_self_iff {p : Problem} : p.plain = p ↔ p.Scalars := by
  obtain ⟨severity, template, context, line⟩ := p
  have each : ∀ value : ContextValue, .scalar value.base = value ↔ ∃ s, value = .scalar s := by
    rintro (s | m)
    · exact iff_of_true rfl ⟨s, rfl⟩
    · exact iff_of_false nofun nofun
  simp only [Scalars, plain, values, mk.injEq, true_and, and_true, List.map_map]
  induction context with
  | nil => simp
  | cons value rest ih =>
      simp only [List.map_cons, List.cons.injEq, List.forall_mem_cons, ih, Function.comp_apply, each]

/-- The values of a problem have the words of the scalars that they count as. -/
def Plainspoken (p : Problem) : Prop := ∀ value ∈ p.context, (Datum.ofContext value).Plainspoken

theorem Scalars.plainspoken {p : Problem} (scalars : p.Scalars) : p.Plainspoken := by
  intro value member
  obtain ⟨s, rfl⟩ := scalars value member
  exact ⟨rfl, rfl⟩

/-- A problem in other words. -/
def reworded (p : Problem) (template : String) : Problem := { p with template := template }

theorem message_plain (p : Problem) : p.plain.message = ⟨p.template, p.message.values.map .plain⟩ := by
  simp only [message, plain, values, List.map_map]
  exact congrArg _ (List.map_congr_left fun value _ => (Datum.plain_ofContext value).symm)

/-- A problem is rendered alike with scalars in the places of members, in any words, exactly if its values
have the words of the scalars that they count as. -/
theorem plain_rendered_iff {p : Problem} (short : ∀ value ∈ p.values, value.Short) :
    (∀ template, (p.plain.reworded template).render = (p.reworded template).render) ↔ p.Plainspoken := by
  have short := List.forall_mem_map.mp short
  have told := @Message.plain_rendered_iff p.message.values <|
    List.forall_mem_map.mpr fun value member => by
      rw [Datum.plain_ofContext]
      exact ⟨Datum.utterable_ofContext (short value member), Datum.utterable_scalar (short value member)⟩
  refine Iff.trans (forall_congr' fun template => ?_) (told.trans List.forall_mem_map)
  have plain : (p.plain.reworded template).message = _ := message_plain (p.reworded template)
  rw [render, plain]
  rfl

end Problem

end Docwright
