import Docwright.Proofs.Message.Scanning
import Docwright.Proofs.Number.Rounding

/-!
# Numbers out of reach

A message that does not fit its values is not the only one that cannot be rendered: a number
may be out of reach of its directive.  This module says when.

* `Directive.Beyond` lists, conversion by conversion, the values that are out of reach
  (`convert_overflow_iff`).
* With the numbers that asterisks ask for, these are all (`OutOfReach`), and a message
  fails so exactly if filling in comes to one of them (`render_failures`), whatever stands
  behind.

A value that is no number is never out of reach, so messages of texts fail by not fitting
their values, and not otherwise.
-/

namespace Docwright

/-- What counts as a number: a whole one, a truth value, or a double. -/
def Datum.Numeric (value : Datum) : Prop :=
  match value.base? with
  | some (.int _) | some (.bool _) | some (.float _) => True
  | _ => False

theorem Datum.Numeric.of_asInt? {value : Datum} {n : Int} (whole : value.asInt? = some n) :
    value.Numeric := by
  obtain ⟨s, base, whole⟩ := Option.bind_eq_some_iff.mp whole
  rw [Numeric, base]
  cases s with
  | int n | bool b => trivial
  | text s | float d | null => cases whole

/-- A value counts as the whole number that its scalar counts as. -/
theorem Datum.asInt?_of_base? {value : Datum} {s : Scalar} (base : value.base? = some s) :
    value.asInt? = s.asInt? := by
  rw [asInt?, base, Option.bind_some]

namespace Template

variable {d : Directive} {value : Datum} {values others rest : List Datum} {text more after : List Char}
  {cause : Overflow} {n : Int}

/-! ### Conversions -/

/-- The conversions of whole numbers. -/
def wholeConversions : List Char := ['d', 'i', 'u', 'o', 'x', 'X']

/-- The conversions of doubles. -/
def doubleConversions : List Char := ['e', 'E', 'f', 'F', 'g', 'G']

theorem convert_eq_text (conversion : d.conversion ∈ ['s', 'r', 'a']) :
    d.convert value = (convertText d value).map (layout d.flags d.width) := by
  simp only [List.mem_cons, List.not_mem_nil, or_false] at conversion
  unfold Directive.convert
  rcases conversion with is | is | is <;> rw [is] <;> cases convertText d value <;> rfl

theorem convert_eq_whole (conversion : d.conversion ∈ wholeConversions) :
    d.convert value = (convertInt d value).map (layout d.flags d.width) := by
  simp only [wholeConversions, List.mem_cons, List.not_mem_nil, or_false] at conversion
  unfold Directive.convert
  rcases conversion with is | is | is | is | is | is <;> rw [is] <;> cases convertInt d value <;> rfl

theorem convert_eq_double (conversion : d.conversion ∈ doubleConversions) :
    d.convert value = (convertDouble d value).map (layout d.flags d.width) := by
  simp only [doubleConversions, List.mem_cons, List.not_mem_nil, or_false] at conversion
  unfold Directive.convert
  rcases conversion with is | is | is | is | is | is <;> rw [is] <;> cases convertDouble d value <;> rfl

theorem convert_eq_character (conversion : d.conversion = 'c') :
    d.convert value = (convertChar value).map (layout d.flags d.width) := by
  unfold Directive.convert
  rw [conversion]
  cases convertChar value <;> rfl

theorem convert_eq_other (texts : d.conversion ∉ ['s', 'r', 'a']) (whole : d.conversion ∉ wholeConversions)
    (double : d.conversion ∉ doubleConversions) (character : d.conversion ≠ 'c') :
    d.convert value = .error .mismatch := by
  simp only [wholeConversions, doubleConversions, List.mem_cons, List.not_mem_nil, or_false, not_or]
    at texts whole double
  unfold Directive.convert
  simp [*]
  rfl

/-! ### Values out of reach -/

/-- A value is out of reach of a directive: no character has the code point, infinity is no whole
number, no double is near to the number, or there would be too many digits. -/
inductive Directive.Beyond (d : Directive) (value : Datum) : Overflow → Prop
  | character {n : Int} (conversion : d.conversion = 'c') (whole : value.asInt? = some n)
      (outside : n < 0 ∨ 0x110000 ≤ n) : Beyond d value .character
  | infinity {negative : Bool} (conversion : d.conversion ∈ ['d', 'i', 'u'])
      (infinite : value.base? = some (.float (.infinite negative))) : Beyond d value .infinity
  | double {n : Int} (conversion : d.conversion ∈ doubleConversions) (whole : value.asInt? = some n)
      (great : 2 ^ 1024 ≤ n.natAbs + 2 ^ 970) : Beyond d value .double
  | precisionLimit {n : Int} {precision : Nat} (conversion : d.conversion ∈ wholeConversions)
      (whole : toInt d.conversion value = .ok n) (digits : d.precision = some precision)
      (many : Directive.precisionLimit - 3 < precision) : Beyond d value .precisionLimit

theorem convertText_ne_overflow : convertText d value ≠ .error (.overflow cause) := by
  unfold convertText
  intro failed
  dsimp only at failed
  split at failed <;> cases failed

theorem convertChar_overflow_iff :
    convertChar value = .error (.overflow cause) ↔
      cause = .character ∧ ∃ n, value.asInt? = some n ∧ (n < 0 ∨ 0x110000 ≤ n) := by
  unfold convertChar
  constructor
  · intro failed
    split at failed
    · split at failed <;> cases failed
    · split at failed
      · cases failed
      · next n whole =>
          split at failed
          · next outside =>
              cases failed
              exact ⟨rfl, n, whole, outside⟩
          · cases failed
  · rintro ⟨rfl, n, whole, outside⟩
    split
    · next s base => cases (Datum.asInt?_of_base? base).symm.trans whole
    · rw [whole]
      exact if_pos outside

theorem toInt_overflow_iff {conversion : Char} :
    toInt conversion value = .error (.overflow cause) ↔
      cause = .infinity ∧ basePrefix conversion = [] ∧
        ∃ negative, value.base? = some (.float (.infinite negative)) := by
  unfold toInt
  constructor
  · intro failed
    split at failed
    · next x base =>
        split at failed
        · cases failed
        · next ten =>
            cases x with
            | nan => cases failed
            | infinite negative =>
                cases failed
                exact ⟨rfl, by simpa using ten, negative, base⟩
            | finite negative m e => cases failed
    · split at failed <;> cases failed
  · rintro ⟨rfl, ten, negative, base⟩
    simp [base, ten]

theorem convertInt_overflow_iff :
    convertInt d value = .error (.overflow cause) ↔
      toInt d.conversion value = .error (.overflow cause) ∨
        cause = .precisionLimit ∧ ∃ n precision, toInt d.conversion value = .ok n ∧
          d.precision = some precision ∧ Directive.precisionLimit - 3 < precision := by
  have positive : ¬ Directive.precisionLimit - 3 < 0 := Nat.not_lt_zero _
  unfold convertInt
  cases toInt d.conversion value with
  | error failure => simp [bind, Except.bind]
  | ok n =>
      simp only [bind, Except.bind, reduceCtorEq, false_or, Except.ok.injEq]
      cases d.precision with
      | none =>
          rw [Option.getD_none, if_neg positive]
          refine iff_of_false (fun failed => ?_) (by simp)
          split at failed <;> cases failed
      | some precision =>
          rw [Option.getD_some]
          by_cases many : Directive.precisionLimit - 3 < precision
          · simp [many, eq_comm]
          · rw [if_neg many]
            refine iff_of_false (fun failed => ?_) (by simp [many])
            split at failed <;> cases failed

theorem toDouble_overflow_iff :
    toDouble value = .error (.overflow cause) ↔
      cause = .double ∧ ∃ n, value.asInt? = some n ∧ 2 ^ 1024 ≤ n.natAbs + 2 ^ 970 := by
  unfold toDouble
  constructor
  · intro failed
    split at failed
    · cases failed
    · split at failed
      · cases failed
      · next n whole =>
          split at failed
          · cases failed
          · next none =>
              cases failed
              exact ⟨rfl, n, whole, Double.ofInt?_eq_none_iff.mp none⟩
  · rintro ⟨rfl, n, whole, great⟩
    split
    · next x base => cases (Datum.asInt?_of_base? base).symm.trans whole
    · rw [whole]
      dsimp only
      rw [Double.ofInt?_eq_none_iff.mpr great]

theorem convertDouble_overflow_iff :
    convertDouble d value = .error (.overflow cause) ↔
      cause = .double ∧ ∃ n, value.asInt? = some n ∧ 2 ^ 1024 ≤ n.natAbs + 2 ^ 970 := by
  rw [← toDouble_overflow_iff]
  unfold convertDouble
  cases toDouble value with
  | error failure => simp [bind, Except.bind]
  | ok x => cases x <;> simp [bind, Except.bind]

/-- The conversions to base ten are those of whole numbers without a prefix. -/
theorem basePrefix_eq_nil_iff (conversion : d.conversion ∈ wholeConversions) :
    basePrefix d.conversion = [] ↔ d.conversion ∈ ['d', 'i', 'u'] := by
  simp only [wholeConversions, List.mem_cons, List.not_mem_nil, or_false] at conversion
  rcases conversion with is | is | is | is | is | is <;> rw [is] <;> decide

/-- **A value cannot be written for a number out of reach exactly where it is one.** -/
theorem convert_overflow_iff : d.convert value = .error (.overflow cause) ↔ d.Beyond value cause := by
  constructor
  · intro failed
    by_cases texts : d.conversion ∈ ['s', 'r', 'a']
    · rw [convert_eq_text texts, Except.map_eq_error_iff] at failed
      exact absurd failed convertText_ne_overflow
    by_cases whole : d.conversion ∈ wholeConversions
    · rw [convert_eq_whole whole, Except.map_eq_error_iff, convertInt_overflow_iff] at failed
      obtain infinite | ⟨rfl, n, precision, read, digits, many⟩ := failed
      · obtain ⟨rfl, ten, negative, same⟩ := toInt_overflow_iff.mp infinite
        exact .infinity ((basePrefix_eq_nil_iff whole).mp ten) same
      · exact .precisionLimit whole read digits many
    by_cases double : d.conversion ∈ doubleConversions
    · rw [convert_eq_double double, Except.map_eq_error_iff, convertDouble_overflow_iff] at failed
      obtain ⟨rfl, n, read, great⟩ := failed
      exact .double double read great
    by_cases character : d.conversion = 'c'
    · rw [convert_eq_character character, Except.map_eq_error_iff, convertChar_overflow_iff] at failed
      obtain ⟨rfl, n, read, outside⟩ := failed
      exact .character character read outside
    · rw [convert_eq_other texts whole double character] at failed
      cases failed
  · intro beyond
    cases beyond with
    | character conversion whole outside =>
        rw [convert_eq_character conversion, Except.map_eq_error_iff, convertChar_overflow_iff]
        exact ⟨rfl, _, whole, outside⟩
    | infinity conversion infinite =>
        have whole : d.conversion ∈ wholeConversions := List.mem_append_left ['o', 'x', 'X'] conversion
        rw [convert_eq_whole whole, Except.map_eq_error_iff, convertInt_overflow_iff]
        exact .inl (toInt_overflow_iff.mpr ⟨rfl, (basePrefix_eq_nil_iff whole).mpr conversion, _, infinite⟩)
    | double conversion whole great =>
        rw [convert_eq_double conversion, Except.map_eq_error_iff, convertDouble_overflow_iff]
        exact ⟨rfl, _, whole, great⟩
    | precisionLimit conversion whole digits many =>
        rw [convert_eq_whole conversion, Except.map_eq_error_iff, convertInt_overflow_iff]
        exact .inr ⟨rfl, _, _, whole, digits, many⟩

/-! ### Directives -/

/-- A number out of reach at a directive: one that an asterisk asks for, or the value to be written. -/
inductive OutOfReach (values : List Datum) (text : List Char) (cause : Overflow) : Prop
  | asked (asks : Directive.Asks values text cause)
  | written {d : Directive} {value : Datum} {rest : List Datum} {after : List Char}
      (read : Directive.parse values text = .ok (d, value :: rest, after)) (beyond : d.Beyond value cause)

theorem replaced_overflow_iff :
    replaced values text = .error (.overflow cause) ↔ OutOfReach values text cause := by
  rw [replaced_eq_error_iff]
  constructor
  · rintro (asks | ⟨d, after, -, same⟩ | ⟨d, value, rest, after, read, failed⟩)
    · exact .asked (Directive.parse_overflow_iff.mp asks)
    · cases same
    · exact .written read (convert_overflow_iff.mp failed)
  · rintro (asks | ⟨read, beyond⟩)
    · exact .inl (Directive.parse_overflow_iff.mpr asks)
    · exact .inr (.inr ⟨_, _, _, _, read, convert_overflow_iff.mpr beyond⟩)

/-- A value out of reach is a number. -/
theorem Directive.Beyond.numeric (beyond : d.Beyond value cause) : value.Numeric := by
  cases beyond with
  | character _ whole _ | double _ whole _ => exact .of_asInt? whole
  | infinity _ infinite =>
      rw [Datum.Numeric, infinite]
      trivial
  | precisionLimit _ whole _ _ =>
      unfold toInt at whole
      split at whole
      · next base =>
          rw [Datum.Numeric, base]
          trivial
      · split at whole
        · next n read => exact .of_asInt? read
        · cases whole

/-- Among the values that are left at a directive out of reach there is a number. -/
theorem OutOfReach.numeric (beyond : OutOfReach values text cause) : ∃ value ∈ values, value.Numeric := by
  cases beyond with
  | asked asks =>
      cases asks with
      | width all whole outside others more => exact ⟨_, List.mem_cons_self, .of_asInt? whole⟩
      | precision all stops sized whole outside others more =>
          exact ⟨_, List.mem_append_right _ List.mem_cons_self, .of_asInt? whole⟩
  | @written d value rest after read beyond =>
      obtain ⟨form, taken, -, -, rfl, -⟩ := Directive.parse_local read
      exact ⟨value, List.mem_append_right _ List.mem_cons_self, beyond.numeric⟩

end Template

namespace Message

open Template (Overflow Reaches OutOfReach)

/-- A message with values fails as filling in does. -/
theorem render_overflow_eq_filled {message : Message} {cause : Overflow} (some_ : message.values ≠ []) :
    message.render = .error (.overflow cause) ↔
      Template.filled message.values message.template.toList = .error (.overflow cause) := by
  have taken : ¬ message.values.isEmpty := by rwa [List.isEmpty_iff]
  rw [render, if_neg taken, Template.filled]
  dsimp only
  cases Template.fill _ message.values message.template.toList with
  | ok text => simp
  | error failure =>
      cases failure with
      | mismatch =>
          have short : message.mismatchOf ≠ .overflow cause := by
            unfold mismatchOf
            split <;> simp
          simp [short]
      | overflow cause' => simp

/-- **How messages fail.**  A message that cannot be rendered does not fit its values, or a number is out
of reach, and the latter exactly if filling in comes to it.  Without a number among the values none is. -/
theorem render_failures (message : Message) :
    (∀ failure, message.render = .error failure →
      failure = message.mismatchOf ∨ ∃ cause, failure = .overflow cause) ∧
    (∀ cause, message.render = .error (.overflow cause) ↔
      message.values ≠ [] ∧ ∃ others more,
        Reaches message.values message.template.toList others more ∧ OutOfReach others more cause) ∧
    ((∀ value ∈ message.values, ¬ value.Numeric) → ∀ cause, message.render ≠ .error (.overflow cause)) := by
  have reached : ∀ cause, message.render = .error (.overflow cause) ↔
      message.values ≠ [] ∧ ∃ others more,
        Reaches message.values message.template.toList others more ∧ OutOfReach others more cause := by
    intro cause
    by_cases none : message.values = []
    · refine iff_of_false (fun failed => ?_) fun some_ => some_.1 none
      rw [render, none, List.isEmpty_nil, if_pos rfl] at failed
      cases failed
    · rw [render_overflow_eq_filled none, Template.filled_error_iff, and_iff_right none]
      constructor
      · rintro ⟨reaches, failed⟩
        exact ⟨_, _, reaches, Template.replaced_overflow_iff.mp failed⟩
      · rintro ⟨others, more, reaches, beyond⟩
        exact .replacing reaches (Template.replaced_overflow_iff.mpr beyond)
  refine ⟨fun failure failed => ?_, reached, fun plain cause failed => ?_⟩
  · unfold render at failed
    dsimp only at failed
    split at failed
    · cases failed
    · split at failed
      · cases failed
      · exact .inl (Except.error.inj failed).symm
      · exact .inr ⟨_, (Except.error.inj failed).symm⟩
  · obtain ⟨-, others, more, reaches, beyond⟩ := (reached cause).mp failed
    obtain ⟨value, member, numeric⟩ := beyond.numeric
    obtain ⟨front, used, shown, -, split, -⟩ := reaches.split
    exact plain value (split ▸ List.mem_append_right used member) numeric

/-- A text, nothing, and directives of all kinds for them. -/
theorem render_failures_texts :
    (∀ value ∈ [Datum.text "a%d", .scalar .null], ¬ value.Numeric) ∧
      ∀ cause, render ⟨"%-9.3r%%%*d", [.text "a%d", .scalar .null]⟩ ≠ .error (.overflow cause) := by
  have plain : ∀ value ∈ [Datum.text "a%d", .scalar .null], ¬ value.Numeric := by
    simp [Datum.text, Datum.Numeric, Datum.base?]
  exact ⟨plain, (render_failures _).2.2 plain⟩

/-- Messages that cannot be rendered, and not for their values not fitting: no character has the code
point, infinity is no whole number, no double is near to the number, and a width or a precision is beyond
what either may be. -/
theorem numbers_out_of_reach :
    render ⟨"%c", [.int 0x110000]⟩ = .error (.overflow .character) ∧
      render ⟨"%d", [.scalar (.float (.infinite false))]⟩ = .error (.overflow .infinity) ∧
      render ⟨"%f", [.int (10 ^ 309)]⟩ = .error (.overflow .double) ∧
      render ⟨"%*s", [.int (2 ^ 63), .text "a"]⟩ = .error (.overflow .width) ∧
      render ⟨"%.*s", [.int (2 ^ 31), .text "a"]⟩ = .error (.overflow .precision) ∧
      render ⟨"%.2147483645d", [.int 0]⟩ = .error (.overflow .precisionLimit) := by
  decide +kernel

end Message

end Docwright
