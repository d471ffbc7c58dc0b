import Docwright.Message.Template
import Mathlib.Data.List.TakeWhile

/-!
# Reading a directive

A directive is read from the front of a text, and the values that its asterisks ask for
from the front of the values.  What comes behind them plays no part: reading is local
(`parse_local`), so a directive may be cut out, with the values it takes, and read by
itself.

Reading ends with a number out of reach in two places only, at the asterisk of a width
and at that of a precision, and there whatever follows (`parse_overflow_iff`).
-/

namespace Docwright

theorem Except.bind_eq_ok_iff {ε α β : Type} {first : Except ε α} {second : α → Except ε β} {b : β} :
    first.bind second = .ok b ↔ ∃ a, first = .ok a ∧ second a = .ok b := by
  cases first <;> simp [Except.bind]

theorem Except.bind_eq_error_iff {ε α β : Type} {first : Except ε α} {second : α → Except ε β} {e : ε} :
    first.bind second = .error e ↔ first = .error e ∨ ∃ a, first = .ok a ∧ second a = .error e := by
  cases first <;> simp [Except.bind]

theorem Except.map_eq_error_iff {ε α β : Type} {result : Except ε α} {put : α → β} {e : ε} :
    result.map put = .error e ↔ result = .error e := by
  cases result <;> simp [Except.map]

namespace Template

/-- What may stand between the percent sign of a directive and its width. -/
def IsFlag (c : Char) : Prop := c ∈ ['-', '+', ' ', '#', '0']

instance (c : Char) : Decidable (IsFlag c) := inferInstanceAs (Decidable (c ∈ _))

/-- A whole number is beyond the ends of the range that a limit gives. -/
def Outside (limit : Nat) (k : Int) : Prop := (limit : Int) < k ∨ k < -(limit : Int) - 1

instance (limit : Nat) (k : Int) : Decidable (Outside limit k) := inferInstanceAs (Decidable (_ ∨ _))

/-- The whole number that an asterisk asks for, within a limit. -/
def asked (limit : Nat) (beyond : Overflow) (values : List Datum) : Result (Int × List Datum) :=
  (nextInt values).bind fun answer =>
    if Outside limit answer.1 then .error (.overflow beyond) else .ok answer

variable {values rest : List Datum} {text after : List Char} {flags flags' : Flags} {n m limit : Nat}
  {width precision : Option Nat} {d : Directive} {beyond cause : Overflow} {k : Int}

theorem asked_cons (value : Datum) (others : List Datum) :
    asked limit beyond (value :: others) =
      match value.asInt? with
      | none => .error .mismatch
      | some k => if Outside limit k then .error (.overflow beyond) else .ok (k, others) := by
  cases whole : value.asInt? <;> simp [asked, nextInt, next, bind, Except.bind, whole]

/-- The next value is a number within the limit. -/
theorem asked_eq_ok_iff :
    asked limit beyond values = .ok (k, rest) ↔
      ∃ value, values = value :: rest ∧ value.asInt? = some k ∧ ¬ Outside limit k := by
  cases values with
  | nil => simp [asked, nextInt, next, bind, Except.bind]
  | cons value others =>
      rw [asked_cons]
      constructor
      · intro answered
        split at answered
        · cases answered
        · next k' whole =>
            split at answered
            · cases answered
            · next inside =>
                cases answered
                exact ⟨value, rfl, whole, inside⟩
      · rintro ⟨value', same, whole, inside⟩
        obtain ⟨rfl, rfl⟩ := List.cons.inj same
        rw [whole]
        exact if_neg inside

/-- The next value is a number beyond the limit. -/
theorem asked_overflow_iff :
    asked limit beyond values = .error (.overflow cause) ↔
      cause = beyond ∧ ∃ value others k, values = value :: others ∧ value.asInt? = some k ∧
        Outside limit k := by
  cases values with
  | nil => simp [asked, nextInt, next, bind, Except.bind]
  | cons value others =>
      rw [asked_cons]
      constructor
      · intro failed
        split at failed
        · cases failed
        · next k whole =>
            split at failed
            · next outside =>
                cases failed
                exact ⟨rfl, value, others, k, rfl, whole, outside⟩
            · cases failed
      · rintro ⟨rfl, value', others', k, same, whole, outside⟩
        obtain ⟨rfl, rfl⟩ := List.cons.inj same
        rw [whole]
        exact if_pos outside

/-- It is the next value alone that decides. -/
theorem asked_local (answered : asked limit beyond values = .ok (k, rest)) :
    ∃ value, values = value :: rest ∧ ∀ others, asked limit beyond (value :: others) = .ok (k, others) := by
  obtain ⟨value, rfl, fits⟩ := asked_eq_ok_iff.mp answered
  exact ⟨value, rfl, fun others => asked_eq_ok_iff.mpr ⟨value, rfl, fits⟩⟩

theorem asked_beyond {value : Datum} (whole : value.asInt? = some k) (outside : Outside limit k)
    (others : List Datum) : asked limit beyond (value :: others) = .error (.overflow beyond) :=
  asked_overflow_iff.mpr ⟨rfl, value, others, k, rfl, whole, outside⟩

namespace Directive

/-! ### Flags -/

theorem parseFlags_of_not_flag (other : ∀ c ∈ text.head?, ¬ IsFlag c) :
    parseFlags flags text = (flags, text) := by
  cases text with
  | nil => rfl
  | cons c text =>
      have other := other c rfl
      simp only [IsFlag, List.mem_cons, List.not_mem_nil, or_false, not_or] at other
      obtain ⟨minus, plus, blank, alternate, zero⟩ := other
      rw [parseFlags] <;> simp [*]

/-- Flags are read to the first character that is none. -/
theorem parseFlags_append {front : List Char} (all : ∀ c ∈ front, IsFlag c)
    (stops : ∀ c ∈ text.head?, ¬ IsFlag c) :
    parseFlags flags (front ++ text) = ((parseFlags flags front).1, text) := by
  induction front generalizing flags with
  | nil =>
      have nothing : parseFlags flags [] = (flags, []) := rfl
      rw [List.nil_append, parseFlags_of_not_flag stops, nothing]
  | cons c front ih =>
      obtain ⟨flag, rest⟩ := List.forall_mem_cons.mp all
      simp only [IsFlag, List.mem_cons, List.not_mem_nil, or_false] at flag
      rcases flag with rfl | rfl | rfl | rfl | rfl <;> exact ih rest

/-- Every text is flags and what begins with none. -/
theorem exists_flags (text : List Char) :
    ∃ front after, text = front ++ after ∧ (∀ c ∈ front, IsFlag c) ∧ ∀ c ∈ after.head?, ¬ IsFlag c := by
  refine ⟨text.takeWhile (IsFlag ·), text.dropWhile (IsFlag ·), List.takeWhile_append_dropWhile.symm,
    fun c member => ?_, fun c first => ?_⟩
  · simpa using List.mem_takeWhile_imp member
  · have stopped := List.head?_dropWhile_not (fun c => decide (IsFlag c)) text
    rw [Option.mem_def.mp first] at stopped
    simpa using stopped

/-! ### Numbers -/

/-- Digits are read to the first character that is none. -/
theorem parseNumber_local (read : parseNumber limit n text = .ok (m, after)) :
    ∃ front, text = front ++ after ∧ (∀ c ∈ after.head?, ¬ c.isDigit) ∧
      ∀ more : List Char, (∀ c ∈ more.head?, ¬ c.isDigit) →
        parseNumber limit n (front ++ more) = .ok (m, more) := by
  induction text generalizing n with
  | nil =>
      rw [parseNumber] at read
      cases read
      refine ⟨[], rfl, fun _ => nofun, fun more ends => ?_⟩
      cases more with
      | nil => rfl
      | cons c more => rw [List.nil_append, parseNumber, if_neg (ends c rfl)]
  | cons c text ih =>
      rw [parseNumber] at read
      by_cases digit : c.isDigit
      · rw [if_pos digit] at read
        dsimp only at read
        split at read
        · cases read
        · next small =>
            obtain ⟨front, split, stops, again⟩ := ih read
            refine ⟨c :: front, by rw [split, List.cons_append], stops, fun more ends => ?_⟩
            rw [List.cons_append, parseNumber, if_pos digit]
            dsimp only
            rw [if_neg small]
            exact again more ends
      · rw [if_neg digit] at read
        cases read
        refine ⟨[], rfl, fun d first => Option.some.inj first ▸ digit, fun more ends => ?_⟩
        cases more with
        | nil => rfl
        | cons d more => rw [List.nil_append, parseNumber, if_neg (ends d rfl)]

theorem parseNumber_ne_overflow (limit n : Nat) (text : List Char) (cause : Overflow) :
    parseNumber limit n text ≠ .error (.overflow cause) := by
  induction text generalizing n with
  | nil => nofun
  | cons c text ih =>
      rw [parseNumber]
      split
      · dsimp only
        split
        · nofun
        · exact ih _
      · nofun

theorem map_parseNumber_ne_overflow {α : Type} (f : Nat × List Char → α) (limit n : Nat) (text : List Char)
    (cause : Overflow) : (parseNumber limit n text).map f ≠ .error (.overflow cause) := by
  have no := parseNumber_ne_overflow limit n text cause
  cases number : parseNumber limit n text with
  | error failure =>
      rw [number] at no
      intro failed
      cases failed
      exact no rfl
  | ok answer => nofun

/-! ### Widths -/

theorem parseWidth_other (other : ∀ c ∈ text.head?, c ≠ '*' ∧ ¬ c.isDigit) :
    parseWidth flags values text = .ok (flags, none, values, text) := by
  cases text with
  | nil => rfl
  | cons c text =>
      obtain ⟨star, digit⟩ := other c rfl
      rw [parseWidth, if_neg digit]
      rintro rfl
      exact star rfl

theorem parseWidth_digit {c : Char} (digit : c.isDigit) :
    parseWidth flags values (c :: text) =
      (parseNumber widthLimit 0 (c :: text)).map fun read => (flags, some read.1, values, read.2) := by
  rw [parseWidth, if_pos digit]
  · cases parseNumber widthLimit 0 (c :: text) <;> rfl
  · rintro rfl
    cases digit

theorem parseWidth_star :
    parseWidth flags values ('*' :: text) =
      (asked widthLimit .width values).map fun answer =>
        (if answer.1 < 0 then { flags with left := true } else flags, some answer.1.natAbs, answer.2,
          text) := by
  rw [parseWidth, asked]
  cases nextInt values with
  | error failure => rfl
  | ok answer =>
      simp only [bind, Except.bind]
      by_cases outside : Outside widthLimit answer.1
      · rw [if_pos outside]
        exact if_pos outside
      · rw [if_neg outside]
        exact if_neg outside

/-- A text begins with an asterisk, with a digit, or with neither. -/
theorem width_cases (text : List Char) :
    (∀ c ∈ text.head?, c ≠ '*' ∧ ¬ c.isDigit) ∨ (∃ more, text = '*' :: more) ∨
      ∃ c more, text = c :: more ∧ c.isDigit := by
  cases text with
  | nil => exact .inl fun _ => nofun
  | cons c more =>
      by_cases star : c = '*'
      · exact .inr (.inl ⟨more, by rw [star]⟩)
      · by_cases digit : c.isDigit
        · exact .inr (.inr ⟨c, more, rfl, digit⟩)
        · exact .inl fun d first => Option.some.inj first ▸ ⟨star, digit⟩

/-- A width is read from the front of the text, with the value that it takes. -/
theorem parseWidth_local (read : parseWidth flags values text = .ok (flags', width, rest, after)) :
    ∃ front taken, text = front ++ after ∧ values = taken ++ rest ∧
      ∀ others (more : List Char), (∀ c ∈ more.head?, c ∈ after.head? ∨ c ≠ '*' ∧ ¬ c.isDigit) →
        parseWidth flags (taken ++ others) (front ++ more) = .ok (flags', width, others, more) := by
  obtain plain | ⟨text, rfl⟩ | ⟨c, text, rfl, digit⟩ := width_cases text
  · rw [parseWidth_other plain] at read
    cases read
    exact ⟨[], [], rfl, rfl, fun others more ends => parseWidth_other fun c first =>
      (ends c first).elim (plain c) id⟩
  · rw [parseWidth_star] at read
    cases answered : asked widthLimit .width values with
    | error failure =>
        rw [answered] at read
        cases read
    | ok answer =>
        obtain ⟨k, others⟩ := answer
        rw [answered] at read
        cases read
        obtain ⟨value, rfl, again⟩ := asked_local answered
        refine ⟨['*'], [value], rfl, rfl, fun others more _ => ?_⟩
        change parseWidth flags (value :: others) ('*' :: more) = _
        rw [parseWidth_star, again others]
        rfl
  · rw [parseWidth_digit digit] at read
    cases number : parseNumber widthLimit 0 (c :: text) with
    | error failure =>
        rw [number] at read
        cases read
    | ok answer =>
        obtain ⟨m, after'⟩ := answer
        rw [number] at read
        cases read
        obtain ⟨front, split, stops, again⟩ := parseNumber_local number
        cases front with
        | nil =>
            subst split
            exact absurd digit (stops c rfl)
        | cons c' front =>
            obtain ⟨rfl, -⟩ := List.cons.inj split
            refine ⟨c :: front, [], split, rfl, fun others more ends => ?_⟩
            rw [List.cons_append, parseWidth_digit digit, ← List.cons_append,
              again more fun d first => (ends d first).elim (stops d) And.right]
            rfl

/-- A text that is a width, with the values it takes, is one in front of what does not go on with it. -/
theorem parseWidth_whole (read : parseWidth flags values text = .ok (flags', width, [], []))
    (rest : List Datum) {more : List Char} (ends : ∀ c ∈ more.head?, c ≠ '*' ∧ ¬ c.isDigit) :
    parseWidth flags (values ++ rest) (text ++ more) = .ok (flags', width, rest, more) := by
  obtain ⟨front, taken, rfl, rfl, again⟩ := parseWidth_local read
  rw [List.append_nil, List.append_nil]
  exact again rest more fun c first => .inr (ends c first)

/-- Reading a width meets a number out of reach only at an asterisk. -/
theorem parseWidth_overflow_iff :
    parseWidth flags values text = .error (.overflow cause) ↔
      ∃ more, text = '*' :: more ∧ asked widthLimit .width values = .error (.overflow cause) := by
  obtain plain | ⟨text, rfl⟩ | ⟨c, text, rfl, digit⟩ := width_cases text
  · rw [parseWidth_other plain]
    refine ⟨nofun, ?_⟩
    rintro ⟨more, rfl, -⟩
    exact absurd rfl (plain '*' rfl).1
  · rw [parseWidth_star]
    cases asked widthLimit .width values <;> simp [Except.map]
  · rw [parseWidth_digit digit]
    refine ⟨fun failed => absurd failed (map_parseNumber_ne_overflow _ _ _ _ _), ?_⟩
    rintro ⟨more, same, -⟩
    cases (List.cons.inj same).1
    cases digit

/-! ### Precisions -/

theorem parsePrecision_other (other : '.' ∉ text.head?) :
    parsePrecision values text = .ok (none, values, text) := by
  cases text with
  | nil => rfl
  | cons c text =>
      rw [parsePrecision]
      · intro more same
        exact other (congrArg List.head? same)
      · intro more same
        exact other (congrArg List.head? same)

theorem parsePrecision_star :
    parsePrecision values ('.' :: '*' :: text) =
      (asked precisionLimit .precision values).map fun answer => (some answer.1.toNat, answer.2, text) := by
  rw [parsePrecision, asked]
  cases nextInt values with
  | error failure => rfl
  | ok answer =>
      simp only [bind, Except.bind]
      by_cases outside : Outside precisionLimit answer.1
      · rw [if_pos outside]
        exact if_pos outside
      · rw [if_neg outside]
        exact if_neg outside

theorem parsePrecision_point (other : '*' ∉ text.head?) :
    parsePrecision values ('.' :: text) =
      (parseNumber precisionLimit 0 text).map fun read => (some read.1, values, read.2) := by
  rw [parsePrecision]
  · cases parseNumber precisionLimit 0 text <;> rfl
  · rintro more rfl
    exact other rfl

/-- A text begins with a point and an asterisk, with a point and none, or with no point. -/
theorem precision_cases (text : List Char) :
    '.' ∉ text.head? ∨ (∃ more, text = '.' :: '*' :: more) ∨ ∃ more, text = '.' :: more ∧ '*' ∉ more.head? := by
  by_cases point : '.' ∈ text.head?
  · obtain ⟨more, rfl⟩ := List.head?_eq_some_iff.mp point
    by_cases star : '*' ∈ more.head?
    · obtain ⟨more, rfl⟩ := List.head?_eq_some_iff.mp star
      exact .inr (.inl ⟨more, rfl⟩)
    · exact .inr (.inr ⟨more, rfl, star⟩)
  · exact .inl point

/-- A precision is read from the front of the text, with the value that it takes. -/
theorem parsePrecision_local (read : parsePrecision values text = .ok (precision, rest, after)) :
    ∃ front taken, text = front ++ after ∧ values = taken ++ rest ∧
      ∀ others (more : List Char), (∀ c ∈ more.head?, c ∈ after.head?) →
        parsePrecision (taken ++ others) (front ++ more) = .ok (precision, others, more) := by
  obtain plain | ⟨text, rfl⟩ | ⟨text, rfl, digits⟩ := precision_cases text
  · rw [parsePrecision_other plain] at read
    cases read
    exact ⟨[], [], rfl, rfl, fun others more ends => parsePrecision_other fun point => plain (ends _ point)⟩
  · rw [parsePrecision_star] at read
    cases answered : asked precisionLimit .precision values with
    | error failure =>
        rw [answered] at read
        cases read
    | ok answer =>
        obtain ⟨k, others⟩ := answer
        rw [answered] at read
        cases read
        obtain ⟨value, rfl, again⟩ := asked_local answered
        refine ⟨['.', '*'], [value], rfl, rfl, fun others more _ => ?_⟩
        change parsePrecision (value :: others) ('.' :: '*' :: more) = _
        rw [parsePrecision_star, again others]
        rfl
  · rw [parsePrecision_point digits] at read
    cases number : parseNumber precisionLimit 0 text with
    | error failure =>
        rw [number] at read
        cases read
    | ok answer =>
        obtain ⟨m, after'⟩ := answer
        rw [number] at read
        cases read
        obtain ⟨front, rfl, stops, again⟩ := parseNumber_local number
        refine ⟨'.' :: front, [], rfl, rfl, fun others more ends => ?_⟩
        have digits' : '*' ∉ (front ++ more).head? := by
          cases front with
          | nil => exact fun star => digits (ends _ star)
          | cons c front => exact digits
        rw [List.cons_append, parsePrecision_point digits', again more fun d first => stops d (ends d first)]
        rfl

/-- Reading a precision meets a number out of reach only at an asterisk. -/
theorem parsePrecision_overflow_iff :
    parsePrecision values text = .error (.overflow cause) ↔
      ∃ more, text = '.' :: '*' :: more ∧
        asked precisionLimit .precision values = .error (.overflow cause) := by
  obtain plain | ⟨text, rfl⟩ | ⟨text, rfl, digits⟩ := precision_cases text
  · rw [parsePrecision_other plain]
    refine ⟨nofun, ?_⟩
    rintro ⟨more, rfl, -⟩
    exact absurd rfl plain
  · rw [parsePrecision_star]
    cases asked precisionLimit .precision values <;> simp [Except.map]
  · rw [parsePrecision_point digits]
    refine ⟨fun failed => absurd failed (map_parseNumber_ne_overflow _ _ _ _ _), ?_⟩
    rintro ⟨more, same, -⟩
    obtain ⟨-, rfl⟩ := List.cons.inj same
    exact absurd rfl digits

/-! ### Whole directives -/

/-- What is left after a letter for a size. -/
theorem dropSize_local {c : Char} (left : dropSize text = c :: after) :
    ∃ front, text = front ++ c :: after ∧ ∀ more, dropSize (front ++ c :: more) = c :: more := by
  cases text with
  | nil => cases left
  | cons size text =>
      rw [dropSize] at left
      split at left
      · next letter =>
          subst left
          refine ⟨[size], rfl, fun more => ?_⟩
          rw [List.cons_append, List.nil_append, dropSize, if_pos letter]
      · next other =>
          obtain ⟨rfl, rfl⟩ := List.cons.inj left
          refine ⟨[], rfl, fun more => ?_⟩
          rw [List.nil_append, dropSize, if_neg other]

/-- A directive is read part by part, unless it asks for a value by name. -/
theorem parse_eq {front : List Char} (unnamed : '(' ∉ text.head?) (split : text = front ++ after)
    (all : ∀ c ∈ front, IsFlag c) (stops : ∀ c ∈ after.head?, ¬ IsFlag c) :
    parse values text =
      (parseWidth (parseFlags {} front).1 values after).bind fun (flags, width, values, text) =>
        (parsePrecision values text).bind fun (precision, values, text) =>
          match dropSize text with
          | [] => .error .mismatch
          | c :: rest => .ok (⟨flags, width, precision, c⟩, values, rest) := by
  have flagged := @parseFlags_append after {} front all stops
  rw [← split] at flagged
  unfold parse
  split
  · exact absurd rfl unnamed
  · rw [flagged]
    rfl

/-- Texts begin alike if they do behind a common front. -/
theorem head?_behind {first second : List Char} (front : List Char) (same : first.head? = second.head?) :
    (front ++ first).head? = (front ++ second).head? := by
  cases front with
  | nil => exact same
  | cons => rfl

/-- **Reading a directive is local**: it is the same whatever values and whatever text come behind. -/
theorem parse_local (read : parse values text = .ok (d, rest, after)) :
    ∃ form taken, form ≠ [] ∧ text = form ++ after ∧ values = taken ++ rest ∧
      ∀ others more, parse (taken ++ others) (form ++ more) = .ok (d, others, more) := by
  have unnamed : '(' ∉ text.head? := by
    intro named
    obtain ⟨more, rfl⟩ := List.head?_eq_some_iff.mp named
    cases read
  obtain ⟨front, after₁, rfl, all, stops⟩ := exists_flags text
  rw [parse_eq unnamed rfl all stops] at read
  obtain ⟨⟨flags, width, values₁, after₂⟩, sized, read⟩ := Except.bind_eq_ok_iff.mp read
  obtain ⟨⟨precision, values₂, after₃⟩, precise, read⟩ := Except.bind_eq_ok_iff.mp read
  dsimp only at precise read
  split at read
  · cases read
  · next c after₄ left =>
      cases read
      obtain ⟨front₁, taken₁, rfl, rfl, again₁⟩ := parseWidth_local sized
      obtain ⟨front₂, taken₂, rfl, rfl, again₂⟩ := parsePrecision_local precise
      obtain ⟨front₃, rfl, again₃⟩ := dropSize_local left
      refine ⟨front ++ (front₁ ++ (front₂ ++ (front₃ ++ [c]))), taken₁ ++ taken₂, by simp, by simp,
        by simp, fun others more => ?_⟩
      -- what follows a part begins as it did
      have same₃ : (front₃ ++ c :: more).head? = (front₃ ++ c :: after).head? := head?_behind _ rfl
      have same₂ := head?_behind front₂ same₃
      have same₁ := head?_behind front₁ same₂
      have split : front ++ (front₁ ++ (front₂ ++ (front₃ ++ [c]))) ++ more =
          front ++ (front₁ ++ (front₂ ++ (front₃ ++ c :: more))) := by simp
      rw [split, List.append_assoc, parse_eq (by rwa [head?_behind front same₁]) rfl all
        (by rwa [same₁]), again₁ _ _ fun _ first => .inl (same₂ ▸ first)]
      show (parsePrecision (taken₂ ++ others) (front₂ ++ (front₃ ++ c :: more))).bind _ = _
      rw [again₂ _ _ fun _ => same₃ ▸ id]
      show (match dropSize (front₃ ++ c :: more) with
        | [] => _
        | c :: rest => _) = _
      rw [again₃]

/-- No value is asked for by name behind flags, unless it is behind none. -/
theorem unnamed_behind {front : List Char} (all : ∀ c ∈ front, IsFlag c) (unnamed : '(' ∉ after.head?) :
    '(' ∉ (front ++ after).head? := by
  cases front with
  | nil => exact unnamed
  | cons c front =>
      intro named
      obtain rfl := Option.some.inj named
      exact absurd (all _ List.mem_cons_self) (by decide)

/-- An asterisk in a directive asks for a number out of reach, and what stands before it is read. -/
inductive Asks : List Datum → List Char → Overflow → Prop
  | width {front : List Char} {value : Datum} {k : Int} (all : ∀ c ∈ front, IsFlag c)
      (whole : value.asInt? = some k) (outside : Outside widthLimit k)
      (others : List Datum) (more : List Char) : Asks (value :: others) (front ++ '*' :: more) .width
  | precision {front width : List Char} {taken : List Datum} {value : Datum} {k : Int}
      {flags : Flags} {size : Option Nat} (all : ∀ c ∈ front, IsFlag c)
      (stops : ∀ c ∈ width.head?, ¬ IsFlag c)
      (sized : parseWidth (parseFlags {} front).1 taken width = .ok (flags, size, [], []))
      (whole : value.asInt? = some k) (outside : Outside precisionLimit k)
      (others : List Datum) (more : List Char) :
      Asks (taken ++ value :: others) (front ++ (width ++ '.' :: '*' :: more)) .precision

theorem asks_of_parse (failed : parse values text = .error (.overflow cause)) : Asks values text cause := by
  have unnamed : '(' ∉ text.head? := by
    intro named
    obtain ⟨more, rfl⟩ := List.head?_eq_some_iff.mp named
    cases failed
  obtain ⟨front, after, rfl, all, stops⟩ := exists_flags text
  rw [parse_eq unnamed rfl all stops] at failed
  obtain sized | ⟨⟨flags, width, values₁, after₁⟩, sized, failed⟩ := Except.bind_eq_error_iff.mp failed
  · obtain ⟨more, rfl, beyond⟩ := parseWidth_overflow_iff.mp sized
    obtain ⟨rfl, value, others, k, rfl, whole, outside⟩ := asked_overflow_iff.mp beyond
    exact .width all whole outside others more
  · obtain precise | ⟨⟨precision, values₂, after₂⟩, -, failed⟩ := Except.bind_eq_error_iff.mp failed
    · obtain ⟨more, rfl, beyond⟩ := parsePrecision_overflow_iff.mp precise
      obtain ⟨rfl, value, others, k, rfl, whole, outside⟩ := asked_overflow_iff.mp beyond
      obtain ⟨width, taken, rfl, rfl, again⟩ := parseWidth_local sized
      have sized := again [] [] fun _ => nofun
      rw [List.append_nil, List.append_nil] at sized
      refine .precision all (fun c first => ?_) sized whole outside others more
      cases width with
      | nil => cases first
      | cons => exact stops c first
    · dsimp only at failed
      split at failed <;> cases failed

theorem parse_of_asks (asks : Asks values text cause) : parse values text = .error (.overflow cause) := by
  cases asks with
  | width all whole outside others more =>
      have stops : ∀ c ∈ ('*' :: more).head?, ¬ IsFlag c := by
        rintro c ⟨⟩
        decide
      have unnamed : '(' ∉ ('*' :: more).head? := by
        rintro ⟨⟩
      rw [parse_eq (unnamed_behind all unnamed) rfl all stops, Except.bind_eq_error_iff]
      exact .inl (parseWidth_overflow_iff.mpr ⟨more, rfl, asked_beyond whole outside others⟩)
  | @precision front width taken value k flags size all stops sized whole outside others more =>
      have begins : ∀ c ∈ (width ++ '.' :: '*' :: more).head?, ¬ IsFlag c ∧ c ≠ '(' := by
        cases width with
        | nil =>
            rintro c ⟨⟩
            decide
        | cons c width =>
            rintro c ⟨⟩
            refine ⟨stops c rfl, ?_⟩
            rintro rfl
            cases sized
      have unnamed : '(' ∉ (width ++ '.' :: '*' :: more).head? := fun named => (begins _ named).2 rfl
      have ends : ∀ c ∈ ('.' :: '*' :: more).head?, c ≠ '*' ∧ ¬ c.isDigit := by
        rintro c ⟨⟩
        decide
      have read := parseWidth_whole sized (value :: others) ends
      rw [parse_eq (unnamed_behind all unnamed) rfl all fun c first => (begins c first).1, read]
      refine Except.bind_eq_error_iff.mpr (.inr ⟨_, rfl, Except.bind_eq_error_iff.mpr (.inl ?_)⟩)
      exact parsePrecision_overflow_iff.mpr ⟨more, rfl, asked_beyond whole outside others⟩

/-- **A directive cannot be read for a number out of reach exactly where an asterisk asks for one.** -/
theorem parse_overflow_iff : parse values text = .error (.overflow cause) ↔ Asks values text cause :=
  ⟨asks_of_parse, parse_of_asks⟩

end Directive

end Template

end Docwright
