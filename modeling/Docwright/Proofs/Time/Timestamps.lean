import Docwright.Proofs.Number.Digits
import Docwright.Time.Reader

/-!
# Timestamps are read back

A timestamp whose parts are in range can be read from its ISO form (`InRange.parse_text`).
Every number in that form has a fixed count of digits (`Field`), so the reader
finds each of them whatever follows.

What is read is the timestamp that was written (`Valid.readsBack`), except that the
reader takes an offset below a second for zero (`offsetRead`).
-/

namespace Docwright.Timestamp

open Json (natOf)
open Decimal (digitsOf zeros)

/-- A timestamp that its ISO form stands for. -/
def ReadsBack (t : Timestamp) : Prop :=
  parse (String.ofList t.text) = .ok t

/-- The parts of a timestamp are in range, and its offset is not a part of a second. -/
structure Valid (t : Timestamp) : Prop where
  year : 0 < t.date.year ∧ t.date.year ≤ 9999
  month : 0 < t.date.month ∧ t.date.month ≤ 12
  day : 0 < t.date.day ∧ t.date.day ≤ Calendar.daysInMonth t.date.year t.date.month
  hour : t.hour < 24
  minute : t.minute < 60
  second : t.second < 60
  microsecond : t.microsecond < 1000000
  offset : ∀ o ∈ t.offset, o.natAbs < 86400000000 ∧ (o = 0 ∨ 1000000 ≤ o.natAbs)

/-- The parts of a timestamp are in range. -/
structure InRange (t : Timestamp) : Prop where
  year : 0 < t.date.year ∧ t.date.year ≤ 9999
  month : 0 < t.date.month ∧ t.date.month ≤ 12
  day : 0 < t.date.day ∧ t.date.day ≤ Calendar.daysInMonth t.date.year t.date.month
  hour : t.hour < 24
  minute : t.minute < 60
  second : t.second < 60
  microsecond : t.microsecond < 1000000
  offset : ∀ o ∈ t.offset, o.natAbs < 86400000000

theorem Valid.inRange {t : Timestamp} (valid : t.Valid) : t.InRange where
  year := valid.year
  month := valid.month
  day := valid.day
  hour := valid.hour
  minute := valid.minute
  second := valid.second
  microsecond := valid.microsecond
  offset o member := (valid.offset o member).1

/-- What an offset is read as. -/
def offsetRead (o : Int) : Int :=
  if o.natAbs < 1000000 then 0 else o

/-- What a timestamp is read as. -/
def readBack (t : Timestamp) : Timestamp :=
  { t with offset := t.offset.map offsetRead }

theorem Valid.readBack_eq {t : Timestamp} (valid : t.Valid) : t.readBack = t := by
  have same : t.offset.map offsetRead = t.offset := by
    cases held : t.offset with
    | none => rfl
    | some o =>
        obtain ⟨-, counts⟩ := valid.offset o held
        rw [Option.map_some, offsetRead]
        split
        · exact congrArg some (by omega)
        · rfl
  rw [readBack, same]

variable {count n h m s micro : Nat} {ds rest beyond : List Char}

/-! ### Numbers with a fixed count of digits -/

/-- The digits of a number with a fixed count of them. -/
structure Field (count n : Nat) (ds : List Char) : Prop where
  length : ds.length = count
  digits : AllDigits ds
  value : natOf ds = n

theorem padded_field (some_ : 0 < count) (small : n < 10 ^ count) :
    Field count n (padded count n) where
  length := by
    have short : (Nat.toDigits 10 n).length ≤ count :=
      (Nat.length_toDigits_le_iff (by decide) some_).mpr small
    rw [padded, List.length_append, List.length_replicate]
    omega
  digits := (allDigits_zeros _).append (allDigits_digitsOf n)
  value := by
    have zero := natOf_zeros (count - (digitsOf n).length)
    have number := natOf_digitsOf n
    rw [zeros] at zero
    rw [digitsOf] at zero number
    rw [padded, natOf_append, zero, number, mul_zero, zero_add]

theorem digits?_append (digits : AllDigits ds) (value : Nat) (rest : List Char) :
    digits? ds.length value (ds ++ rest) = some (10 ^ ds.length * value + natOf ds, rest) := by
  induction ds generalizing value with
  | nil =>
      change some (value, rest) = some (1 * value + 0, rest)
      rw [one_mul, add_zero]
  | cons c more ih =>
      have first := digits c List.mem_cons_self
      have split : natOf (c :: more) = 10 ^ more.length * natOf [c] + natOf more :=
        natOf_append [c] more
      have one : natOf [c] = c.toNat - 48 := by
        change 0 * 10 + (c.toNat - 48) = _
        omega
      rw [List.cons_append, List.length_cons, digits?, if_pos first,
        ih fun d member => digits d (List.mem_cons_of_mem _ member), split, one, pow_succ]
      congr 2
      ring

/-- A number with a fixed count of digits is read, whatever follows. -/
theorem Field.read (field : Field count n ds) (rest : List Char) :
    digits? count 0 (ds ++ rest) = some (n, rest) := by
  rw [← field.length, digits?_append field.digits, mul_zero, zero_add, field.value]

/-- Two digits. -/
theorem Field.two (field : Field 2 n ds) :
    ∃ a b, ds = [a, b] ∧ a.isDigit = true ∧ b.isDigit = true := by
  obtain ⟨a, b, rfl⟩ := List.length_eq_two.mp field.length
  exact ⟨a, b, rfl, field.digits a (by simp), field.digits b (by simp)⟩

theorem field_two (small : n < 100) : Field 2 n (padded 2 n) :=
  padded_field (by decide) small

/-! ### The time of day -/

/-- The ISO form of a time of day. -/
def clockText (h m s micro : Nat) : List Char :=
  padded 2 h ++ ':' :: (padded 2 m ++ ':' :: (padded 2 s ++ fractionText micro))

theorem fraction?_padded (small : micro < 1000000) (beyond : List Char) :
    fraction? (padded 6 micro) beyond = some (micro, beyond.head?.isSome) := by
  have field : Field 6 micro (padded 6 micro) := padded_field (by decide) small
  have read := field.read []
  rw [List.append_nil] at read
  unfold fraction?
  rw [field.length]
  simp [read]

/-- A number of a time of day that a colon and another one follow. -/
theorem numbers?_colon (small : n < 100) {colons? : Option Bool} (colons : colons? ≠ some false)
    (some_ : rest ≠ []) :
    numbers? beyond (count + 1) colons? (padded 2 n ++ ':' :: rest) =
      (numbers? beyond count (some true) rest).map fun (others, tail) => (n :: others, tail) := by
  obtain ⟨d, more, rfl⟩ := List.exists_cons_of_ne_nil some_
  have separated : colons?.getD ((':' :: d :: more).head?.or beyond.head? == some ':') = true := by
    cases colons? with
    | none => rfl
    | some b =>
        cases b with
        | false => exact absurd rfl colons
        | true => rfl
  rw [numbers?, (field_two small).read]
  simp only [bind, Option.bind, separated, bne_self_eq_false, Bool.and_false, Bool.false_eq_true,
    if_false, if_true]
  rw [if_neg (by decide)]
  cases numbers? beyond count (some true) (d :: more) <;> rfl

/-- The last number of a time of day. -/
theorem numbers?_last (small : n < 100) {colons? : Option Bool} :
    numbers? beyond (count + 1) colons? (padded 2 n) = some ([n], .ended beyond.head?.isSome) := by
  have read := (field_two small).read []
  rw [List.append_nil] at read
  rw [numbers?, read]
  simp only [bind, Option.bind, List.head?_nil, Option.none_or]

/-- A number of a time of day that a fraction follows. -/
theorem numbers?_fraction (small : n < 100) {colons? : Option Bool} (some_ : ds ≠ []) :
    numbers? beyond (count + 1) colons? (padded 2 n ++ '.' :: ds) = some ([n], .fraction ds) := by
  obtain ⟨d, more, rfl⟩ := List.exists_cons_of_ne_nil some_
  rw [numbers?, (field_two small).read]
  rfl

theorem padded_ne_nil (some_ : 0 < count) (small : n < 10 ^ count) : padded count n ≠ [] := by
  rw [← List.length_pos_iff, (padded_field some_ small).length]
  exact some_

/-- A time of day to the minute is read. -/
theorem clock?_short (hour : h < 100) (minute : m < 100) :
    clock? (padded 2 h ++ ':' :: padded 2 m) beyond = some ⟨h, m, 0, 0, beyond.head?.isSome⟩ := by
  rw [clock?, numbers?_colon hour (by simp) (padded_ne_nil (by decide) minute), numbers?_last minute]
  rfl

/-- A time of day is read. -/
theorem clock?_clockText (beyond : List Char) (hour : h < 100) (minute : m < 100)
    (second : s < 100) (microsecond : micro < 1000000) :
    clock? (clockText h m s micro) beyond = some ⟨h, m, s, micro, beyond.head?.isSome⟩ := by
  have filled : padded 2 s ≠ [] := padded_ne_nil (by decide) second
  rw [clockText, clock?, numbers?_colon hour (by simp) (by simp), numbers?_colon minute (by simp)
    (by simp [filled])]
  unfold fractionText
  by_cases whole : micro = 0
  · subst whole
    rw [if_pos rfl, List.append_nil, numbers?_last second]
    rfl
  · rw [if_neg whole, numbers?_fraction second (padded_ne_nil (by decide) microsecond)]
    simp only [Option.map, bind, Option.bind, fraction?_padded microsecond]
    rfl

/-! ### Offsets -/

/-- The size of an offset as a time of day. -/
theorem clock?_offset (seconds micro : Nat) (small : seconds < 86400)
    (microsecond : micro < 1000000) :
    clock? (padded 2 (seconds / 3600) ++ ':' :: padded 2 (seconds / 60 % 60) ++
        if seconds % 60 = 0 ∧ micro = 0 then []
        else ':' :: padded 2 (seconds % 60) ++ fractionText micro) [] =
      some ⟨seconds / 3600, seconds / 60 % 60, seconds % 60, micro, false⟩ := by
  have hour : seconds / 3600 < 100 := by omega
  have minute : seconds / 60 % 60 < 100 := by omega
  have second : seconds % 60 < 100 := by omega
  by_cases short : seconds % 60 = 0 ∧ micro = 0
  · rw [if_pos short, List.append_nil, clock?_short hour minute, short.1, short.2]
    rfl
  · have whole := clock?_clockText [] hour minute second microsecond
    rw [clockText] at whole
    rw [if_neg short]
    simp only [List.append_assoc, List.cons_append]
    exact whole

theorem offset?_sign {sign : Char} (other : sign ≠ 'Z') {seconds : Nat}
    (read : clock? rest [] =
      some ⟨seconds / 3600, seconds / 60 % 60, seconds % 60, micro, false⟩) :
    offset? (sign :: rest) =
      some (if seconds = 0 then 0
        else if sign = '-' then -((seconds * 1000000 + micro : Nat) : Int)
        else ((seconds * 1000000 + micro : Nat) : Int)) := by
  have total : (seconds / 3600 * 60 + seconds / 60 % 60) * 60 + seconds % 60 = seconds := by omega
  unfold offset?
  split
  · next same => exact absurd (List.cons.inj same).1 other
  · next same => exact absurd (List.cons.inj same).1 other
  · next sign' rest' _ same =>
      obtain ⟨rfl, rfl⟩ := List.cons.inj same
      simp only [read, bind, Option.bind, total, Bool.false_eq_true, if_false]
  · next same => exact nomatch same

/-- An offset is read. -/
theorem offset?_offsetText {o : Int} (small : o.natAbs < 86400000000) :
    offset? (offsetText o) = some (offsetRead o) := by
  have read := clock?_offset (o.natAbs / 1000000) (o.natAbs % 1000000) (by omega) (by omega)
  have sign : (if o < 0 then '-' else '+') ≠ 'Z' := by split <;> decide
  refine (offset?_sign sign read).trans (congrArg some ?_)
  rw [offsetRead]
  by_cases negative : o < 0
  · rw [if_pos negative, if_pos rfl]
    split <;> omega
  · rw [if_neg negative, if_neg (show ('+' : Char) ≠ '-' by decide)]
    split <;> omega

/-- A time of day does not hold what begins an offset. -/
theorem clockText_solid (hour : h < 100) (minute : m < 100) (second : s < 100)
    (microsecond : micro < 1000000) : ∀ c ∈ clockText h m s micro, beginsOffset c = false := by
  have solid {c : Char} (digit : c.isDigit = true) : beginsOffset c = false := by
    simp only [beginsOffset, Bool.or_eq_false_iff, beq_eq_false_iff_ne]
    refine ⟨⟨?_, ?_⟩, ?_⟩ <;>
      · rintro rfl
        exact absurd digit (by decide)
  have fraction : ∀ c ∈ fractionText micro, beginsOffset c = false := by
    unfold fractionText
    split
    · exact fun _ member => absurd member List.not_mem_nil
    · intro c member
      rcases List.mem_cons.mp member with rfl | member
      · rfl
      · exact solid ((padded_field (by decide) microsecond).digits c member)
  intro c member
  simp only [clockText, List.mem_append, List.mem_cons] at member
  rcases member with member | rfl | member | rfl | member | member
  · exact solid ((field_two hour).digits c member)
  · rfl
  · exact solid ((field_two minute).digits c member)
  · rfl
  · exact solid ((field_two second).digits c member)
  · exact fraction c member

/-- A time of day is read with its offset, if it has one. -/
theorem time?_text {o : Option Int} (hour : h < 100) (minute : m < 100) (second : s < 100)
    (microsecond : micro < 1000000)
    (offset : ∀ n ∈ o, n.natAbs < 86400000000) :
    time? (clockText h m s micro ++ (o.map offsetText).getD []) =
      some (⟨h, m, s, micro, o.isSome⟩, o.map offsetRead) := by
  have solid : ∀ c ∈ clockText h m s micro, (!beginsOffset c) = true := fun c member => by
    rw [clockText_solid hour minute second microsecond c member]
    rfl
  simp only [time?, List.takeWhile_append_of_pos solid, List.dropWhile_append_of_pos solid]
  cases o with
  | none =>
      rw [Option.map_none, Option.getD_none, List.takeWhile_nil, List.dropWhile_nil, List.append_nil,
        clock?_clockText _ hour minute second microsecond]
      rfl
  | some n =>
      have read := offset?_offsetText (offset n rfl)
      obtain ⟨sign, more, text, begins⟩ : ∃ sign more, offsetText n = sign :: more ∧
          beginsOffset sign = true := ⟨_, _, rfl, by split <;> rfl⟩
      rw [text] at read
      rw [Option.map_some, Option.getD_some, text, List.takeWhile_cons_of_neg (by simp [begins]),
        List.dropWhile_cons_of_neg (by simp [begins]), List.append_nil,
        clock?_clockText _ hour minute second microsecond]
      simp only [bind, Option.bind, List.isEmpty_cons, Bool.false_eq_true, if_false, read]
      rfl

/-! ### Whole timestamps -/

/-- The ISO form of a date. -/
def dateText (d : Calendar.Date) : List Char :=
  padded 4 d.year ++ '-' :: (padded 2 d.month ++ '-' :: padded 2 d.day)

theorem text_eq (t : Timestamp) :
    t.text = dateText t.date ++
      'T' :: (clockText t.hour t.minute t.second t.microsecond ++ (t.offset.map offsetText).getD []) := by
  simp [text, dateText, clockText]

/-- A date is read. -/
theorem date?_dateText {d : Calendar.Date} (year : d.year < 10000) (month : d.month < 100)
    (day : d.day < 100) : date? (dateText d) = some d := by
  have years : Field 4 d.year (padded 4 d.year) := padded_field (by decide) year
  have days := (field_two day).read []
  have months := (field_two month).read ('-' :: padded 2 d.day)
  obtain ⟨a, b, text, digit, -⟩ := (field_two month).two
  have no_week : a ≠ 'W' := by
    rintro rfl
    exact absurd digit (by decide)
  rw [List.append_nil] at days
  rw [text, List.cons_append, List.cons_append, List.nil_append] at months
  rw [dateText, date?, years.read]
  simp only [bind, Option.bind, List.head?_cons, beq_self_eq_true, if_true, List.drop_succ_cons,
    List.drop_zero, text, List.cons_append, List.nil_append, Option.some.injEq, no_week, if_false, months, days,
    List.isEmpty_nil]

/-- A date takes ten characters, of which the fifth is a hyphen and no week follows it. -/
theorem dateLength?_dateText {d : Calendar.Date} (year : d.year < 10000) (month : d.month < 100)
    (day : d.day < 100) (rest : List Char) :
    (dateText d).length = 10 ∧ dateLength? (dateText d ++ 'T' :: rest) = some 10 := by
  have years : Field 4 d.year (padded 4 d.year) := padded_field (by decide) year
  obtain ⟨a, b, months, digit, -⟩ := (field_two month).two
  obtain ⟨g, h, days, -⟩ := (field_two day).two
  obtain ⟨w, x, y, z, year_⟩ := List.length_eq_four.mp years.length
  have no_week : a ≠ 'W' := by
    rintro rfl
    exact absurd digit (by decide)
  rw [dateText, months, days, year_]
  refine ⟨rfl, ?_⟩
  simp only [dateLength?, List.cons_append, List.nil_append, List.length_cons,
    List.getElem?_cons_succ, List.getElem?_cons_zero, Option.some.injEq, no_week, if_true, if_false]
  rw [if_neg (by omega)]

theorem daysInMonth_le (year month : Nat) : Calendar.daysInMonth year month ≤ 31 := by
  unfold Calendar.daysInMonth
  split <;> first | omega | (split <;> omega)

/-- The parts of a timestamp are found in its ISO form. -/
theorem shape?_text {t : Timestamp} (range : t.InRange) :
    shape? t.text = some (t.date, ⟨t.hour, t.minute, t.second, t.microsecond, t.offset.isSome⟩,
      t.offset.map offsetRead) := by
  obtain ⟨year, month, day, hour, minute, second, microsecond, offset⟩ := range
  have year' : t.date.year < 10000 := by omega
  have month' : t.date.month < 100 := by omega
  have day' : t.date.day < 100 := by
    have := daysInMonth_le t.date.year t.date.month
    omega
  have date := date?_dateText year' month' day'
  have time := time?_text (show t.hour < 100 by omega) (show t.minute < 100 by omega)
    (show t.second < 100 by omega) microsecond offset
  rw [text_eq]
  generalize clockText t.hour t.minute t.second t.microsecond ++ _ = rest at time ⊢
  obtain ⟨length, count⟩ := dateLength?_dateText year' month' day' rest
  have taken : (dateText t.date ++ 'T' :: rest).take 10 = dateText t.date :=
    List.take_left' length
  have dropped : (dateText t.date ++ 'T' :: rest).drop 11 = rest := by
    rw [List.drop_append, length, List.drop_eq_nil_of_le (by omega)]
    rfl
  simp only [shape?, count, bind, Option.bind, taken, date, dropped, time]
  rw [if_neg (by simp [length])]

/-- **A timestamp is read from its ISO form.** -/
theorem InRange.parse_text {t : Timestamp} (range : t.InRange) :
    parse (String.ofList t.text) = .ok t.readBack := by
  have shape := shape?_text range
  obtain ⟨year, month, day, hour, minute, second, microsecond, offset⟩ := range
  have inside : (t.offset.map offsetRead).filter
      (fun o => decide (dayMicros ≤ o) || decide (o ≤ -dayMicros)) = none := by
    rw [Option.filter_eq_none_iff]
    intro o member
    obtain ⟨written, held, rfl⟩ := Option.map_eq_some_iff.mp member
    have := offset written held
    rw [Bool.or_eq_true, decide_eq_true_eq, decide_eq_true_eq, dayMicros, offsetRead]
    split <;> omega
  have fault : rangeFault? t.date ⟨t.hour, t.minute, t.second, t.microsecond, t.offset.isSome⟩
      (t.offset.map offsetRead) = none := by
    simp only [rangeFault?, inside]
    rw [if_neg (by omega), if_neg (by omega), if_neg (by omega), if_neg (by omega), if_neg (by omega),
      if_neg (by omega)]
  rw [parse, String.toList_ofList, shape]
  simp only [fault, readBack]

/-- **A timestamp is read back.** -/
theorem Valid.readsBack {t : Timestamp} (valid : t.Valid) : t.ReadsBack := by
  rw [ReadsBack, valid.inRange.parse_text, valid.readBack_eq]

end Docwright.Timestamp
