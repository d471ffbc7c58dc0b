import Docwright.Text.Quoted
import Docwright.Time.Timestamp

/-!
# Reading timestamps

`Timestamp.parse` reads the ISO forms: a date as year, month and day or as an ISO week, with or
without hyphens, then any one character and a time of day, with or without colons, to the hour, the
minute, the second or a fraction of it, and an offset or `Z`.  Fractions are cut to six digits.

First the shape is checked, then the numbers: the offset before the date and the date before the
time of day.
-/

namespace Docwright.Timestamp

open Calendar (Date)

/-- Why a text is no timestamp. -/
inductive Fault
  | shape (text : String)
  | offset (micros : Int)
  | year (number : Nat)
  | month
  | day
  | hour
  | minute
  | second
  deriving DecidableEq, Repr

/-- A length of time in days, seconds and microseconds, the latter two never negative; parts that
are zero are left out. -/
def durationText (micros : Int) : String :=
  let days := micros.fdiv 86400000000
  let rest := (micros.fmod 86400000000).toNat
  let parts := (if days = 0 then [] else [s!"days={days}"]) ++
    (if rest / 1000000 = 0 then [] else [s!"seconds={rest / 1000000}"]) ++
    (if rest % 1000000 = 0 then [] else [s!"microseconds={rest % 1000000}"])
  "datetime.timedelta(" ++ (if parts.isEmpty then "0" else String.intercalate ", " parts) ++ ")"

/-- The words for a fault. -/
def Fault.message : Fault → String
  | shape text => "Invalid isoformat string: " ++ String.ofList (Text.quoted text.toList)
  | offset micros =>
    "offset must be a timedelta strictly between -timedelta(hours=24) and timedelta(hours=24), " ++
      s!"not {durationText micros}."
  | year number => s!"year {number} is out of range"
  | month => "month must be in 1..12"
  | day => "day is out of range for month"
  | hour => "hour must be in 0..23"
  | minute => "minute must be in 0..59"
  | second => "second must be in 0..59"

/-- Exactly `count` digits, as a number. -/
def digits? : Nat → Nat → List Char → Option (Nat × List Char)
  | 0, value, rest => some (value, rest)
  | count + 1, value, c :: rest =>
    if c.isDigit then digits? count (value * 10 + (c.toNat - 48)) rest else none
  | _ + 1, _, [] => none

/-- Whether there is a digit at a place. -/
def digitAt (text : List Char) (i : Nat) : Bool :=
  (text[i]?.map Char.isDigit).getD false

/-- How many characters the date takes.  Behind a year without a hyphen and a week, an even count of
digits belongs to the time of day in full, an odd one begins with the day of the week. -/
def dateLength? (text : List Char) : Option Nat :=
  if text.length = 7 then some 7
  else if text[4]? = some '-' then
    if text[5]? = some 'W' then
      if text.length < 8 then none
      else if text[8]? = some '-' then
        if text.length = 9 then none
        else if digitAt text 10 then some 8
        else some 10
      else some 8
    else some 10
  else if text[4]? = some 'W' then
    let stop := 7 + ((text.drop 7).takeWhile Char.isDigit).length
    if stop < 9 then some stop else if stop % 2 = 0 then some 7 else some 8
  else some 8

/-- A day of an ISO week, from behind the letter `W`; without a day the first one is meant. -/
def weekDate? (year : Nat) (hyphens : Bool) (text : List Char) : Option Date := do
  let (week, rest) ← digits? 2 0 text
  if rest.isEmpty then Calendar.ofWeek? year week 1
  else
    let rest ← if hyphens then (if rest.head? = some '-' then some (rest.drop 1) else none)
      else some rest
    let (day, _) ← digits? 1 0 rest
    Calendar.ofWeek? year week day

/-- A date. -/
def date? (text : List Char) : Option Date := do
  let (year, rest) ← digits? 4 0 text
  let hyphens := rest.head? == some '-'
  let rest := if hyphens then rest.drop 1 else rest
  if rest.head? = some 'W' then weekDate? year hyphens (rest.drop 1)
  else
    let (month, rest) ← digits? 2 0 rest
    let rest ← if hyphens then (if rest.head? = some '-' then some (rest.drop 1) else none)
      else some rest
    let (day, rest) ← digits? 2 0 rest
    if rest.isEmpty then some ⟨year, month, day⟩ else none

/-- Hour, minute, second and microsecond, with whether something is left behind them. -/
structure Clock where
  hour : Nat
  minute : Nat
  second : Nat
  microsecond : Nat
  more : Bool

/-- A fraction of a second: its first six digits count.  `beyond` is what follows the text. -/
def fraction? (text beyond : List Char) : Option (Nat × Bool) := do
  let count := min text.length 6
  let (value, rest) ← digits? count 0 text
  let after := (rest.dropWhile Char.isDigit).head?.or beyond.head?
  some (value * Nat.pow 10 (6 - count), after.isSome)

/-- What comes behind the numbers of a time of day: its end, with whether something is left, or the
digits of a fraction. -/
inductive Tail
  | ended (more : Bool)
  | fraction (text : List Char)

/-- The numbers of a time of day, at most `count` of them, and what comes behind them.  The
character behind the first number tells whether colons separate them. -/
def numbers? (beyond : List Char) : Nat → Option Bool → List Char → Option (List Nat × Tail)
  | 0, _, text => some ([], .fraction text)
  | count + 1, colons?, text => do
    let (n, rest) ← digits? 2 0 text
    let colons := colons?.getD (rest.head?.or beyond.head? == some ':')
    match rest with
    | c :: d :: more =>
      if c == '.' || c == ',' then some ([n], .fraction (d :: more))
      else if colons && c != ':' then none
      else
        let rest := if colons then d :: more else rest
        let (others, tail) ← numbers? beyond count (some colons) rest
        some (n :: others, tail)
    | _ => some ([n], .ended (rest.head?.or beyond.head?).isSome)

/-- A time of day.  `text` is what is to be read, `beyond` what follows it. -/
def clock? (text beyond : List Char) : Option Clock := do
  let (found, tail) ← numbers? beyond 3 none text
  let (micro, more) ← match tail with
    | .ended more => some (0, more)
    | .fraction digits => fraction? digits beyond
  some ⟨found.getD 0 0, found.getD 1 0, found.getD 2 0, micro, more⟩

/-- The offset that a text from its sign on gives, in microseconds. -/
def offset? (text : List Char) : Option Int := do
  match text with
  | ['Z'] => some 0
  | 'Z' :: _ => none
  | sign :: rest =>
    let c ← clock? rest []
    if c.more then none
    else
      let seconds := (c.hour * 60 + c.minute) * 60 + c.second
      let micros : Int := (seconds * 1000000 + c.microsecond : Nat)
      some (if seconds = 0 then 0 else if sign = '-' then -micros else micros)
  | [] => none

/-- Whether the character begins an offset. -/
def beginsOffset (c : Char) : Bool :=
  c == '+' || c == '-' || c == 'Z'

/-- A time of day with its offset, if it has one. -/
def time? (text : List Char) : Option (Clock × Option Int) := do
  let before := text.takeWhile (!beginsOffset ·)
  let zone := text.dropWhile (!beginsOffset ·)
  let c ← clock? before zone
  if zone.isEmpty then (if c.more then none else some (c, none))
  else
    let offset ← offset? zone
    some (c, some offset)

/-- The parts of a timestamp, by shape alone. -/
def shape? (text : List Char) : Option (Date × Clock × Option Int) := do
  let count ← dateLength? text
  let date ← date? (text.take count)
  if text.length ≤ count then some (date, ⟨0, 0, 0, 0, false⟩, none)
  else
    let (clock, offset) ← time? (text.drop (count + 1))
    some (date, clock, offset)

/-- The microseconds of a day. -/
def dayMicros : Int := 86400000000

/-- The first part that is out of range. -/
def rangeFault? (date : Date) (clock : Clock) (offset : Option Int) : Option Fault :=
  match offset.filter fun o => dayMicros ≤ o || o ≤ -dayMicros with
  | some o => some (.offset o)
  | none =>
    if date.year = 0 ∨ 9999 < date.year then some (.year date.year)
    else if date.month = 0 ∨ 12 < date.month then some .month
    else if date.day = 0 ∨ Calendar.daysInMonth date.year date.month < date.day then some .day
    else if 23 < clock.hour then some .hour
    else if 59 < clock.minute then some .minute
    else if 59 < clock.second then some .second
    else none

/-- Reads a timestamp. -/
def parse (text : String) : Except Fault Timestamp :=
  match shape? text.toList with
  | none => .error (.shape text)
  | some (date, clock, offset) =>
    match rangeFault? date clock offset with
    | some fault => .error fault
    | none =>
      .ok ⟨date, clock.hour, clock.minute, clock.second, clock.microsecond, offset⟩

end Docwright.Timestamp
