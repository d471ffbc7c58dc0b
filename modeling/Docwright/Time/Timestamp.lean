import Docwright.Time.Calendar

/-!
# Timestamps

A date and a time of day, to the microsecond, with the offset from universal time if there is one.
`Timestamp.text` writes the ISO form: seconds always, microseconds when there are any, and the
offset to the minute unless it is finer.
-/

namespace Docwright

open Calendar (Date)

/-- A point in time.  The offset is in microseconds. -/
structure Timestamp where
  date : Date
  hour : Nat
  minute : Nat
  second : Nat
  microsecond : Nat
  offset : Option Int
  deriving DecidableEq, Repr

namespace Timestamp

/-- A number with at least the given count of digits. -/
def padded (count n : Nat) : List Char :=
  let digits := Nat.toDigits 10 n
  List.replicate (count - digits.length) '0' ++ digits

/-- A point and six digits, if there are microseconds. -/
def fractionText (microsecond : Nat) : List Char :=
  if microsecond = 0 then [] else '.' :: padded 6 microsecond

/-- An offset: sign, hours and minutes, then seconds and microseconds as far as needed. -/
def offsetText (offset : Int) : List Char :=
  let n := offset.natAbs
  let micro := n % 1000000
  let seconds := n / 1000000
  let rest := if seconds % 60 = 0 ∧ micro = 0 then []
    else ':' :: padded 2 (seconds % 60) ++ fractionText micro
  (if offset < 0 then '-' else '+') ::
    padded 2 (seconds / 3600) ++ ':' :: padded 2 (seconds / 60 % 60) ++ rest

/-- The ISO form. -/
def text (t : Timestamp) : List Char :=
  padded 4 t.date.year ++ '-' :: padded 2 t.date.month ++ '-' :: padded 2 t.date.day ++
    'T' :: padded 2 t.hour ++ ':' :: padded 2 t.minute ++ ':' :: padded 2 t.second ++
    fractionText t.microsecond ++ (t.offset.map offsetText).getD []

/-- The microseconds from the first day of the year one, by the clock on the wall. -/
def wall (t : Timestamp) : Int :=
  let days := Calendar.ordinal t.date
  (((days * 24 + t.hour) * 60 + t.minute) * 60 + t.second : Nat) * 1000000 + t.microsecond

/-- Equality as points in time: with offsets the instants count, without them the clock on the wall;
the two kinds never agree. -/
def sameInstant (a b : Timestamp) : Bool :=
  match a.offset, b.offset with
  | some x, some y => a.wall - x == b.wall - y
  | none, none => a.wall == b.wall
  | _, _ => false

/-- The time of day after a count of microseconds from midnight, on the given day. -/
def ofWall (days : Nat) (micros : Nat) (offset : Option Int) : Timestamp :=
  let seconds := micros / 1000000
  ⟨Calendar.ofOrdinal (days + seconds / 86400), seconds / 3600 % 24, seconds / 60 % 60,
    seconds % 60, micros % 1000000, offset⟩

/-- A timestamp later by a count of microseconds. -/
def later (t : Timestamp) (micros : Nat) : Timestamp :=
  let ofDay := ((t.hour * 60 + t.minute) * 60 + t.second) * 1000000 + t.microsecond
  ofWall (Calendar.ordinal t.date) (ofDay + micros) t.offset

end Timestamp

end Docwright
