/-!
# Reading UTF-8

`Utf8.decode` reads bytes as characters.  A character has one byte below 128, or a leading byte and
one to three continuation bytes; forms that are longer than needed, surrogates and numbers beyond
the last character are refused by the first byte that allows nothing else.

A fault names the bytes that began a character, and whether the next one was wrong or missing.
-/

namespace Docwright.Text.Utf8

/-- What is wrong with bytes. -/
inductive Kind
  | start
  | continuation
  | ending
  deriving DecidableEq, Repr

/-- The words for a kind. -/
def Kind.message : Kind → String
  | start => "invalid start byte"
  | continuation => "invalid continuation byte"
  | ending => "unexpected end of data"

/-- What is wrong: `count` bytes from `position` on, the first of which is `first`. -/
structure Fault where
  kind : Kind
  first : UInt8
  position : Nat
  count : Nat
  deriving DecidableEq, Repr

/-- A byte in hexadecimal. -/
def byteText (b : UInt8) : String :=
  let digits := Nat.toDigits 16 b.toNat
  String.ofList ('0' :: 'x' :: List.replicate (2 - digits.length) '0' ++ digits)

/-- The words for a fault. -/
def Fault.message (f : Fault) : String :=
  let place :=
    if f.count = 1 then s!"byte {byteText f.first} in position {f.position}"
    else s!"bytes in position {f.position}-{f.position + f.count - 1}"
  s!"'utf-8' codec can't decode {place}: {f.kind.message}"

/-- The bytes that may follow a leading byte: the range of the first of them, and how many there
are. -/
structure Lead where
  bits : Nat
  low : UInt8
  high : UInt8
  count : Nat

/-- What a leading byte asks for. -/
def lead? (b : UInt8) : Option Lead :=
  let n := b.toNat
  if n < 0xc2 then none
  else if n < 0xe0 then some ⟨n - 0xc0, 0x80, 0xbf, 1⟩
  else if n = 0xe0 then some ⟨0, 0xa0, 0xbf, 2⟩
  else if n = 0xed then some ⟨13, 0x80, 0x9f, 2⟩
  else if n < 0xf0 then some ⟨n - 0xe0, 0x80, 0xbf, 2⟩
  else if n = 0xf0 then some ⟨0, 0x90, 0xbf, 3⟩
  else if n < 0xf4 then some ⟨n - 0xf0, 0x80, 0xbf, 3⟩
  else if n = 0xf4 then some ⟨4, 0x80, 0x8f, 3⟩
  else none

/-- Reads continuation bytes, the first of which lies between `low` and `high`.  A failure tells the
kind and how many were read. -/
def tail (low high : UInt8) (value seen : Nat) :
    Nat → List UInt8 → Except (Kind × Nat) (Nat × List UInt8)
  | 0, rest => .ok (value, rest)
  | _ + 1, [] => .error (.ending, seen)
  | count + 1, b :: rest =>
    if low ≤ b ∧ b ≤ high then
      tail 0x80 0xbf (value * 64 + (b.toNat - 0x80)) (seen + 1) count rest
    else .error (.continuation, seen)

/-- Reads a character from the given position on. -/
def character (position : Nat) (first : UInt8) (rest : List UInt8) :
    Except Fault (Char × List UInt8) :=
  if first < 0x80 then .ok (Char.ofNat first.toNat, rest)
  else
    match lead? first with
    | none => .error ⟨.start, first, position, 1⟩
    | some l =>
      match tail l.low l.high l.bits 0 l.count rest with
      | .ok (value, rest) => .ok (Char.ofNat value, rest)
      | .error (kind, seen) => .error ⟨kind, first, position, seen + 1⟩

/-- Reads characters from the given position on.  `fuel` bounds their number; `read` holds the
characters read so far, the last one first. -/
def decodeFrom : Nat → Nat → List Char → List UInt8 → Except Fault (List Char)
  | _, _, read, [] => .ok read.reverse
  | 0, _, read, _ :: _ => .ok read.reverse
  | fuel + 1, position, read, b :: rest => do
    let (c, rest') ← character position b rest
    decodeFrom fuel (position + 1 + (rest.length - rest'.length)) (c :: read) rest'

/-- Reads bytes as characters. -/
def decode (data : List UInt8) : Except Fault (List Char) :=
  decodeFrom data.length 0 [] data

end Docwright.Text.Utf8
