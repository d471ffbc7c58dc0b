/-!
# The fingerprint of a content

`md5` is the MD5 digest: the bytes are padded to whole blocks of sixteen words, and each block
changes a state of four words in 64 steps.  `fingerprint` writes the state in hexadecimal.
-/

namespace Docwright.Digest

/-- The words that are added in the steps: the first 32 bits behind the point of the sine of each
number from one on, without its sign. -/
def sines : Array UInt32 :=
  #[0xd76aa478, 0xe8c7b756, 0x242070db, 0xc1bdceee, 0xf57c0faf, 0x4787c62a, 0xa8304613, 0xfd469501,
    0x698098d8, 0x8b44f7af, 0xffff5bb1, 0x895cd7be, 0x6b901122, 0xfd987193, 0xa679438e, 0x49b40821,
    0xf61e2562, 0xc040b340, 0x265e5a51, 0xe9b6c7aa, 0xd62f105d, 0x02441453, 0xd8a1e681, 0xe7d3fbc8,
    0x21e1cde6, 0xc33707d6, 0xf4d50d87, 0x455a14ed, 0xa9e3e905, 0xfcefa3f8, 0x676f02d9, 0x8d2a4c8a,
    0xfffa3942, 0x8771f681, 0x6d9d6122, 0xfde5380c, 0xa4beea44, 0x4bdecfa9, 0xf6bb4b60, 0xbebfbc70,
    0x289b7ec6, 0xeaa127fa, 0xd4ef3085, 0x04881d05, 0xd9d4d039, 0xe6db99e5, 0x1fa27cf8, 0xc4ac5665,
    0xf4292244, 0x432aff97, 0xab9423a7, 0xfc93a039, 0x655b59c3, 0x8f0ccc92, 0xffeff47d, 0x85845dd1,
    0x6fa87e4f, 0xfe2ce6e0, 0xa3014314, 0x4e0811a1, 0xf7537e82, 0xbd3af235, 0x2ad7d2bb, 0xeb86d391]

/-- How far the steps of each round turn, by the remainder of their number by four. -/
def turns : List (List Nat) :=
  [[7, 12, 17, 22], [5, 9, 14, 20], [4, 11, 16, 23], [6, 10, 15, 21]]

/-- Four words. -/
structure State where
  a : UInt32
  b : UInt32
  c : UInt32
  d : UInt32

/-- The state before the first block. -/
def State.initial : State :=
  ⟨0x67452301, 0xefcdab89, 0x98badcfe, 0x10325476⟩

/-- A word turned to the left. -/
def turned (w : UInt32) (count : Nat) : UInt32 :=
  (w <<< UInt32.ofNat count) ||| (w >>> UInt32.ofNat (32 - count))

/-- The mixture of three words in the step of the given number. -/
def mixture (step : Nat) (b c d : UInt32) : UInt32 :=
  match step / 16 with
  | 0 => (b &&& c) ||| (~~~b &&& d)
  | 1 => (d &&& b) ||| (~~~d &&& c)
  | 2 => b ^^^ c ^^^ d
  | _ => c ^^^ (b ||| ~~~d)

/-- The place in the block of the word for a step. -/
def place (step : Nat) : Nat :=
  match step / 16 with
  | 0 => step
  | 1 => (5 * step + 1) % 16
  | 2 => (3 * step + 5) % 16
  | _ => 7 * step % 16

/-- A step. -/
def State.step (block : Array UInt32) (s : State) (step : Nat) : State :=
  let sum := mixture step s.b s.c s.d + s.a + sines.getD step 0 + block.getD (place step) 0
  let turn := (turns.getD (step / 16) []).getD (step % 4) 0
  ⟨s.d, s.b + turned sum turn, s.b, s.c⟩

/-- The state after a block. -/
def State.absorb (s : State) (block : Array UInt32) : State :=
  let t := (List.range 64).foldl (State.step block) s
  ⟨s.a + t.a, s.b + t.b, s.c + t.c, s.d + t.d⟩

/-- The lowest bytes of a number, the lowest first. -/
def lowBytes : Nat → Nat → List UInt8
  | 0, _ => []
  | count + 1, n => UInt8.ofNat n :: lowBytes count (n / 256)

/-- Bytes with what makes their count a multiple of 64: a one bit, zeros, and the count of bits. -/
def padded (data : List UInt8) : List UInt8 :=
  data ++ 0x80 :: List.replicate ((119 - data.length % 64) % 64) 0 ++ lowBytes 8 (8 * data.length)

/-- Bytes as words, the lowest byte of each first. -/
def words : List UInt8 → List UInt32
  | w :: x :: y :: z :: rest =>
    (w.toUInt32 ||| (x.toUInt32 <<< 8) ||| (y.toUInt32 <<< 16) ||| (z.toUInt32 <<< 24)) ::
      words rest
  | _ => []

/-- The state after words, block by block; `count` bounds the number of blocks. -/
def State.absorbAll : Nat → State → List UInt32 → State
  | 0, s, _ => s
  | _ + 1, s, [] => s
  | count + 1, s, ws => absorbAll count (s.absorb (ws.take 16).toArray) (ws.drop 16)

/-- The digest of bytes. -/
def md5 (data : List UInt8) : List UInt8 :=
  let ws := words (padded data)
  let s := State.absorbAll (ws.length / 16) .initial ws
  [s.a, s.b, s.c, s.d].flatMap fun w => lowBytes 4 w.toNat

/-- A digit in hexadecimal. -/
def hexDigit (n : Nat) : Char :=
  if n < 10 then Char.ofNat (48 + n) else Char.ofNat (87 + n)

/-- The fingerprint of a content: its digest in hexadecimal. -/
def fingerprint (data : List UInt8) : String :=
  String.ofList ((md5 data).flatMap fun b => [hexDigit (b.toNat / 16), hexDigit (b.toNat % 16)])

end Docwright.Digest
