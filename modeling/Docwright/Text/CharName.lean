import Docwright.Text.CharName.Alphabets
import Docwright.Text.CharName.Aliases
import Docwright.Text.CharName.Ancient
import Docwright.Text.CharName.Pictures
import Docwright.Text.CharName.Scripts
import Docwright.Text.CharName.Symbols

/-!
# Characters by name

A character can be asked for by the name that version 14 of the Unicode standard gives it, or by an alias
of it (`charNamed?`).  Most names are in tables.  What is not follows a rule: a Hangul syllable is named
by the sounds it is made of, and an ideograph, like the characters of a few other families, by its code
point.

Names are read in any case, but those of Hangul syllables and of unified ideographs, which are looked at
before all others, in capitals only.
-/

namespace Docwright.Text

namespace CharName

/-! ### Names by rule -/

/-- The sounds that begin a Hangul syllable. -/
def leads : List String :=
  ["G", "GG", "N", "D", "DD", "R", "M", "B", "BB", "S", "SS", "", "J", "JJ", "C", "K", "T", "P", "H"]

/-- The vowels of Hangul syllables. -/
def vowels : List String :=
  ["A", "AE", "YA", "YAE", "EO", "E", "YEO", "YE", "O", "WA", "WAE", "OE", "YO", "U", "WEO", "WE",
   "WI", "YU", "EU", "YI", "I"]

/-- The sounds that end a Hangul syllable. -/
def tails : List String :=
  ["", "G", "GG", "GS", "N", "NJ", "NH", "D", "L", "LG", "LM", "LB", "LS", "LT", "LP", "LH", "M", "B",
   "BS", "S", "SS", "NG", "J", "C", "K", "T", "P", "H"]

/-- The place of the longest part that a text begins with, and what stands behind that part. -/
def longest? (parts : List String) (text : List Char) : Option (Nat × List Char) :=
  parts.zipIdx.foldl (fun found (part, i) =>
    match part.toList.isPrefixOf? text with
    | none => found
    | some rest => if found.all (rest.length < ·.2.length) then some (i, rest) else found) none

/-- The Hangul syllable of its sounds. -/
def syllable? (text : List Char) : Option Char := do
  let (lead, text) ← longest? leads text
  let (vowel, text) ← longest? vowels text
  let (tail, text) ← longest? tails text
  if text.isEmpty then
    some (Char.ofNat (0xac00 + (lead * vowels.length + vowel) * tails.length + tail))
  else none

/-- The number of four or five hexadecimal digits, the letters among them in capitals. -/
def codePoint? (text : List Char) : Option Nat :=
  let isDigit (c : Char) : Bool := c.isDigit || ('A' ≤ c && c ≤ 'F')
  if (text.length == 4 || text.length == 5) && text.all isDigit then
    some (text.foldl (fun n c => n * 16 + if c.isDigit then c.toNat - 48 else c.toNat - 55) 0)
  else none

/-- The character of a code point, if that is in one of some ranges. -/
def within? (ranges : List (Nat × Nat)) (text : List Char) : Option Char := do
  let n ← codePoint? text
  if ranges.any fun (first, last) => first ≤ n && n ≤ last then some (Char.ofNat n) else none

/-- The code points of unified ideographs. -/
def ideographs : List (Nat × Nat) :=
  [(0x3400, 0x4dbf), (0x4e00, 0x9fff), (0x20000, 0x2a6df), (0x2a700, 0x2b738), (0x2b740, 0x2b81d),
   (0x2b820, 0x2cea1), (0x2ceb0, 0x2ebe0), (0x30000, 0x3134a)]

/-- Families of characters that are named by their code points, without zeros in front. -/
def families : List (String × List (Nat × Nat)) :=
  [("CJK COMPATIBILITY IDEOGRAPH-", [(0xf900, 0xfa6d), (0xfa70, 0xfad9), (0x2f800, 0x2fa1d)]),
   ("KHITAN SMALL SCRIPT CHARACTER-", [(0x18b00, 0x18cd5)]),
   ("NUSHU CHARACTER-", [(0x1b170, 0x1b2fb)])]

/-- The character of a name in a family. -/
def inFamily? (name : List Char) : String × List (Nat × Nat) → Option Char
  | (common, ranges) => do
    let digits ← common.toList.isPrefixOf? name
    if digits.head? == some '0' then none else within? ranges digits

/-! ### Names in tables -/

/-- All tables of names. -/
def tables : List (List (Nat × String × List String)) :=
  [alphabets, symbols, scripts, ancient, pictures, aliases]

/-- The character of a name in a run. -/
def inRun? (name : List Char) : Nat × String × List String → Option Char
  | (first, common, rests) => do
    let rest ← common.toList.isPrefixOf? name
    let i ← (rests.flatMap (·.splitOn ";")).idxOf? (String.ofList rest)
    some (Char.ofNat (first + i))

/-- The character of a name in capitals. -/
def listed? (name : List Char) : Option Char :=
  (families.findSome? (inFamily? name)).or (tables.findSome? (·.findSome? (inRun? name)))

end CharName

/-- The character of a name, if there is one. -/
def charNamed? (name : String) : Option Char :=
  match "HANGUL SYLLABLE ".toList.isPrefixOf? name.toList with
  | some sounds => CharName.syllable? sounds
  | none =>
    match "CJK UNIFIED IDEOGRAPH-".toList.isPrefixOf? name.toList with
    | some digits => CharName.within? CharName.ideographs digits
    | none => CharName.listed? (name.toList.map Char.toUpper)

end Docwright.Text
