import Docwright.Text.CharSet
import Docwright.Text.Normal.Table

/-!
# Compatibility normal form of identifiers

Two spellings of an identifier are the same name when their compatibility normal forms (NFKC)
agree.  The form is reached in three steps: every character is decomposed in full, each run of
combining marks is sorted by combining class, and marks are composed again with the starter before
them where the standard has a primary composite.  The tables cover the characters an identifier may
hold; text of ASCII characters is its own form.
-/

namespace Docwright.Text.Normal

/-- The words of a line, which single blanks separate; `word` is what has been read of the first
one, in reverse. -/
def wordsOf (word : List Char) : List Char → List (List Char)
  | [] => [word.reverse]
  | c :: rest => if c = ' ' then word.reverse :: wordsOf [] rest else wordsOf (c :: word) rest

/-- The words of a table, each as its characters. -/
def entries (table : List String) : Array (List Char) :=
  (table.flatMap fun line => wordsOf [] line.toList).toArray

/-- Bisection in an array of entries that ascend by their key. -/
def findBetween (table : Array (List Char)) (key : List Char → Nat) (n : Nat) :
    Nat → Nat → Nat → Option (List Char)
  | 0, _, _ => none
  | steps + 1, low, high =>
    if high ≤ low then none
    else
      let middle := (low + high) / 2
      let entry := table.getD middle []
      if key entry = n then some entry
      else if key entry < n then findBetween table key n steps (middle + 1) high
      else findBetween table key n steps low middle

/-- The entry with the given key in an array of entries that ascend by their key. -/
def find? (table : Array (List Char)) (key : List Char → Nat) (n : Nat) : Option (List Char) :=
  findBetween table key n (table.size.log2 + 1) 0 table.size

/-- The first character of an entry as a number. -/
def headCode (entry : List Char) : Nat :=
  (entry.head?.map Char.toNat).getD 0

/-- The decompositions, in ascending order of the character decomposed. -/
def decompositionTable : Array (List Char) :=
  entries decompositions

/-- The pair of an entry of the compositions as one number. -/
def pairCode : List Char → Nat
  | first :: second :: _ => first.toNat * 0x110000 + second.toNat
  | _ => 0

/-- The compositions, in ascending order of the pair composed. -/
def compositionTable : Array (List Char) :=
  ((entries compositions).toList.mergeSort (fun a b => pairCode a ≤ pairCode b)).toArray

/-- The first syllable of Hangul and the first of each of its three kinds of part. -/
def syllableBase : Nat := 0xac00
def leadBase : Nat := 0x1100
def vowelBase : Nat := 0x1161
def tailBase : Nat := 0x11a7

/-- A syllable of Hangul as its two or three parts: the parts count off the syllables in the order
lead, vowel, tail, and the tail may be absent. -/
def syllableParts (n : Nat) : List Char :=
  let lead := Char.ofNat (leadBase + n / 588)
  let vowel := Char.ofNat (vowelBase + n % 588 / 28)
  if n % 28 = 0 then [lead, vowel] else [lead, vowel, Char.ofNat (tailBase + n % 28)]

/-- The full compatibility decomposition of a character. -/
def decompose (c : Char) : List Char :=
  let n := c.toNat
  if n < 128 then [c]
  else if syllableBase ≤ n ∧ n < syllableBase + 11172 then syllableParts (n - syllableBase)
  else ((find? decompositionTable headCode n).map (·.drop 1)).getD [c]

/-- The canonical combining class: zero for a starter. -/
def combiningClass (c : Char) : Nat :=
  if c.toNat < 128 then 0
  else go combiningClasses.toList c.toNat
where
  go : List Nat → Nat → Nat
    | first :: beyond :: kind :: rest, n =>
      if n < first then 0 else if n < beyond then kind else go rest n
    | _, _ => 0

/-- Sorts each run of combining marks by class and leaves the starters where they are. -/
def reorder : List Char → List Char → List Char
  | marks, [] => sortMarks marks
  | marks, c :: rest =>
    if combiningClass c = 0 then sortMarks marks ++ c :: reorder [] rest
    else reorder (marks ++ [c]) rest
where
  sortMarks (marks : List Char) : List Char :=
    marks.mergeSort fun a b => combiningClass a ≤ combiningClass b

/-- The primary composite of two characters. -/
def compose? (first second : Char) : Option Char :=
  let a := first.toNat
  let b := second.toNat
  if leadBase ≤ a ∧ a < leadBase + 19 ∧ vowelBase ≤ b ∧ b < vowelBase + 21 then
    some (Char.ofNat (syllableBase + (a - leadBase) * 588 + (b - vowelBase) * 28))
  else if syllableBase ≤ a ∧ a < syllableBase + 11172 ∧ (a - syllableBase) % 28 = 0 ∧
      tailBase < b ∧ b < tailBase + 28 then
    some (Char.ofNat (a + (b - tailBase)))
  else
    (find? compositionTable pairCode (pairCode [first, second])).bind (·[2]?)

/-- Composes what follows a starter with it where that is possible.  `kept` holds the marks passed
by, in reverse; a mark is blocked from the starter by one of its own class or by a starter. -/
def composeWith (starter : Char) (kept : List Char) : List Char → List Char
  | [] => starter :: kept.reverse
  | c :: rest =>
    let kind := combiningClass c
    let last := (kept.head?.map combiningClass).getD 0
    let blocked := !kept.isEmpty && (last == 0 || kind ≤ last)
    match if blocked then none else compose? starter c with
    | some whole => composeWith whole kept rest
    | none =>
      if kind = 0 then starter :: kept.reverse ++ composeWith c [] rest
      else composeWith starter (c :: kept) rest

/-- Composes a decomposed and reordered text. -/
def compose : List Char → List Char
  | [] => []
  | c :: rest => if combiningClass c = 0 then composeWith c [] rest else c :: compose rest

/-- The compatibility normal form. -/
def ofIdentifier (name : List Char) : List Char :=
  if name.all (·.toNat < 128) then name
  else compose (reorder [] (name.flatMap decompose))

end Docwright.Text.Normal
