import Docwright.Text.CharSet
import Docwright.Text.Cells.Table

/-!
# Cells of a terminal

How many cells a text takes on a terminal of fixed pitch: two for a wide character, none for a
combining mark or a control character, one for any other.
-/

namespace Docwright.Text

/-- The number of cells a character takes. -/
def cells (c : Char) : Nat :=
  let n := c.toNat
  if n < 32 || (127 ≤ n && n < 160) then 0
  else if n < 127 then 1
  else if holdsAt Cells.emptyBounds n then 0
  else if holdsAt Cells.wideBounds n then 2
  else 1

/-- The number of cells a text takes. -/
def width (text : List Char) : Nat :=
  text.foldr (fun c column => cells c + column) 0

end Docwright.Text
