import Docwright.Text.CharSet
import Docwright.Text.Printable.Table

/-!
# Printable characters

A character is printable when it can be shown as itself inside quotes: the blank is, every other
separator, control, format, private or unassigned code point is not.
-/

namespace Docwright.Text

/-- Whether the character can be shown as itself. -/
def isPrintable (c : Char) : Bool :=
  inClass (fun c => 32 ≤ c.toNat && c.toNat < 127) Printable.bounds c

end Docwright.Text
