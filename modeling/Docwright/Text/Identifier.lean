import Docwright.Text.CharSet
import Docwright.Text.Identifier.Table

/-!
# Identifier characters

An identifier starts with a letter-like character or an underscore and goes on with those, digits,
combining marks and connectors, as the Unicode standard's XID properties say.
-/

namespace Docwright.Text

/-- Whether an identifier may start with the character. -/
def isIdentifierStart (c : Char) : Bool :=
  inClass (fun c => c.isAlpha || c == '_') Identifier.startBounds c

/-- Whether an identifier may go on with the character. -/
def isIdentifierContinue (c : Char) : Bool :=
  inClass (fun c => c.isAlphanum || c == '_') Identifier.continueBounds c

/-- The first character that keeps the text from being an identifier, if there is one. -/
def identifierFault : List Char → Option Char
  | [] => none
  | c :: rest => if isIdentifierStart c then rest.find? (!isIdentifierContinue ·) else some c

end Docwright.Text
