import Docwright.Text.CharSet
import Docwright.Text.Word.Table

/-!
# Word characters and word boundaries

A word character is a letter, a digit of any kind (superscripts, fractions and circled numbers
count) or the underscore.  `occursAsWord name text` asks for an occurrence of `name` with a word
boundary at both ends.  A boundary is a change between word and other characters, so an end that is
itself no word character (a combining mark, say) has one only where a word character follows or
precedes it.
-/

namespace Docwright.Text

/-- A letter, a digit of any kind, or the underscore. -/
def isWord (c : Char) : Bool :=
  inClass (fun c => c.isAlphanum || c == '_') Word.bounds c

/-- Whether the neighbouring character, if any, is a word character: outside the text is none. -/
def isWord? : Option Char → Bool
  | some c => isWord c
  | none => false

/-- A boundary lies between two neighbours of which exactly one is a word character. -/
def boundary (before after : Option Char) : Bool :=
  isWord? before != isWord? after

/-- Whether `name` stands at the head of `text`, `before` being the character in front of it, with
a boundary before its first and after its last character. -/
def wordAt (name : List Char) (before : Option Char) (text : List Char) : Bool :=
  name.isPrefixOf text && boundary before text.head? &&
    boundary (name.getLast?.or before) (text.drop name.length).head?

/-- An occurrence of `name` at some place of `text`, given the character in front of `text`. -/
def occursAfter (name : List Char) (before : Option Char) : List Char → Bool
  | [] => wordAt name before []
  | c :: rest => wordAt name before (c :: rest) || occursAfter name (some c) rest

/-- Whether `name` occurs in `text` with a word boundary at both of its ends. -/
def occursAsWord (name text : List Char) : Bool :=
  occursAfter name none text

end Docwright.Text
