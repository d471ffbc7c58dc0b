/-!
# Markup of a console line

A line for the console is text with tags in brackets: `[info]` starts a style and `[/info]` ends it.
A tag is an opening bracket, a lower-case letter or one of `#`, `/`, `@`, more text without another
opening bracket, and the next closing bracket; any other bracket is text.

Backslashes in front of a tag belong to it (`Token.tag`): an even number of them stands for half as
many, an odd number for half as many and a tag that is text.  `escape` doubles them and adds one, so
that a text holds no tag any more.
-/

namespace Docwright.Console

/-- A part of a line: a character, or a tag with the number of backslashes in front of it. -/
inductive Token
  | char (c : Char)
  | tag (slashes : Nat) (body : List Char)
  deriving DecidableEq, Repr

namespace Token

/-- Whether a character may come first in a tag. -/
def beginsTag (c : Char) : Bool :=
  ('a' ≤ c && c ≤ 'z') || c == '#' || c == '/' || c == '@'

/-- Whether a character may stand in a tag. -/
def inTag (c : Char) : Bool :=
  c != '[' && c != ']'

/-- The tag at the head of a text from behind its opening bracket, and what follows its closing
bracket. -/
def split? (text : List Char) : Option (List Char × List Char) :=
  if (text.head?.map beginsTag).getD false then
    match text.dropWhile inTag with
    | ']' :: rest => some (text.takeWhile inTag, rest)
    | _ => none
  else none

theorem length_lt_of_split? {text body rest : List Char} (h : split? text = some (body, rest)) :
    rest.length < text.length := by
  unfold split? at h
  split at h
  · split at h
    · next rest' heq =>
      simp only [Option.some.injEq, Prod.mk.injEq] at h
      have := (List.dropWhile_suffix (l := text) inTag).length_le
      rw [heq] at this
      simp only [List.length_cons] at this
      rw [← h.2]
      omega
    · simp at h
  · simp at h

/-- Backslashes as characters. -/
def slashes (count : Nat) : List Token :=
  List.replicate count (.char '\\')

/-- The parts of a line; `count` backslashes were read in front of it. -/
def scan (count : Nat) (text : List Char) : List Token :=
  match text with
  | [] => slashes count
  | '\\' :: rest => scan (count + 1) rest
  | '[' :: rest =>
    match _h : split? rest with
    | some (body, rest') => .tag count body :: scan 0 rest'
    | none => slashes count ++ .char '[' :: scan 0 rest
  | c :: rest => slashes count ++ .char c :: scan 0 rest
termination_by text.length
decreasing_by
  all_goals simp_all only [List.length_cons]
  all_goals first
    | omega
    | (have shorter := length_lt_of_split? _h; omega)

/-- The parts of a line. -/
def ofText (text : List Char) : List Token :=
  scan 0 text

/-- A tag as it is written. -/
def bracketed (body : List Char) : List Char :=
  '[' :: body ++ [']']

/-- A part as text for a line: a tag gets another backslash. -/
def escaped : Token → List Char
  | char c => [c]
  | tag n body => List.replicate (2 * n + 1) '\\' ++ bracketed body

end Token

/-- Whether a text ends in a single backslash. -/
def endsInSlash (text : List Char) : Bool :=
  match text.reverse with
  | '\\' :: '\\' :: _ => false
  | '\\' :: _ => true
  | _ => false

/-- A text that is shown as it is, tags and all.  A single backslash at its end would change the tag
behind it and is doubled. -/
def escape (text : List Char) : List Char :=
  let written := (Token.ofText text).flatMap Token.escaped
  if endsInSlash written then written ++ ['\\'] else written

/-! ### Styles -/

/-- A style by its name. -/
inductive Style
  | info
  | comment
  | error
  | other (name : List Char)
  deriving DecidableEq, Repr

/-- The style of a name. -/
def Style.ofName (name : List Char) : Style :=
  if name = "info".toList then info
  else if name = "comment".toList then comment
  else if name = "error".toList then error
  else other name

/-- What a line is made of: pieces of text, and the beginning and end of styles.  The end of a style
keeps the tag and its position. -/
inductive Piece
  | text (value : List Char)
  | opening (style : Style)
  | closing (tag : List Char) (position : Nat)
  deriving DecidableEq, Repr

namespace Piece

/-- The pieces that a tag makes, at the given position: the backslashes that are left, and the tag
itself. -/
def ofTag (position slashes : Nat) (body : List Char) : List Piece :=
  let kept := if slashes / 2 = 0 then [] else [text (List.replicate (slashes / 2) '\\')]
  if slashes % 2 = 1 then kept ++ [text (Token.bracketed body)]
  else if body.head? = some '/' then kept ++ [closing body (position + slashes)]
  else kept ++ [opening (Style.ofName (body.takeWhile (· != '=')))]

/-- A piece for the characters collected so far, if there are any. -/
def flush (collected : List Char) : List Piece :=
  if collected.isEmpty then [] else [text collected.reverse]

/-- The pieces of a line, from the given position on. -/
def ofTokens (position : Nat) (collected : List Char) : List Token → List Piece
  | [] => flush collected
  | .char c :: rest => ofTokens (position + 1) (c :: collected) rest
  | .tag n body :: rest =>
    flush collected ++ ofTag position n body ++ ofTokens (position + n + body.length + 2) [] rest

/-- Within a piece of text, a backslash in front of an opening bracket is left out. -/
def unescaped : List Char → List Char
  | '\\' :: '[' :: rest => '[' :: unescaped rest
  | c :: rest => c :: unescaped rest
  | [] => []

end Piece

/-- The pieces of a line.  A line without an opening bracket is one piece. -/
def pieces (line : List Char) : List Piece :=
  if line.contains '[' then Piece.ofTokens 0 [] (Token.ofText line)
  else [.text line]

end Docwright.Console
