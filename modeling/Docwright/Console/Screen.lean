import Docwright.Console.Emoji
import Docwright.Console.Markup
import Docwright.Text.Cells

/-!
# From a line of markup to what the terminal gets

`print` turns a line of markup into the characters that are written.  The pieces of the line become
runs, each in one style (`runs`); control characters that would move the cursor are left out; the
runs are cut into lines, tabs are filled up to the next stop, and every run that has a style is put
between the codes that switch it on and off.

A piece in which no style is open is written without codes, so a message without tags comes out as
it is.
-/

namespace Docwright.Console

/-- Text in one style, or without. -/
structure Run where
  style : Option Style
  text : List Char
  deriving DecidableEq, Repr

/-- The end of a style that is not open. -/
structure Fault where
  tag : List Char
  position : Nat
  deriving DecidableEq, Repr

/-- The style of text where the given styles are open, the last one first.  Styles without a known
name change nothing. -/
def Style.shown : List Style → Option Style
  | [] => none
  | .other _ :: rest => shown rest
  | s :: _ => some s

/-- Control characters that are not written: they ring, or move the cursor. -/
def isMoving (c : Char) : Bool :=
  let n := c.toNat
  n == 7 || n == 8 || n == 11 || n == 12 || n == 13

/-- A piece of text as it is written. -/
def plain (text : List Char) : List Char :=
  (Emoji.replace (Piece.unescaped text)).filter (!isMoving ·)

/-- The open styles when a style ends: a tag without a name ends the last one. -/
def close? (tag : List Char) (opened : List Style) : Option (List Style) :=
  let name := ((tag.drop 1).takeWhile (· != '=')).filter (!Text.isBlank ·)
  if name.isEmpty then opened.tail?
  else if opened.contains (Style.ofName name) then some (opened.erase (Style.ofName name))
  else none

/-- The runs of pieces; `text` is what was collected for the run at hand. -/
def runsFrom (opened : List Style) (text : List Char) : List Piece → Except Fault (List Run)
  | [] => .ok [⟨Style.shown opened, text⟩]
  | .text value :: rest => runsFrom opened (text ++ plain value) rest
  | .opening style :: rest => do
    .ok (⟨Style.shown opened, text⟩ :: (← runsFrom (style :: opened) [] rest))
  | .closing tag position :: rest =>
    match close? tag opened with
    | none => .error ⟨Token.bracketed tag, position⟩
    | some left => do .ok (⟨Style.shown opened, text⟩ :: (← runsFrom left [] rest))

/-- The runs of a line of markup. -/
def runs (line : List Char) : Except Fault (List Run) :=
  runsFrom [] [] (pieces line)

/-! ### Lines and tabs -/

/-- A text, cut at the given character. -/
def cutAt (separator : Char) : List Char → List (List Char)
  | [] => [[]]
  | c :: rest =>
    if c == separator then [] :: cutAt separator rest
    else
      match cutAt separator rest with
      | [] => [[c]]
      | part :: parts => (c :: part) :: parts

/-- Puts the parts of a run in front of lines: its last part begins the first of them, every other
part is a line of its own. -/
def prepend (style : Option Style) : List (List Char) → List (List Run) → List (List Run)
  | [], lines => lines
  | [last], [] => [[⟨style, last⟩]]
  | [last], line :: lines => (⟨style, last⟩ :: line) :: lines
  | part :: parts, lines => [⟨style, part⟩] :: prepend style parts lines

/-- Runs, cut into lines. -/
def lines : List Run → List (List Run)
  | [] => [[]]
  | run :: rest => prepend run.style (cutAt '\n' run.text) (lines rest)

/-- How many blanks a tab in the given column stands for: the next column is a multiple of eight. -/
def tabBlanks (column : Nat) : Nat :=
  8 - column % 8

/-- The parts of a run between tabs, each filled up to the next stop, and the column behind them. -/
def fillParts (style : Option Style) (column : Nat) : List (List Char) → List Run × Nat
  | [] => ([], column)
  | [last] => ([⟨style, last⟩], column + Text.width last)
  | part :: parts =>
    let stop := column + Text.width part
    let blanks := tabBlanks stop
    let (others, column) := fillParts style (stop + blanks) parts
    (⟨style, part ++ List.replicate blanks ' '⟩ :: others, column)

/-- The runs of a line from the given column on, with blanks for tabs. -/
def fillTabs (column : Nat) : List Run → List Run
  | [] => []
  | run :: rest =>
    let (filled, column) := fillParts run.style column (cutAt '\t' run.text)
    filled ++ fillTabs column rest

/-! ### Codes -/

/-- The code that switches a style on. -/
def Style.code? : Style → Option (List Char)
  | info => some ['3', '2']
  | comment => some ['3', '3']
  | error => some ['1', ';', '3', '7', ';', '4', '1']
  | other _ => none

/-- The sequence of characters for a code. -/
def sequence (code : List Char) : List Char :=
  '\x1b' :: '[' :: code ++ ['m']

/-- A run as it is written. -/
def Run.written (run : Run) : List Char :=
  match run.style.bind Style.code? with
  | none => run.text
  | some code => if run.text.isEmpty then [] else sequence code ++ run.text ++ sequence ['0']

/-- A line as it is written. -/
def writtenLine (line : List Run) : List Char :=
  (fillTabs 0 line).flatMap Run.written ++ ['\n']

/-- What is written for a line of markup. -/
def print (line : List Char) : Except Fault (List Char) := do
  .ok ((lines (← runs line)).flatMap writtenLine)

end Docwright.Console
