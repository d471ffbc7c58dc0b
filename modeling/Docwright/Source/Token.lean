/-!
# Tokens of a source text

A token keeps its spelling, the row it is reported at and how many brackets are open after it.
-/

namespace Docwright.Source

/-- The kinds of token. -/
inductive Kind
  | name
  | keyword
  | number
  | text
  | mark
  | newline
  | indent
  | dedent
  | finish
  deriving Repr, DecidableEq

/-- A token: `row` is the row of its first character (of the line it opens for `indent` and
`dedent`, of the last line for `finish`), and `depth` counts the brackets open after it. -/
structure Token where
  kind : Kind
  spelling : String
  row : Nat
  depth : Nat
  deriving Repr, DecidableEq

/-- The words that are never names. -/
def keywords : List String :=
  ["False", "None", "True", "and", "as", "assert", "async", "await", "break", "class", "continue",
   "def", "del", "elif", "else", "except", "finally", "for", "from", "global", "if", "import", "in",
   "is", "lambda", "nonlocal", "not", "or", "pass", "raise", "return", "try", "while", "with",
   "yield"]

/-- The names that open a statement or a pattern in some places. -/
def softKeywords : List String :=
  ["_", "case", "match"]

end Docwright.Source
