import Docwright.Proofs.Console.Appearance

/-!
# The lines that a build shows

`Shown` is a line by what it says, before it becomes markup: that a file was found or
made, or a message with its severity.  What the markup makes of a path or a message are
the runs of a front and of a text in one style (`runs_markup`).  So every line can be
written (`print_markup`), and what is on a screen can be told from the list of its lines.
-/

namespace Docwright.Console

/-- A line that a build shows. -/
inductive Shown
  | file (origin : Origin) (path : String)
  | log (severity : Severity) (text : String)
  deriving DecidableEq, Repr

namespace Shown

/-- A line as markup. -/
def markup : Shown → List Char
  | file origin path => fileLine origin path.toList
  | log severity text => logLine severity text.toList

/-- What stands in front of the path or the message. -/
def front : Shown → List Char
  | file origin _ => origin.heading
  | log .. => [' ', ' ']

/-- The path or the message. -/
def said : Shown → List Char
  | file _ path => path.toList
  | log _ text => text.toList

/-- The name of the style that the path or the message is in, if there is one. -/
def styleName? : Shown → Option (List Char)
  | file .. => some "info".toList
  | log severity _ => Console.styleName? severity

/-- The line that shows a file as one that the cache holds. -/
def found : Shown → Shown
  | file _ path => file .cached path
  | log severity text => log severity text

/-- What is written for a line. -/
def written? (line : Shown) : Option (List Char) :=
  (print line.markup).toOption

/-- Whether a line is shown from a threshold on.  The line of a file always is. -/
def reaches (threshold : Severity) : Shown → Bool
  | file .. => true
  | log severity _ => severity.reaches threshold

theorem heads_front (line : Shown) : Heads line.front := by
  cases line with
  | file origin path => exact heads_heading origin
  | log severity text => exact heads_indent

theorem names_styleName? {line : Shown} {name : List Char} (styled : line.styleName? = some name) :
    Names name (.ofName name) := by
  cases line with
  | file origin path => cases styled; exact names_info
  | log severity text => exact Console.names_styleName? styled

/-- **The runs of a line.** -/
theorem runs_markup (line : Shown) :
    runs line.markup = .ok (shownRuns line.front line.styleName? line.said) := by
  cases line with
  | file origin path => exact runs_fileLine origin path.toList
  | log severity text => exact runs_logLine severity text.toList

/-- **Every line can be written.** -/
theorem print_markup (line : Shown) : ∃ text, print line.markup = .ok text :=
  ⟨_, print_of_runs line.runs_markup⟩

theorem written?_of_print {line : Shown} {text : List Char} (printed : print line.markup = .ok text) :
    line.written? = some text := by
  rw [written?, printed]
  rfl

end Shown

/-- What is written for lines one after another. -/
def screen? : List Shown → Option (List Char)
  | [] => some []
  | line :: rest => do
    let text ← line.written?
    let more ← screen? rest
    return text ++ more

/-- What is written for one more line. -/
theorem screen?_concat {lines : List Shown} {line : Shown} {text more : List Char}
    (before : screen? lines = some text) (last : line.written? = some more) :
    screen? (lines ++ [line]) = some (text ++ more) := by
  induction lines generalizing text with
  | nil =>
      obtain rfl := Option.some.inj before
      simp [screen?, last]
  | cons first rest ih =>
      simp only [screen?, Option.bind_eq_bind, Option.bind_eq_some_iff] at before
      obtain ⟨head, written, tail, after, same⟩ := before
      obtain rfl := Option.some.inj same
      simp [screen?, written, ih after]

/-- What is on a screen whose lines were written one by one. -/
theorem screen?_of_map {lines : List Shown} {texts : List (List Char)}
    (written : lines.map Shown.written? = texts.map some) : screen? lines = some texts.flatten := by
  induction lines generalizing texts with
  | nil =>
      cases texts with
      | nil => rfl
      | cons text rest => cases written
  | cons line lines ih =>
      cases texts with
      | nil => cases written
      | cons text rest =>
          obtain ⟨first, others⟩ := List.cons.inj written
          rw [screen?, first, ih others]
          rfl

end Docwright.Console
