import Docwright.Message.Template

/-!
# Messages

A message is a template and the values for it.  `Message.render` puts the values in; a message
without values is its template, whatever that holds.
-/

namespace Docwright

/-- A template with the values for it. -/
structure Message where
  template : String
  values : List Datum

namespace Message

/-- Why a message could not be rendered.  A mismatch shows the values. -/
inductive Failure
  | mismatch (template : String) (shown : List Char)
  | unprintable
  | overflow (cause : Template.Overflow)
  deriving DecidableEq, Repr

/-- The failure of a message that does not fit its values.  It shows them, so a value that has no
text is a failure of its own. -/
def mismatchOf (message : Message) : Failure :=
  match (Datum.tuple message.values).literal? with
  | some shown => .mismatch message.template shown
  | none => .unprintable

/-- The text of a message. -/
def render (message : Message) : Except Failure String :=
  if message.values.isEmpty then .ok message.template
  else
    let text := message.template.toList
    match Template.fill (text.length + 1) message.values text with
    | .ok text => .ok (String.ofList text)
    | .error .mismatch => .error message.mismatchOf
    | .error (.overflow cause) => .error (.overflow cause)

/-- The words for a whole number of too many digits. -/
def unprintableMessage : String :=
  "Exceeds the limit (4300 digits) for integer string conversion; " ++
    "use sys.set_int_max_str_digits() to increase the limit"

/-- The words for a failure. -/
def Failure.message : Failure → String
  | mismatch template shown =>
    "Message template does not match context (template=" ++
      String.ofList (Text.quoted template.toList) ++ " context=" ++ String.ofList shown ++ ")"
  | unprintable => unprintableMessage
  | overflow cause => cause.message

end Message

end Docwright
