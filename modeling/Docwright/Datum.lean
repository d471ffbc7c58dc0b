import Docwright.Message.Scalar

/-!
# Structured values

A value that may be offered where a scalar is wanted: a scalar, a member that counts as one, a list,
a tuple, a dictionary or bytes.  `Datum.literal?` writes it so that its kind can be told.
-/

namespace Docwright

/-- A structured value. -/
inductive Datum
  | scalar (value : Scalar)
  | member (value : Member)
  | list (items : List Datum)
  | tuple (items : List Datum)
  | dict (entries : List (Datum × Datum))
  | bytes (value : List UInt8)

namespace Datum

/-- A text as a value. -/
def text (s : String) : Datum := scalar (.text s)

/-- A whole number as a value. -/
def int (n : Int) : Datum := scalar (.int n)

/-- The scalar a value is. -/
def toScalar? : Datum → Option Scalar
  | scalar s => some s
  | _ => none

/-- The scalar a value is or counts as. -/
def base? : Datum → Option Scalar
  | scalar s => some s
  | member m => some m.base
  | _ => none

/-- What a value is in the context of a message. -/
def inContext? : Datum → Option ContextValue
  | scalar s => some (.scalar s)
  | member m => some (.member m)
  | _ => none

/-- A value from the context of a message. -/
def ofContext : ContextValue → Datum
  | .scalar s => scalar s
  | .member m => member m

/-- A byte within quotes. -/
def byteText (quote : Char) (b : UInt8) : List Char :=
  let c := Char.ofNat b.toNat
  if b < 128 then Text.quotedChar (fun c => Text.isPrintable c) quote c else Text.codeEscape c

/-- Bytes in quotes. -/
def bytesText (value : List UInt8) : List Char :=
  let quote := Text.quoteFor (value.map fun b => Char.ofNat b.toNat)
  'b' :: quote :: value.flatMap (byteText quote) ++ [quote]

/-- Texts joined by a comma and a blank. -/
def joined (texts : List (List Char)) : List Char :=
  List.intercalate [',', ' '] texts

mutual

/-- A value as text from which its kind can be told, unless a whole number in it has too many
digits. -/
def literal? : Datum → Option (List Char)
  | scalar s => s.literal?
  | member m => some m.literal.toList
  | list items => (literals? items).map fun texts => '[' :: joined texts ++ [']']
  | tuple items => (literals? items).map fun
    | [one] => '(' :: one ++ [',', ')']
    | texts => '(' :: joined texts ++ [')']
  | dict entries => (entryLiterals? entries).map fun texts => '\x7b' :: joined texts ++ ['\x7d']
  | bytes value => some (bytesText value)

/-- Values as texts. -/
def literals? : List Datum → Option (List (List Char))
  | [] => some []
  | d :: rest => do some ((← literal? d) :: (← literals? rest))

/-- Entries of a dictionary as texts. -/
def entryLiterals? : List (Datum × Datum) → Option (List (List Char))
  | [] => some []
  | (key, value) :: rest => do
    let key ← literal? key
    let value ← literal? value
    some ((key ++ ':' :: ' ' :: value) :: (← entryLiterals? rest))

end

/-- A value by itself: a text as it is, a member in its words, and anything else so that its kind can
be told. -/
def show? : Datum → Option (List Char)
  | scalar s => s.show?
  | member m => some m.shown.toList
  | d => d.literal?

/-- The whole number a value counts as. -/
def asInt? (d : Datum) : Option Int :=
  d.base?.bind Scalar.asInt?

/-- Whether two keys of a dictionary are one: they count as scalars that are equal as values. -/
def sameKey (a b : Datum) : Bool :=
  match a.base?, b.base? with
  | some a, some b => a.valueEq b
  | _, _ => false

/-- Puts an entry into a dictionary: a key that is there keeps its place and gets the new value. -/
def putEntry (key value : Datum) : List (Datum × Datum) → List (Datum × Datum)
  | [] => [(key, value)]
  | (k, v) :: rest =>
    if sameKey k key then (k, value) :: rest else (k, v) :: putEntry key value rest

/-- The dictionary that a list of entries makes. -/
def dictOf (entries : List (Datum × Datum)) : Datum :=
  dict (entries.foldl (fun whole (key, value) => putEntry key value whole) [])

end Datum

end Docwright
