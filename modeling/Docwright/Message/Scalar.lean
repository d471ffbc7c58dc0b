import Docwright.Number.Decimal
import Docwright.Text.Quoted

/-!
# Values in a message

The values that are put into a message: texts, whole numbers, numbers of double precision, truth
values, and nothing.  `Scalar.show?` is the text of a value by itself, `Scalar.literal?` the text
from which its kind can be told (a text in quotes).  Whole numbers of more than `digitLimit` digits
are not converted to text.

The members of an enumeration may themselves be texts or numbers.  Such a `Member` counts as a
scalar wherever that is asked for, but is shown in words of its own.
-/

namespace Docwright

/-- A value in a message. -/
inductive Scalar
  | text (value : String)
  | int (value : Int)
  | float (value : Double)
  | bool (value : Bool)
  | null
  deriving DecidableEq, Repr

namespace Scalar

/-- How many digits a whole number may have to be converted to or from text. -/
def digitLimit : Nat := 4300

/-- A whole number in digits, unless there are too many. -/
def intText? (n : Int) : Option (List Char) :=
  let digits := Decimal.digitsOf n.natAbs
  if digitLimit < digits.length then none else some (Decimal.signed (n < 0) digits)

/-- A truth value in words. -/
def boolText (b : Bool) : List Char :=
  if b then "True".toList else "False".toList

/-- A value as the text from which its kind can be told. -/
def literal? : Scalar → Option (List Char)
  | text s => some (Text.quoted s.toList)
  | int n => intText? n
  | float d => some (Decimal.text d)
  | bool b => some (boolText b)
  | null => some "None".toList

/-- A value by itself. -/
def show? : Scalar → Option (List Char)
  | text s => some s.toList
  | s => s.literal?

/-- The whole number a value counts as: a truth value is zero or one. -/
def asInt? : Scalar → Option Int
  | int n => some n
  | bool b => some (if b then 1 else 0)
  | _ => none

/-- Equality as values: whole numbers, truth values and doubles are compared as numbers. -/
def valueEq : Scalar → Scalar → Bool
  | text a, text b => a == b
  | null, null => true
  | float a, float b => a.numEq b
  | float a, b => (b.asInt?.map a.eqInt).getD false
  | a, float b => (a.asInt?.map b.eqInt).getD false
  | a, b =>
    match a.asInt?, b.asInt? with
    | some m, some n => m == n
    | _, _ => false

end Scalar

/-- A member of an enumeration whose members are texts, whole numbers or doubles: the value that it
counts as, how it is shown by itself, and how it is shown so that its kind can be told. -/
inductive Member
  | text (value shown literal : String)
  | int (value : Int) (shown literal : String)
  | float (value : Double) (shown literal : String)
  deriving DecidableEq, Repr

namespace Member

/-- The scalar a member counts as. -/
def base : Member → Scalar
  | text value _ _ => .text value
  | int value _ _ => .int value
  | float value _ _ => .float value

/-- A member by itself. -/
def shown : Member → String
  | text _ shown _ | int _ shown _ | float _ shown _ => shown

/-- A member as the text from which its kind can be told. -/
def literal : Member → String
  | text _ _ literal | int _ _ literal | float _ _ literal => literal

end Member

/-- A value in the context of a message: a scalar, or a member that counts as one. -/
inductive ContextValue
  | scalar (value : Scalar)
  | member (value : Member)
  deriving DecidableEq, Repr

namespace ContextValue

/-- A text as a value. -/
def text (s : String) : ContextValue := scalar (.text s)

/-- A whole number as a value. -/
def int (n : Int) : ContextValue := scalar (.int n)

/-- A double as a value. -/
def float (d : Double) : ContextValue := scalar (.float d)

/-- A truth value as a value. -/
def bool (b : Bool) : ContextValue := scalar (.bool b)

/-- Nothing as a value. -/
def null : ContextValue := scalar .null

/-- The scalar a value is or counts as. -/
def base : ContextValue → Scalar
  | scalar s => s
  | member m => m.base

@[simp] theorem base_scalar (s : Scalar) : (scalar s).base = s := rfl

@[simp] theorem base_text (s : String) : (text s).base = .text s := rfl

@[simp] theorem base_int (n : Int) : (int n).base = .int n := rfl

@[simp] theorem base_float (d : Double) : (float d).base = .float d := rfl

@[simp] theorem base_bool (b : Bool) : (bool b).base = .bool b := rfl

@[simp] theorem base_null : null.base = .null := rfl

@[simp] theorem base_member (m : Member) : (member m).base = m.base := rfl

end ContextValue

end Docwright
