import Docwright.Message.Scalar

/-!
# Severities and the threshold of a console

Problems and log events carry a `Severity`.  Severities are ordered by rank; a console shows what
reaches its threshold, and the verbosity of a build selects the threshold.

Both are enumerations, of numbers and of words, so that each of them is a `Member` too.
-/

namespace Docwright

/-- How grave a problem or a log event is, from the least to the most. -/
inductive Severity
  | debug
  | notice
  | info
  | warning
  | error
  | alert
  | critical
  | emergency
  deriving DecidableEq, Repr

namespace Severity

/-- All severities in ascending order. -/
def all : List Severity :=
  [debug, notice, info, warning, error, alert, critical, emergency]

/-- The rank of a severity, from zero. -/
def rank : Severity → Nat
  | debug => 0
  | notice => 1
  | info => 2
  | warning => 3
  | error => 4
  | alert => 5
  | critical => 6
  | emergency => 7

/-- The severity of a rank. -/
def ofRank? : Nat → Option Severity
  | 0 => some debug
  | 1 => some notice
  | 2 => some info
  | 3 => some warning
  | 4 => some error
  | 5 => some alert
  | 6 => some critical
  | 7 => some emergency
  | _ => none

/-- The severity a whole number stands for. -/
def ofInt? : Int → Option Severity
  | .ofNat n => ofRank? n
  | .negSucc _ => none

/-- The name of a severity. -/
def name : Severity → String
  | debug => "DEBUG"
  | notice => "NOTICE"
  | info => "INFO"
  | warning => "WARNING"
  | error => "ERROR"
  | alert => "ALERT"
  | critical => "CRITICAL"
  | emergency => "EMERGENCY"

/-- A severity as a number with a name. -/
def member (s : Severity) : Member :=
  .int s.rank (toString s.rank) ("<Severity." ++ s.name ++ ": " ++ toString s.rank ++ ">")

/-- Whether a severity is at least as grave as a threshold. -/
def reaches (severity threshold : Severity) : Bool :=
  threshold.rank ≤ severity.rank

/-- The graver of two severities. -/
def max (a b : Severity) : Severity :=
  if b.reaches a then b else a

/-- What a console shows unless it is told otherwise. -/
def defaultThreshold : Severity := error

@[simp] theorem ofRank?_rank (s : Severity) : ofRank? s.rank = some s := by
  cases s <;> rfl

theorem rank_of_ofRank? {n : Nat} {s : Severity} (h : ofRank? n = some s) : s.rank = n := by
  unfold ofRank? at h
  split at h <;> simp_all <;> subst h <;> rfl

@[simp] theorem reaches_iff {s t : Severity} : s.reaches t = true ↔ t.rank ≤ s.rank := by
  simp [reaches]

end Severity

/-- How much a build tells. -/
inductive Verbosity
  | normal
  | debug
  deriving DecidableEq, Repr

namespace Verbosity

/-- The word for a verbosity. -/
def name : Verbosity → String
  | normal => "normal"
  | debug => "debug"

/-- A verbosity as a word with a name. -/
def member (v : Verbosity) : Member :=
  let shown := "Verbosity." ++ String.ofList (v.name.toList.map Char.toUpper)
  .text v.name shown ("<" ++ shown ++ ": " ++ String.ofList (Text.quoted v.name.toList) ++ ">")

/-- All verbosities. -/
def all : List Verbosity := [normal, debug]

/-- The verbosity of a word. -/
def ofName? (word : String) : Option Verbosity :=
  all.find? (·.name == word)

/-- The words for a word that names no verbosity. -/
def unknownMessage (word : String) : String :=
  String.ofList (Text.quoted word.toList) ++ " is not a valid Verbosity"

/-- The threshold of a console under a verbosity. -/
def threshold : Verbosity → Severity
  | normal => Severity.defaultThreshold
  | debug => .debug

end Verbosity

end Docwright
