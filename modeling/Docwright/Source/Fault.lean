/-!
# What is wrong with a source text

`Cause` lists the reasons for which a text is not a program, as far as they are told apart, and
`Cause.message` is the one place where they are put into words.  A `Fault` adds the row it is
reported at; rows count from zero, the lines shown to a reader from one.
-/

namespace Docwright.Source

/-- Why a text is not a program. -/
inductive Cause
  -- the order of the tokens
  | invalid
  | forgottenComma
  | expected (what : String)
  | expectedHandler
  | expectedBlock
  | missingBody (owner : String) (line : Nat)
  | unexpectedIndent
  | unexpectedUnindent
  | forgottenElse
  | missingCall (name : String)
  | trailingComma
  | barePatternTarget
  | badPatternTarget
  | positionalPattern
  | unparenthesisedTypes
  | missingTypes
  | mixedHandlers
  | realRequired
  | imaginaryRequired
  -- targets
  | cannotAssign (what : String)
  | cannotAssignHere (what : String)
  | cannotDelete (what : String)
  | cannotAugment (what : String)
  | cannotName (what : String)
  | annotatedTuple (what : String)
  | badTyping
  | yieldTarget
  | meantComparison
  | assignmentInArgument
  -- calls and displays
  | positionalAfterKeyword
  | positionalAfterUnpacking
  | unpackingAfterUnpacking
  | bareGenerator
  | starredGroup
  | doubleStarredGroup
  | unpackingInComprehension
  | mappingInComprehension
  | bareComprehensionTarget
  | starredValue
  | missingColon
  | missingValue
  -- parameters
  | parameterOrder
  | groupedParameters
  | groupedLambdaParameters
  | loneSlash
  | repeatedSlash
  | slashAfterStar
  | slashBeforeStar
  | bareStar
  | starDefault
  | repeatedStar
  | doubleStarDefault
  | afterDoubleStar
  | missingDefault
  -- layout
  | mixedIndentation
  | unindentMismatch
  | tooManyLevels
  | badContinuation
  | unexpectedEnd
  -- brackets
  | neverClosed (opening : Char)
  | unmatched (closing : Char)
  | mismatched (closing opening : Char) (openingLine : Option Nat)
  | tooManyBrackets
  -- characters, numbers and quoted text
  | badCharacter (c : Char)
  | invisibleCharacter (c : Char)
  | badNumber (kind : String)
  | badDigit (digit : Char) (kind : String)
  | leadingZeros
  | tooManyDigits (count : Nat)
  | unterminated (lastLine : Nat)
  | unterminatedTriple (lastLine : Nat)
  | bytesNotAscii
  | mixedBytes
  | badEscape (first beyond : Nat) (reason : String)
  | badByteEscape (position : Nat)
  -- replacement fields of a template
  | inField (cause : Cause)
  | fieldEmpty
  | fieldUnclosed
  | fieldBackslash
  | fieldComment
  | fieldUnterminated
  | fieldUnmatched (c : Char)
  | fieldMismatched (closing opening : Char)
  | fieldTooManyBrackets
  | fieldConversion
  | fieldTooDeep
  | loneBrace
  -- the text as a whole
  | nullCharacter
  | nullInPath
  deriving Repr, DecidableEq

/-- A number in upper-case hexadecimal with at least four digits. -/
def codePoint (n : Nat) : String :=
  let digits := (Nat.toDigits 16 n).map Char.toUpper
  String.ofList (List.replicate (4 - digits.length) '0' ++ digits)

/-- Positions of the bytes from `first` up to but excluding `beyond`, in words. -/
def byteRange (first beyond : Nat) : String :=
  if beyond ≤ first + 1 then s!"byte 0x5c in position {first}"
  else s!"bytes in position {first}-{beyond - 1}"

namespace Cause

/-- The words for a cause. -/
def message : Cause → String
  | invalid => "invalid syntax"
  | forgottenComma => "invalid syntax. Perhaps you forgot a comma?"
  | expected what => s!"expected '{what}'"
  | expectedHandler => "expected 'except' or 'finally' block"
  | expectedBlock => "expected an indented block"
  | missingBody owner line => s!"expected an indented block after {owner} on line {line}"
  | unexpectedIndent => "unexpected indent"
  | unexpectedUnindent => "unexpected unindent"
  | forgottenElse => "expected 'else' after 'if' expression"
  | missingCall name =>
    s!"Missing parentheses in call to '{name}'. Did you mean {name}(...)?"
  | trailingComma => "trailing comma not allowed without surrounding parentheses"
  | barePatternTarget => "cannot use '_' as a target"
  | badPatternTarget => "invalid pattern target"
  | positionalPattern => "positional patterns follow keyword patterns"
  | unparenthesisedTypes => "multiple exception types must be parenthesized"
  | missingTypes => "expected one or more exception types"
  | mixedHandlers => "cannot have both 'except' and 'except*' on the same 'try'"
  | realRequired => "real number required in complex literal"
  | imaginaryRequired => "imaginary number required in complex literal"
  | cannotAssign what => s!"cannot assign to {what}"
  | cannotAssignHere what =>
    s!"cannot assign to {what} here. Maybe you meant '==' instead of '='?"
  | cannotDelete what => s!"cannot delete {what}"
  | cannotAugment what => s!"'{what}' is an illegal expression for augmented assignment"
  | cannotName what => s!"cannot use assignment expressions with {what}"
  | annotatedTuple what => s!"only single target (not {what}) can be annotated"
  | badTyping => "illegal target for annotation"
  | yieldTarget => "assignment to yield expression not possible"
  | meantComparison => "invalid syntax. Maybe you meant '==' or ':=' instead of '='?"
  | assignmentInArgument =>
    "expression cannot contain assignment, perhaps you meant \"==\"?"
  | positionalAfterKeyword => "positional argument follows keyword argument"
  | positionalAfterUnpacking => "positional argument follows keyword argument unpacking"
  | unpackingAfterUnpacking => "iterable argument unpacking follows keyword argument unpacking"
  | bareGenerator => "Generator expression must be parenthesized"
  | starredGroup => "cannot use starred expression here"
  | doubleStarredGroup => "cannot use double starred expression here"
  | unpackingInComprehension => "iterable unpacking cannot be used in comprehension"
  | mappingInComprehension => "dict unpacking cannot be used in dict comprehension"
  | bareComprehensionTarget =>
    "did you forget parentheses around the comprehension target?"
  | starredValue => "cannot use a starred expression in a dictionary value"
  | missingColon => "':' expected after dictionary key"
  | missingValue => "expression expected after dictionary key and ':'"
  | parameterOrder => "non-default argument follows default argument"
  | groupedParameters => "Function parameters cannot be parenthesized"
  | groupedLambdaParameters => "Lambda expression parameters cannot be parenthesized"
  | loneSlash => "at least one argument must precede /"
  | repeatedSlash => "/ may appear only once"
  | slashAfterStar => "/ must be ahead of *"
  | slashBeforeStar => "expected comma between / and *"
  | bareStar => "named arguments must follow bare *"
  | starDefault => "var-positional argument cannot have default value"
  | repeatedStar => "* argument may appear only once"
  | doubleStarDefault => "var-keyword argument cannot have default value"
  | afterDoubleStar => "arguments cannot follow var-keyword argument"
  | missingDefault => "expected default value expression"
  | mixedIndentation => "inconsistent use of tabs and spaces in indentation"
  | unindentMismatch => "unindent does not match any outer indentation level"
  | tooManyLevels => "too many levels of indentation"
  | badContinuation => "unexpected character after line continuation character"
  | unexpectedEnd => "unexpected EOF while parsing"
  | neverClosed opening => s!"'{opening}' was never closed"
  | unmatched closing => s!"unmatched '{closing}'"
  | mismatched closing opening none =>
    s!"closing parenthesis '{closing}' does not match opening parenthesis '{opening}'"
  | mismatched closing opening (some line) =>
    s!"closing parenthesis '{closing}' does not match opening parenthesis '{opening}' " ++
      s!"on line {line}"
  | tooManyBrackets => "too many nested parentheses"
  | badCharacter c => s!"invalid character '{c}' (U+{codePoint c.toNat})"
  | invisibleCharacter c => s!"invalid non-printable character U+{codePoint c.toNat}"
  | badNumber kind => s!"invalid {kind} literal"
  | badDigit digit kind => s!"invalid digit '{digit}' in {kind} literal"
  | leadingZeros =>
    "leading zeros in decimal integer literals are not permitted; " ++
      "use an 0o prefix for octal integers"
  | tooManyDigits count =>
    s!"Exceeds the limit (4300 digits) for integer string conversion: value has {count} digits; " ++
      "use sys.set_int_max_str_digits() to increase the limit - Consider hexadecimal for huge " ++
      "integer literals to avoid decimal conversion limits."
  | unterminated line => s!"unterminated string literal (detected at line {line})"
  | unterminatedTriple line =>
    s!"unterminated triple-quoted string literal (detected at line {line})"
  | bytesNotAscii => "bytes can only contain ASCII literal characters"
  | mixedBytes => "cannot mix bytes and nonbytes literals"
  | badEscape first beyond reason =>
    s!"(unicode error) 'unicodeescape' codec can't decode {byteRange first beyond}: {reason}"
  | badByteEscape position => s!"(value error) invalid \\x escape at position {position}"
  | inField cause => "f-string: " ++ cause.message
  | fieldEmpty => "f-string: empty expression not allowed"
  | fieldUnclosed => "f-string: expecting '\x7d'"
  | fieldBackslash => "f-string expression part cannot include a backslash"
  | fieldComment => "f-string expression part cannot include '#'"
  | fieldUnterminated => "f-string: unterminated string"
  | fieldUnmatched c => s!"f-string: unmatched '{c}'"
  | fieldMismatched closing opening =>
    s!"f-string: closing parenthesis '{closing}' does not match opening parenthesis '{opening}'"
  | fieldTooManyBrackets => "f-string: too many nested parenthesis"
  | fieldConversion => "f-string: invalid conversion character: expected 's', 'r', or 'a'"
  | fieldTooDeep => "f-string: expressions nested too deeply"
  | loneBrace => "f-string: single '\x7d' is not allowed"
  | nullCharacter => "source code string cannot contain null bytes"
  | nullInPath => "embedded null character"

/-- Whether a cause is reported with the place it was found at: a text or a path with a null
character is refused before any line is read. -/
def hasPlace : Cause → Bool
  | nullCharacter | nullInPath => false
  | _ => true

end Cause

/-- A cause and the row it is reported at. -/
structure Fault where
  cause : Cause
  row : Nat
  deriving Repr, DecidableEq

/-- The fault as it is shown for a file of the given name. -/
def Fault.describe (file : String) (fault : Fault) : String :=
  if fault.cause.hasPlace then s!"{fault.cause.message} ({file}, line {fault.row + 1})"
  else fault.cause.message

end Docwright.Source
