import Docwright.Source.Grammar.Expressions

/-!
# Patterns of a match statement

Of a pattern only its place matters.  A complex number is written as a real and an imaginary one,
and a number of the wrong kind on either side is a fault.
-/

namespace Docwright.Source.Grammar

open Docwright.Source.Symbol

/-- Whether a number is imaginary. -/
def isImaginary (t : Token) : Bool :=
  t.spelling.toList.getLast?.any fun c => c == 'j' || c == 'J'

/-- A number that must be imaginary, or must not be. -/
def numberOfKind (imaginary : Bool) (cause : Cause) : Alternative :=
  ⟨[aNumber], false, fun site values =>
    if (Node.tokensIn values).any (fun t => isImaginary t == imaginary) then
      .ok (some (.place site.row))
    else .error ⟨cause, site.row⟩⟩

/-- The alternatives for a constant. -/
def constants : List Alternative :=
  [plain [signedNumber, notAheadOf ["+", "-"]],
   plain [complexNumber],
   plain [strings],
   plain ["None"],
   plain ["True"],
   plain ["False"]]

/-- The rules for patterns; any other symbol is left to the expressions. -/
def patternRules : Symbol → Rule
  | patterns => oneOf [plain [openSequence], pass [pattern]]
  | pattern => oneOf [pass [asPattern], pass [orPattern]]
  | asPattern => oneOf [plain [orPattern, "as", captureTarget], mistake badAsPattern]
  | orPattern => oneOf [plain [.separated "|" closedPattern]]
  | closedPattern => kept [
      pass [literalPattern], pass [capturePattern], pass [wildcardPattern], pass [valuePattern],
      pass [groupPattern], pass [sequencePattern], pass [mappingPattern], pass [classPattern]]
  | literalPattern => oneOf constants
  | literalKey => oneOf constants
  | complexNumber => oneOf [
      plain [signedReal, "+", imaginaryNumber],
      plain [signedReal, "-", imaginaryNumber]]
  | signedNumber => oneOf [plain [aNumber], plain ["-", aNumber]]
  | signedReal => oneOf [plain [realNumber], plain ["-", realNumber]]
  | realNumber => oneOf [numberOfKind false .realRequired]
  | imaginaryNumber => oneOf [numberOfKind true .imaginaryRequired]
  | capturePattern => oneOf [plain [captureTarget]]
  | captureTarget => oneOf [
      plain [notAhead [Terminal.soft "_"], aName, notAheadOf [".", "(", "="]]]
  | wildcardPattern => oneOf [plain [Terminal.soft "_"]]
  | valuePattern => oneOf [plain [attributePath, notAheadOf [".", "(", "="]]]
  | attributePath => oneOf [plain [aName, many1 [".", aName]]]
  | namePath => oneOf [plain [aName, many [".", aName]]]
  | groupPattern => oneOf [plain ["(", pattern, ")"]]
  | sequencePattern => oneOf [
      plain ["[", opt [sequenceItems], "]"],
      plain ["(", opt [openSequence], ")"]]
  | openSequence => oneOf [plain [sequenceItem, ",", opt [sequenceItems]]]
  | sequenceItems => oneOf [plain [commas sequenceItem, opt [","]]]
  | sequenceItem => oneOf [pass [starPattern], pass [pattern]]
  | starPattern => kept [plain ["*", captureTarget], plain ["*", wildcardPattern]]
  | mappingPattern => oneOf [
      plain ["\x7b", "\x7d"],
      plain ["\x7b", doubleStarPattern, opt [","], "\x7d"],
      plain ["\x7b", mappingItems, ",", doubleStarPattern, opt [","], "\x7d"],
      plain ["\x7b", mappingItems, opt [","], "\x7d"]]
  | mappingItems => oneOf [plain [commas mappingItem]]
  | mappingItem => oneOf [plain [any [[literalKey], [attributePath]], ":", pattern]]
  | doubleStarPattern => oneOf [plain ["**", captureTarget]]
  | classPattern => oneOf [
      plain [namePath, "(", ")"],
      plain [namePath, "(", positionalPatterns, opt [","], ")"],
      plain [namePath, "(", keywordPatterns, opt [","], ")"],
      plain [namePath, "(", positionalPatterns, ",", keywordPatterns, opt [","], ")"],
      mistake badClassPattern]
  | positionalPatterns => oneOf [plain [commas pattern]]
  | keywordPatterns => oneOf [plain [commas keywordPattern]]
  | keywordPattern => oneOf [plain [aName, "=", pattern]]
  | symbol => expressionRules symbol

end Docwright.Source.Grammar
