import Docwright.Source.Grammar.Mistakes

/-!
# Targets

What may stand on the left of an assignment, behind `for` and behind `del`.
-/

namespace Docwright.Source.Grammar

open Docwright.Source.Symbol

/-- The rules for targets; any other symbol is left to the mistakes. -/
def targetRules : Symbol → Rule
  | starTargets => oneOf [
      plain [starTarget, notAhead [","]],
      plain [starTarget, many [",", starTarget], opt [","]]]
  | listTargets => oneOf [plain [commas starTarget, opt [","]]]
  | tupleTargets => oneOf [
      plain [starTarget, many1 [",", starTarget], opt [","]],
      plain [starTarget, ","]]
  | starTarget => kept [
      plain ["*", notAhead ["*"], starTarget],
      pass [targetWithStarAtom]]
  | targetWithStarAtom => kept [
      plain [targetPrimary, ".", aName, notAhead [targetAhead]],
      plain [targetPrimary, "[", slices, "]", notAhead [targetAhead]],
      pass [starAtom]]
  | starAtom => oneOf [
      plain [aName],
      plain ["(", targetWithStarAtom, ")"],
      plain ["(", opt [tupleTargets], ")"],
      plain ["[", opt [listTargets], "]"]]
  | singleTarget => oneOf [
      pass [accessTarget],
      plain [aName],
      plain ["(", singleTarget, ")"]]
  | accessTarget => oneOf [
      plain [targetPrimary, ".", aName, notAhead [targetAhead]],
      plain [targetPrimary, "[", slices, "]", notAhead [targetAhead]]]
  | targetPrimary => growing
      [plain [atom, ahead [targetAhead]]]
      [plain [".", aName, ahead [targetAhead]],
       plain ["[", slices, "]", ahead [targetAhead]],
       plain [generator, ahead [targetAhead]],
       plain ["(", opt [arguments], ")", ahead [targetAhead]]]
  | targetAhead => oneOf [plain ["("], plain ["["], plain ["."]]
  | delTargets => oneOf [plain [commas delTarget, opt [","]]]
  | delTarget => kept [
      plain [targetPrimary, ".", aName, notAhead [targetAhead]],
      plain [targetPrimary, "[", slices, "]", notAhead [targetAhead]],
      pass [delAtom]]
  | delAtom => oneOf [
      plain [aName],
      plain ["(", delTarget, ")"],
      plain ["(", opt [delTargets], ")"],
      plain ["[", opt [delTargets], "]"]]
  | symbol => mistakeRules symbol

end Docwright.Source.Grammar
