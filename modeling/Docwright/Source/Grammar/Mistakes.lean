import Docwright.Source.Grammar.Alternative

/-!
# Mistakes

What resembles a program closely enough for its fault to be named.  These rules match nothing: they
report a fault or fail.
-/

namespace Docwright.Source.Grammar

open Docwright.Source.Symbol

/-- The names of statements that have become functions. -/
def formerStatements : List String := ["print", "exec"]

/-- The name an expression is, if it was a statement once. -/
def formerStatement? : Expr → Option String
  | .name _ id => if formerStatements.contains id then some id else none
  | _ => none

/-- Expressions that were tokens of a name. -/
def asExpr : Node → Option Expr
  | .token t => some (.name t.row (Node.nameOf t))
  | node => node.exprs.head?

/-- Positional arguments after keywords: the message depends on whether a mapping was unpacked. -/
def positionalFault : Node → Cause
  | .args _ _ true => .positionalAfterUnpacking
  | _ => .positionalAfterKeyword

/-- A generator without brackets beside other arguments is reported at the last of them. -/
def bareGeneratorFault? : Node → Option Fault
  | .args _ positional _ =>
    if positional.length ≤ 1 then none
    else positional.getLast?.map fun e => ⟨.bareGenerator, e.row⟩
  | _ => none

/-- Mistakes in parameter lists, for functions and for lambda expressions: `finish` closes the list,
and the other symbols are those of the one kind or the other. -/
def parameterMistakes (plainOne anyOne slashPlainOne slashDefaultOne head : Symbol)
    (grouped : Alternative) : List Alternative :=
  [refuseAt 2 [many [plainOne], head, plainOne] .parameterOrder,
   grouped,
   refuseAt 0 ["/", ","] .loneSlash,
   refuseAt 2 [any [[slashPlainOne], [slashDefaultOne]], many [anyOne], "/"] .repeatedSlash,
   refuseAt 5 [opt [any [[slashPlainOne], [slashDefaultOne]]], many [anyOne], "*",
     any [[","], [plainOne]], many [anyOne], "/"] .slashAfterStar,
   refuseAt 2 [many1 [anyOne], "/", "*"] .slashBeforeStar]

/-- Mistakes behind a star among parameters. -/
def starMistakes (plainOne anyOne one : Symbol) : List Alternative :=
  [refuseAt 2 ["*", one, "="] .starDefault,
   refuseAt 3 ["*", any [[plainOne], [","]], many [anyOne], "*", any [[plainOne], [","]]]
     .repeatedStar]

/-- Mistakes behind two stars among parameters. -/
def doubleStarMistakes (one : Symbol) : List Alternative :=
  [refuseAt 2 ["**", one, "="] .doubleStarDefault,
   refuseAt 3 ["**", one, ",", one] .afterDoubleStar,
   refuseAt 3 ["**", one, ",", any [["*"], ["**"], ["/"]]] .afterDoubleStar]

/-- The rules for mistakes. -/
def mistakeRules : Symbol → Rule
  | badArguments => oneOf [
      refuseAt 0 [args, ",", "*"] .unpackingAfterUnpacking,
      refuseAt 0 [expression, forIfClauses, ",", opt [any [[args], [expression, forIfClauses]]]]
        .bareGenerator,
      refuseAt 0 [aName, "=", expression, forIfClauses] .meantComparison,
      refuseIf [args, forIfClauses] fun _ values => bareGeneratorFault? (values.headD .absent),
      refuseAt 2 [args, ",", expression, forIfClauses] .bareGenerator,
      refuseIf [args, ",", args] fun site values =>
        some ⟨positionalFault (values.headD .absent), site.lastRow⟩]
  | badKeyword => oneOf [
      refuseIf [any [["True"], ["False"], ["None"]], "="] fun site values =>
        let word := ((Node.tokensIn values).head?.map Token.spelling).getD ""
        some ⟨.cannotAssign word, rowOf 0 site values⟩,
      refuseAt 0 [aName, "=", expression, forIfClauses] .meantComparison,
      refuseAt 0 [notAhead [aName, "="], expression, "="] .assignmentInArgument]
  | quietExpression => quietly [
      form .conditional [disjunction, "if", disjunction, "else", expression],
      pass [disjunction],
      pass [lambdaExpr]]
  | badLegacyExpression => oneOf [
      refuseIf [aName, notAhead ["("], starExpressions] fun _ values =>
        ((asExpr (values.headD .absent)).bind fun e =>
          (formerStatement? e).map fun name => ⟨.missingCall name, e.row⟩)]
  | badExpression => oneOf [
      refuseIf [.notAhead [[aName, aText], [Terminal.anySoft]], disjunction, quietExpression]
        fun site values =>
          (exprOf 0 values).bind fun e =>
            if (formerStatement? e).isSome ∨ site.depth = 0 then none
            else some ⟨.forgottenComma, e.row⟩,
      refuseAt 0 [disjunction, "if", disjunction, notAheadOf ["else", ":"]] .forgottenElse]
  | badNamedExpression => kept [
      refuseExpr 0 [expression, ":=", expression] .cannotName,
      refuseAt 0 [aName, "=", bitwiseOr, notAheadOf ["=", ":="]] .meantComparison,
      refuseExpr 0 [notAheadOf [listDisplay, tupleDisplay, generator, "True", "None", "False"],
        bitwiseOr, "=", bitwiseOr, notAheadOf ["=", ":="]] .cannotAssignHere]
  | badAssignment => oneOf [
      refuseExpr 0 [badAnnotatedTarget, ":", expression] .annotatedTuple,
      refuseAt 0 [starNamedExpression, ",", many [starNamedExpressions], ":", expression]
        (.annotatedTuple "tuple"),
      refuseAt 0 [expression, ":", expression] .badTyping,
      refuseTarget .assignment 1 [many [starTargets, "="], starExpressions, "="],
      refuseAt 1 [many [starTargets, "="], yieldExpr, "="] .yieldTarget,
      refuseExpr 0 [starExpressions, augmenting, any [[yieldExpr], [starExpressions]]]
        .cannotAugment]
  | badAnnotatedTarget => oneOf [
      pass [listDisplay], pass [tupleDisplay], nth 1 ["(", badAnnotatedTarget, ")"]]
  | badDelStmt => oneOf [refuseTarget .deletion 1 ["del", starExpressions]]
  | badBlock => oneOf [refuse [newline, notAhead [indent]] .expectedBlock]
  | badComprehension => oneOf [
      refuseAt 1 [any [["["], ["("], ["\x7b"]], starredExpression, forIfClauses]
        .unpackingInComprehension,
      refuseAt 1 [any [["["], ["\x7b"]], starNamedExpression, ",", starNamedExpressions,
        forIfClauses] .bareComprehensionTarget,
      refuseAt 1 [any [["["], ["\x7b"]], starNamedExpression, ",", forIfClauses]
        .bareComprehensionTarget]
  | badDictComprehension => oneOf [
      refuseAt 1 ["\x7b", "**", bitwiseOr, forIfClauses, "\x7d"] .mappingInComprehension]
  | badParameters => oneOf
      (parameterMistakes plainParam anyParam slashPlain slashDefault badParametersHead
        (refuseAt 1 [many [plainParam], "(", many1 [plainParam], opt [","], ")"]
          .groupedParameters))
  | badParametersHead => oneOf [pass [slashDefault], plain [many1 [defaultParam]]]
  | badStarParams => oneOf
      (refuseAt 0 ["*", any [[")"], [",", any [[")"], ["**"]]]]] .bareStar ::
        starMistakes plainParam anyParam param)
  | badDoubleStarParam => oneOf (doubleStarMistakes param)
  | badDefault => oneOf [refuseAt 0 ["=", aheadOf [")", ","]] .missingDefault]
  | badLambdaParameters => oneOf
      (parameterMistakes lambdaPlainParam lambdaAnyParam lambdaSlashPlain lambdaSlashDefault
        badLambdaParametersHead
        (refuseAt 1 [many [lambdaPlainParam], "(", commas lambdaParam, opt [","], ")"]
          .groupedLambdaParameters))
  | badLambdaParametersHead => oneOf [
      pass [lambdaSlashDefault], plain [many1 [lambdaDefaultParam]]]
  | badLambdaStarParams => oneOf
      (refuse ["*", any [[":"], [",", any [[":"], ["**"]]]]] .bareStar ::
        starMistakes lambdaPlainParam lambdaAnyParam lambdaParam)
  | badLambdaDoubleStarParam => oneOf (doubleStarMistakes lambdaParam)
  | badWithItem => oneOf [
      refuseTarget .assignment 2 [expression, "as", expression, aheadOf [",", ")", ":"]]]
  | badForTarget => oneOf [
      refuseTarget .loop 2 [opt ["async"], "for", starExpressions]]
  | badGroup => oneOf [
      refuseAt 1 ["(", starredExpression, ")"] .starredGroup,
      refuseAt 1 ["(", "**", expression, ")"] .doubleStarredGroup]
  | badImportTargets => oneOf [refuse [importAsNames, ",", newline] .trailingComma]
  | badWithStmt => oneOf [
      refuse [opt ["async"], "with", commas (any [[expression, opt ["as", starTarget]]]), newline]
        (.expected ":"),
      refuse [opt ["async"], "with", "(", commas (any [[expressions, opt ["as", starTarget]]]),
        opt [","], ")", newline] (.expected ":")]
  | badWithBody => oneOf [
      refuseBody 1 [opt ["async"], "with", commas (any [[expression, opt ["as", starTarget]]]), ":",
        newline, notAhead [indent]] "'with' statement",
      refuseBody 1 [opt ["async"], "with", "(",
        commas (any [[expressions, opt ["as", starTarget]]]), opt [","], ")", ":", newline,
        notAhead [indent]] "'with' statement"]
  | badTryStmt => oneOf [
      refuseBody 0 ["try", ":", newline, notAhead [indent]] "'try' statement",
      refuse ["try", ":", block, notAheadOf ["except", "finally"]] .expectedHandler,
      refuse ["try", ":", many [block],
        any [[many1 [exceptBlock], exceptStarBlock], [many1 [exceptStarBlock], exceptBlock]],
        many [block]] .mixedHandlers]
  | badExceptStmt => oneOf [
      refuseAt 2 ["except", opt ["*"], expression, ",", expressions, opt ["as", aName], ":"]
        .unparenthesisedTypes,
      refuse ["except", opt ["*"], expression, opt ["as", aName], newline] (.expected ":"),
      refuse ["except", newline] (.expected ":"),
      refuse ["except", "*", any [[newline], [":"]]] .missingTypes]
  | badFinallyStmt => oneOf [
      refuseBody 0 ["finally", ":", newline, notAhead [indent]] "'finally' statement"]
  | badExceptBody => oneOf [
      refuseBody 0 ["except", expression, opt ["as", aName], ":", newline, notAhead [indent]]
        "'except' statement",
      refuseBody 0 ["except", ":", newline, notAhead [indent]] "'except' statement"]
  | badExceptStarBody => oneOf [
      refuseBody 0 ["except", "*", expression, opt ["as", aName], ":", newline, notAhead [indent]]
        "'except*' statement"]
  | badMatchStmt => oneOf [
      refuse [Terminal.soft "match", subject, newline] (.expected ":"),
      refuseBody 0 [Terminal.soft "match", subject, ":", newline, notAhead [indent]]
        "'match' statement"]
  | badCaseBlock => oneOf [
      refuse [Terminal.soft "case", patterns, opt [caseGuard], newline] (.expected ":"),
      refuseBody 0 [Terminal.soft "case", patterns, opt [caseGuard], ":", newline,
        notAhead [indent]] "'case' statement"]
  | badAsPattern => oneOf [
      refuseAt 2 [orPattern, "as", Terminal.soft "_"] .barePatternTarget,
      refuseAt 2 [orPattern, "as", notAhead [aName], expression] .badPatternTarget]
  | badClassPattern => oneOf [
      refuseAt 2 [namePath, "(", badClassArguments] .positionalPattern]
  | badClassArguments => oneOf [
      nth 3 [opt [positionalPatterns, ","], keywordPatterns, ",", positionalPatterns]]
  | badIfStmt => oneOf [
      refuse ["if", namedExpression, newline] (.expected ":"),
      refuseBody 0 ["if", namedExpression, ":", newline, notAhead [indent]] "'if' statement"]
  | badElifStmt => oneOf [
      refuse ["elif", namedExpression, newline] (.expected ":"),
      refuseBody 0 ["elif", namedExpression, ":", newline, notAhead [indent]]
        "'elif' statement"]
  | badElseBlock => oneOf [
      refuseBody 0 ["else", ":", newline, notAhead [indent]] "'else' statement"]
  | badWhileStmt => oneOf [
      refuse ["while", namedExpression, newline] (.expected ":"),
      refuseBody 0 ["while", namedExpression, ":", newline, notAhead [indent]]
        "'while' statement"]
  | badForStmt => oneOf [
      refuse [opt ["async"], "for", starTargets, "in", starExpressions, newline] (.expected ":"),
      refuseBody 1 [opt ["async"], "for", starTargets, "in", starExpressions, ":", newline,
        notAhead [indent]] "'for' statement"]
  | badFunctionDef => oneOf [
      refuseBody 1 [opt ["async"], "def", aName, "(", opt [params], ")", opt ["->", expression],
        ":", newline, notAhead [indent]] "function definition"]
  | badClassDef => oneOf [
      refuse ["class", aName, opt ["(", opt [arguments], ")"], newline] (.expected ":"),
      refuseBody 0 ["class", aName, opt ["(", opt [arguments], ")"], ":", newline,
        notAhead [indent]] "class definition"]
  | badPairs => oneOf [
      plain [commas pair, ",", badKeyValue],
      refuseAt 2 [expression, ":", "*", bitwiseOr] .starredValue,
      refuseAt 1 [expression, ":", aheadOf ["\x7d", ","]] .missingValue]
  | badKeyValue => oneOf [
      refuseAt 0 [expression, notAhead [":"]] .missingColon,
      refuseAt 2 [expression, ":", "*", bitwiseOr] .starredValue,
      refuseAt 1 [expression, ":", aheadOf ["\x7d", ","]] .missingValue]
  | _ => oneOf []

end Docwright.Source.Grammar
