import Docwright.Source.Grammar.Targets

/-!
# Expressions

The operators from the weakest to the strongest, then displays, comprehensions, calls and the
parameters of lambda expressions.
-/

namespace Docwright.Source.Grammar

open Docwright.Source.Symbol

/-- A comparison with its left side; its first operator asks for membership if the first pair kept
that operator. -/
def comparisonOf (row : Nat) (values : List Node) : Node :=
  let left := (exprOf 0 values).getD (.form row .literal)
  let membership := match values.getD 1 .absent with
    | .many (.token _ :: _) => true
    | _ => false
  .expr (.comparison row left membership)

/-- The arguments of a call: the positional ones in order, the starred ones among keywords included,
and whether a mapping is unpacked. -/
def argsOf (row : Nat) (values : List Node) : Node :=
  let later := values.flatMap fun
    | .args _ positional _ => positional
    | .many (_ :: .args _ positional _ :: _) => positional
    | _ => []
  let unpacking := values.any fun
    | .args _ _ unpacking => unpacking
    | .many (_ :: .args _ _ unpacking :: _) => unpacking
    | _ => false
  .args row (Node.exprsIn values ++ later) unpacking

/-- The arguments from the first keyword on. -/
def keywordArgsOf (row : Nat) (values : List Node) : Node :=
  .args row (Node.exprsIn values) ((Node.tokensIn values).any (·.spelling == "**"))

/-- Adjacent texts have one value. -/
def textOf (site : Site) (values : List Node) : Except Fault (Option Node) :=
  match site.literal (Node.tokensIn values) with
  | .error fault => .error ⟨fault.cause, fault.row.getD site.lastRow⟩
  | .ok (.text value) => .ok (some (.expr (.text site.row (String.ofList value))))
  | .ok .bytes => .ok (some (.expr (.form site.row .literal)))
  | .ok .template => .ok (some (.expr (.form site.row .template)))

/-- The rules for expressions; any other symbol is left to the targets. -/
def expressionRules : Symbol → Rule
  | expressions => oneOf [
      tuple [expression, many1 [",", expression], opt [","]],
      tuple [expression, ","],
      pass [expression]]
  | expression => kept [
      mistake badExpression,
      mistake badLegacyExpression,
      form .conditional [disjunction, "if", disjunction, "else", expression],
      pass [disjunction],
      pass [lambdaExpr]]
  | yieldExpr => oneOf [
      form .yielding ["yield", "from", expression],
      form .yielding ["yield", opt [starExpressions]]]
  | starExpressions => oneOf [
      tuple [starExpression, many1 [",", starExpression], opt [","]],
      tuple [starExpression, ","],
      pass [starExpression]]
  | starExpression => kept [starred ["*", bitwiseOr], pass [expression]]
  | starNamedExpressions => oneOf [pass [commas starNamedExpression, opt [","]]]
  | starNamedExpression => oneOf [starred ["*", bitwiseOr], pass [namedExpression]]
  | assignmentExpression => oneOf [form .naming [aName, ":=", .commit, expression]]
  | namedExpression => oneOf [
      pass [assignmentExpression],
      mistake badNamedExpression,
      pass [expression, notAhead [":="]]]
  | disjunction => kept [
      form .operation [conjunction, many1 ["or", conjunction]],
      pass [conjunction]]
  | conjunction => kept [
      form .operation [inversion, many1 ["and", inversion]],
      pass [inversion]]
  | inversion => kept [form .operation ["not", inversion], pass [comparison]]
  | comparison => oneOf [
      alt [bitwiseOr, many1 [comparePair]] comparisonOf,
      pass [bitwiseOr]]
  | comparePair => oneOf [
      plain ["==", bitwiseOr],
      plain ["!=", bitwiseOr],
      plain ["<=", bitwiseOr],
      plain ["<", bitwiseOr],
      plain [">=", bitwiseOr],
      plain [">", bitwiseOr],
      plain ["not", "in", bitwiseOr],
      pass ["in", bitwiseOr],
      plain ["is", "not", bitwiseOr],
      plain ["is", bitwiseOr]]
  | bitwiseOr => growing [pass [bitwiseXor]] [form .operation ["|", bitwiseXor]]
  | bitwiseXor => growing [pass [bitwiseAnd]] [form .operation ["^", bitwiseAnd]]
  | bitwiseAnd => growing [pass [shiftExpr]] [form .operation ["&", shiftExpr]]
  | shiftExpr => growing [pass [sumExpr]]
      [form .operation ["<<", sumExpr], form .operation [">>", sumExpr]]
  | sumExpr => growing [pass [term]]
      [form .operation ["+", term], form .operation ["-", term]]
  | term => growing [pass [factor]]
      [form .operation ["*", factor], form .operation ["/", factor],
       form .operation ["//", factor], form .operation ["%", factor],
       form .operation ["@", factor]]
  | factor => kept [
      form .operation ["+", factor],
      form .operation ["-", factor],
      form .operation ["~", factor],
      pass [power]]
  | power => oneOf [form .operation [awaitPrimary, "**", factor], pass [awaitPrimary]]
  | awaitPrimary => kept [form .awaiting ["await", primary], pass [primary]]
  | primary => growing [pass [atom]]
      [form .member [".", aName],
       form .call [generator],
       form .call ["(", opt [arguments], ")"],
       form .subscript ["[", slices, "]"]]
  | slices => oneOf [
      plain [sliceExpr, notAhead [","]],
      plain [commas (any [[sliceExpr], [starredExpression]]), opt [","]]]
  | sliceExpr => oneOf [
      plain [opt [expression], ":", opt [expression], opt [":", opt [expression]]],
      pass [namedExpression]]
  | atom => oneOf [
      alt [aName] (fun row values => .expr (.name row (Node.nameIn values))),
      form .true ["True"],
      form .false ["False"],
      form .none ["None"],
      pass [ahead [aText], strings],
      form .literal [aNumber],
      pass [ahead ["("], any [[tupleDisplay], [group], [generator]]],
      pass [ahead ["["], any [[listDisplay], [listComp]]],
      pass [ahead ["\x7b"], any [[dictDisplay], [setDisplay], [dictComp], [setComp]]],
      form .ellipsis ["..."]]
  | group => oneOf [
      nth 1 ["(", any [[yieldExpr], [namedExpression]], ")"],
      mistake badGroup]
  | strings => kept [⟨[many1 [aText]], false, textOf⟩]
  | listDisplay => oneOf [
      alt ["[", opt [starNamedExpressions], "]"]
        (fun row values => .expr (.list row (Node.exprsIn values)))]
  | tupleDisplay => oneOf [
      tuple ["(", opt [starNamedExpression, ",", opt [starNamedExpressions]], ")"]]
  | setDisplay => oneOf [form .set ["\x7b", starNamedExpressions, "\x7d"]]
  | dictDisplay => oneOf [
      form .dict ["\x7b", opt [pairs], "\x7d"],
      form .dict ["\x7b", badPairs, "\x7d"]]
  | pairs => oneOf [plain [commas pair, opt [","]]]
  | pair => oneOf [plain ["**", bitwiseOr], pass [keyValue]]
  | keyValue => oneOf [plain [expression, ":", expression]]
  | forIfClauses => oneOf [plain [many1 [forIfClause]]]
  | forIfClause => oneOf [
      plain ["async", "for", starTargets, "in", .commit, disjunction, many ["if", disjunction]],
      plain ["for", starTargets, "in", .commit, disjunction, many ["if", disjunction]],
      mistake badForTarget]
  | listComp => oneOf [
      form .listComprehension ["[", namedExpression, forIfClauses, "]"],
      mistake badComprehension]
  | setComp => oneOf [
      form .setComprehension ["\x7b", namedExpression, forIfClauses, "\x7d"],
      mistake badComprehension]
  | generator => oneOf [
      form .generator ["(", any [[assignmentExpression], [expression, notAhead [":="]]],
        forIfClauses, ")"],
      mistake badComprehension]
  | dictComp => oneOf [
      form .dictComprehension ["\x7b", keyValue, forIfClauses, "\x7d"],
      mistake badDictComprehension]
  | arguments => kept [
      pass [args, opt [","], ahead [")"]],
      mistake badArguments]
  | args => oneOf [
      alt [commas (any [[starredExpression],
        [any [[assignmentExpression], [expression, notAhead [":="]]], notAhead ["="]]]),
        opt [",", keywordArgs]] argsOf,
      alt [keywordArgs] argsOf]
  | keywordArgs => oneOf [
      alt [commas keywordOrStarred, ",", commas keywordOrDoubleStarred] keywordArgsOf,
      alt [commas keywordOrStarred] keywordArgsOf,
      alt [commas keywordOrDoubleStarred] keywordArgsOf]
  | starredExpression => oneOf [starred ["*", expression]]
  | keywordOrStarred => oneOf [
      mistake badKeyword,
      plain [aName, "=", expression],
      pass [starredExpression]]
  | keywordOrDoubleStarred => oneOf [
      mistake badKeyword,
      plain [aName, "=", expression],
      pass ["**", expression]]
  | lambdaExpr => oneOf [form .lambda ["lambda", opt [lambdaParams], ":", expression]]
  | lambdaParams => oneOf [mistake badLambdaParameters, pass [lambdaParameters]]
  | lambdaParameters => oneOf [
      plain [lambdaSlashPlain, many [lambdaPlainParam], many [lambdaDefaultParam],
        opt [lambdaStarParams]],
      plain [lambdaSlashDefault, many [lambdaDefaultParam], opt [lambdaStarParams]],
      plain [many1 [lambdaPlainParam], many [lambdaDefaultParam], opt [lambdaStarParams]],
      plain [many1 [lambdaDefaultParam], opt [lambdaStarParams]],
      plain [lambdaStarParams]]
  | lambdaSlashPlain => oneOf [
      plain [many1 [lambdaPlainParam], "/", ","],
      plain [many1 [lambdaPlainParam], "/", ahead [":"]]]
  | lambdaSlashDefault => oneOf [
      plain [many [lambdaPlainParam], many1 [lambdaDefaultParam], "/", ","],
      plain [many [lambdaPlainParam], many1 [lambdaDefaultParam], "/", ahead [":"]]]
  | lambdaStarParams => oneOf [
      mistake badLambdaStarParams,
      plain ["*", lambdaPlainParam, many [lambdaAnyParam], opt [lambdaDoubleStarParam]],
      plain ["*", ",", many1 [lambdaAnyParam], opt [lambdaDoubleStarParam]],
      plain [lambdaDoubleStarParam]]
  | lambdaDoubleStarParam => oneOf [
      mistake badLambdaDoubleStarParam,
      plain ["**", lambdaPlainParam]]
  | lambdaPlainParam => oneOf [
      plain [lambdaParam, ","],
      plain [lambdaParam, ahead [":"]]]
  | lambdaDefaultParam => oneOf [
      plain [lambdaParam, paramDefault, ","],
      plain [lambdaParam, paramDefault, ahead [":"]]]
  | lambdaAnyParam => oneOf [
      plain [lambdaParam, opt [paramDefault], ","],
      plain [lambdaParam, opt [paramDefault], ahead [":"]]]
  | lambdaParam => oneOf [plain [aName]]
  | paramDefault => oneOf [plain ["=", expression], mistake badDefault]
  | symbol => targetRules symbol

end Docwright.Source.Grammar
