import Docwright.Source.Grammar.Patterns

/-!
# Statements

Statements of one line, statements with bodies, and the parameters of a function.  `grammar` is the
whole grammar.
-/

namespace Docwright.Source.Grammar

open Docwright.Source.Symbol

/-- An expression statement: a single text constant is kept. -/
def expressionStatement (_ : Nat) : List Node → Node
  | [.expr (.text _ value)] => .stmts [.text value]
  | _ => .stmts [.simple]

/-- A class with the statements of its body. -/
def classOf (row : Nat) (values : List Node) : Node :=
  .stmts [.classDef row (Node.nameIn values) (Node.statementsIn values)]

/-- A function with its parameters and the statements of its body. -/
def functionOf (row : Nat) (values : List Node) : Node :=
  .stmts [.functionDef row (Node.nameIn values) (Node.paramsIn values) (Node.statementsIn values)]

/-- Parameters, of which those of the first part are positional only. -/
def slashParams (_ : Nat) : List Node → Node
  | first :: rest =>
    .params { Node.paramsIn rest with
      positionalOnly := first.paramNames, positional := Node.paramNamesIn rest }
  | [] => .params {}

/-- Parameters without a slash. -/
def plainParams (_ : Nat) (values : List Node) : Node :=
  .params { Node.paramsIn values with positional := Node.paramNamesIn values }

/-- Parameters behind a star: the name the star belongs to, then those passed by keyword. -/
def variadicParams (_ : Nat) : List Node → Node
  | _ :: star :: rest =>
    .params { Node.paramsIn rest with
      variadic := star.paramNames.head?, keywordOnly := Node.paramNamesIn rest }
  | _ => .params {}

/-- Parameters behind a bare star. -/
def keywordParams (_ : Nat) (values : List Node) : Node :=
  .params { Node.paramsIn values with keywordOnly := Node.paramNamesIn values }

/-- The parameter behind two stars. -/
def doubleStarOf (_ : Nat) (values : List Node) : Node :=
  .params { keywordVariadic := (Node.paramNamesIn values).head? }

/-- A parameter. -/
def paramOf (row : Nat) (values : List Node) : Node :=
  .param row (Node.nameIn values)

/-- The whole grammar. -/
def grammar : Grammar
  | file => oneOf [body [opt [statements], Terminal.finish]]
  | field => oneOf [pass [starExpressions]]
  | statements => oneOf [body [many1 [statement]]]
  | statement => oneOf [pass [compoundStmt], pass [simpleStmts]]
  | simpleStmts => oneOf [
      body [simpleStmt, notAhead [";"], newline],
      body [.separated ";" simpleStmt, opt [";"], newline]]
  | simpleStmt => kept [
      simple [assignment],
      alt [starExpressions] expressionStatement,
      simple [ahead ["return"], returnStmt],
      simple [aheadOf ["import", "from"], importStmt],
      simple [ahead ["raise"], raiseStmt],
      simple ["pass"],
      simple [ahead ["del"], delStmt],
      simple [ahead ["yield"], yieldStmt],
      simple [ahead ["assert"], assertStmt],
      simple ["break"],
      simple ["continue"],
      simple [ahead ["global"], globalStmt],
      simple [ahead ["nonlocal"], nonlocalStmt]]
  | assignment => oneOf [
      plain [aName, ":", expression, opt ["=", annotatedValue]],
      plain [any [["(", singleTarget, ")"], [accessTarget]], ":", expression,
        opt ["=", annotatedValue]],
      plain [many1 [starTargets, "="], any [[yieldExpr], [starExpressions]], notAhead ["="]],
      plain [singleTarget, augmenting, .commit, any [[yieldExpr], [starExpressions]]],
      mistake badAssignment]
  | annotatedValue => oneOf [plain [yieldExpr], plain [starExpressions]]
  | augmenting => oneOf [
      plain ["+="], plain ["-="], plain ["*="], plain ["@="], plain ["/="], plain ["%="],
      plain ["&="], plain ["|="], plain ["^="], plain ["<<="], plain [">>="], plain ["**="],
      plain ["//="]]
  | returnStmt => oneOf [plain ["return", opt [starExpressions]]]
  | raiseStmt => oneOf [
      plain ["raise", expression, opt ["from", expression]],
      plain ["raise"]]
  | globalStmt => oneOf [plain ["global", commas aName]]
  | nonlocalStmt => oneOf [plain ["nonlocal", commas aName]]
  | delStmt => oneOf [
      plain ["del", delTargets, .ahead [[";"], [newline]]],
      mistake badDelStmt]
  | yieldStmt => oneOf [plain [yieldExpr]]
  | assertStmt => oneOf [plain ["assert", expression, opt [",", expression]]]
  | importStmt => oneOf [plain [importName], plain [importFrom]]
  | importName => oneOf [plain ["import", dottedAsNames]]
  | importFrom => oneOf [
      plain ["from", many [any [["."], ["..."]]], dottedName, "import", importTargets],
      plain ["from", many1 [any [["."], ["..."]]], "import", importTargets]]
  | importTargets => oneOf [
      plain ["(", importAsNames, opt [","], ")"],
      plain [importAsNames, notAhead [","]],
      plain ["*"],
      mistake badImportTargets]
  | importAsNames => oneOf [plain [commas importAsName]]
  | importAsName => oneOf [plain [aName, opt ["as", aName]]]
  | dottedAsNames => oneOf [plain [commas dottedAsName]]
  | dottedAsName => oneOf [plain [dottedName, opt ["as", aName]]]
  | dottedName => growing [plain [aName]] [plain [".", aName]]
  | compoundStmt => oneOf [
      pass [aheadOf ["def", "@", "async"], functionDef],
      pass [ahead ["if"], ifStmt],
      pass [aheadOf ["class", "@"], classDef],
      pass [aheadOf ["with", "async"], withStmt],
      pass [aheadOf ["for", "async"], forStmt],
      pass [ahead ["try"], tryStmt],
      pass [ahead ["while"], whileStmt],
      pass [matchStmt]]
  | block => kept [
      body [newline, indent, statements, dedent],
      pass [simpleStmts],
      mistake badBlock]
  | decorators => oneOf [plain [many1 ["@", namedExpression, newline]]]
  | classDef => oneOf [nth 1 [decorators, bareClassDef], pass [bareClassDef]]
  | bareClassDef => oneOf [
      mistake badClassDef,
      alt ["class", aName, opt ["(", opt [arguments], ")"], ":", block] classOf]
  | functionDef => oneOf [nth 1 [decorators, bareFunctionDef], pass [bareFunctionDef]]
  | bareFunctionDef => oneOf [
      mistake badFunctionDef,
      alt ["def", aName, must "(", opt [params], ")", opt ["->", expression], must ":", block]
        functionOf,
      alt ["async", "def", aName, must "(", opt [params], ")", opt ["->", expression], must ":",
        block] functionOf]
  | params => oneOf [mistake badParameters, pass [parameters]]
  | parameters => oneOf [
      alt [slashPlain, many [plainParam], many [defaultParam], opt [starParams]] slashParams,
      alt [slashDefault, many [defaultParam], opt [starParams]] slashParams,
      alt [many1 [plainParam], many [defaultParam], opt [starParams]] plainParams,
      alt [many1 [defaultParam], opt [starParams]] plainParams,
      pass [starParams]]
  | slashPlain => oneOf [
      pass [many1 [plainParam], "/", ","],
      pass [many1 [plainParam], "/", ahead [")"]]]
  | slashDefault => oneOf [
      alt [many [plainParam], many1 [defaultParam], "/", ","] (fun _ values => .many values),
      alt [many [plainParam], many1 [defaultParam], "/", ahead [")"]]
        (fun _ values => .many values)]
  | starParams => oneOf [
      mistake badStarParams,
      alt ["*", plainParam, many [anyParam], opt [doubleStarParam]] variadicParams,
      alt ["*", starAnnotatedParam, many [anyParam], opt [doubleStarParam]] variadicParams,
      alt ["*", ",", many1 [anyParam], opt [doubleStarParam]] keywordParams,
      pass [doubleStarParam]]
  | doubleStarParam => oneOf [mistake badDoubleStarParam, alt ["**", plainParam] doubleStarOf]
  | plainParam => oneOf [pass [param, ","], pass [param, ahead [")"]]]
  | starAnnotatedParam => oneOf [pass [starParam, ","], pass [starParam, ahead [")"]]]
  | defaultParam => oneOf [
      pass [param, paramDefault, ","],
      pass [param, paramDefault, ahead [")"]]]
  | anyParam => oneOf [
      pass [param, opt [paramDefault], ","],
      pass [param, opt [paramDefault], ahead [")"]]]
  | param => oneOf [alt [aName, opt [typing]] paramOf]
  | starParam => oneOf [alt [aName, starTyping] paramOf]
  | typing => oneOf [plain [":", expression]]
  | starTyping => oneOf [plain [":", starExpression]]
  | ifStmt => oneOf [
      mistake badIfStmt,
      suite ["if", namedExpression, ":", block, elifStmt],
      suite ["if", namedExpression, ":", block, opt [elseBlock]]]
  | elifStmt => oneOf [
      mistake badElifStmt,
      body ["elif", namedExpression, ":", block, elifStmt],
      body ["elif", namedExpression, ":", block, opt [elseBlock]]]
  | elseBlock => oneOf [mistake badElseBlock, body ["else", must ":", block]]
  | whileStmt => oneOf [
      mistake badWhileStmt,
      suite ["while", namedExpression, ":", block, opt [elseBlock]]]
  | forStmt => oneOf [
      mistake badForStmt,
      suite ["for", starTargets, "in", .commit, starExpressions, ":", block, opt [elseBlock]],
      suite ["async", "for", starTargets, "in", .commit, starExpressions, ":", block,
        opt [elseBlock]],
      mistake badForTarget]
  | withStmt => oneOf [
      mistake badWithBody,
      suite ["with", "(", commas withItem, opt [","], ")", ":", block],
      suite ["with", commas withItem, ":", block],
      suite ["async", "with", "(", commas withItem, opt [","], ")", ":", block],
      suite ["async", "with", commas withItem, ":", block],
      mistake badWithStmt]
  | withItem => oneOf [
      plain [expression, "as", starTarget, aheadOf [",", ")", ":"]],
      mistake badWithItem,
      pass [expression]]
  | tryStmt => oneOf [
      mistake badTryStmt,
      suite ["try", must ":", block, finallyBlock],
      suite ["try", must ":", block, many1 [exceptBlock], opt [elseBlock], opt [finallyBlock]],
      suite ["try", must ":", block, many1 [exceptStarBlock], opt [elseBlock],
        opt [finallyBlock]]]
  | exceptBlock => oneOf [
      mistake badExceptBody,
      body ["except", expression, opt ["as", aName], ":", block],
      body ["except", ":", block],
      mistake badExceptStmt]
  | exceptStarBlock => oneOf [
      mistake badExceptStarBody,
      body ["except", "*", expression, opt ["as", aName], ":", block],
      mistake badExceptStmt]
  | finallyBlock => oneOf [mistake badFinallyStmt, body ["finally", must ":", block]]
  | matchStmt => oneOf [
      suite [Terminal.soft "match", subject, ":", newline, indent, many1 [caseBlock], dedent],
      mistake badMatchStmt]
  | subject => oneOf [
      plain [starNamedExpression, ",", opt [starNamedExpressions]],
      pass [namedExpression]]
  | caseBlock => oneOf [
      mistake badCaseBlock,
      body [Terminal.soft "case", patterns, opt [caseGuard], ":", block]]
  | caseGuard => oneOf [plain ["if", namedExpression]]
  | symbol => patternRules symbol

end Docwright.Source.Grammar
