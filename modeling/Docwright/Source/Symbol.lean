/-!
# The symbols of the grammar

One symbol for each rule.  The symbols whose names start with `bad` stand for mistakes: texts that
are no programs, but resemble one so closely that the fault can be named.
-/

namespace Docwright.Source

/-- The symbols of the grammar. -/
inductive Symbol
  -- the text as a whole
  | file | field
  -- statements of one line
  | statements | statement | simpleStmts | simpleStmt | assignment | annotatedValue | augmenting
  | returnStmt | raiseStmt | globalStmt | nonlocalStmt | delStmt | yieldStmt | assertStmt
  | importStmt | importName | importFrom | importTargets | importAsNames | importAsName
  | dottedAsNames | dottedAsName | dottedName
  -- statements with bodies
  | compoundStmt | block | decorators | classDef | bareClassDef | functionDef | bareFunctionDef
  | ifStmt | elifStmt | elseBlock | whileStmt | forStmt | withStmt | withItem
  | tryStmt | exceptBlock | exceptStarBlock | finallyBlock
  -- parameters
  | params | parameters | slashPlain | slashDefault | starParams | doubleStarParam
  | plainParam | starAnnotatedParam | defaultParam | anyParam | param | starParam
  | typing | starTyping | paramDefault
  | lambdaParams | lambdaParameters | lambdaSlashPlain | lambdaSlashDefault | lambdaStarParams
  | lambdaDoubleStarParam | lambdaPlainParam | lambdaDefaultParam | lambdaAnyParam | lambdaParam
  -- pattern matching
  | matchStmt | subject | caseBlock | caseGuard | patterns | pattern | asPattern | orPattern
  | closedPattern | literalPattern | literalKey | complexNumber | signedNumber | signedReal
  | realNumber | imaginaryNumber | capturePattern | captureTarget | wildcardPattern
  | valuePattern | attributePath | namePath | groupPattern | sequencePattern | openSequence
  | sequenceItems | sequenceItem | starPattern | mappingPattern | mappingItems | mappingItem
  | doubleStarPattern | classPattern | positionalPatterns | keywordPatterns | keywordPattern
  -- expressions
  | expressions | expression | quietExpression | yieldExpr | starExpressions | starExpression
  | starNamedExpressions | starNamedExpression | assignmentExpression | namedExpression
  | disjunction | conjunction | inversion | comparison | comparePair
  | bitwiseOr | bitwiseXor | bitwiseAnd | shiftExpr | sumExpr | term | factor | power
  | awaitPrimary | primary | slices | sliceExpr | atom | group | lambdaExpr | strings
  | listDisplay | tupleDisplay | setDisplay | dictDisplay | pairs | pair | keyValue
  | forIfClauses | forIfClause | listComp | setComp | generator | dictComp
  | arguments | args | keywordArgs | starredExpression | keywordOrStarred | keywordOrDoubleStarred
  -- targets
  | starTargets | listTargets | tupleTargets | starTarget | targetWithStarAtom | starAtom
  | singleTarget | accessTarget | targetPrimary | targetAhead | delTargets | delTarget | delAtom
  -- mistakes
  | badArguments | badKeyword | badLegacyExpression | badExpression | badNamedExpression
  | badAssignment | badAnnotatedTarget | badDelStmt | badBlock | badComprehension
  | badDictComprehension | badParameters | badParametersHead | badStarParams | badDoubleStarParam
  | badDefault | badLambdaParameters | badLambdaParametersHead | badLambdaStarParams
  | badLambdaDoubleStarParam | badWithItem | badForTarget | badGroup | badImportTargets
  | badWithStmt | badWithBody | badTryStmt | badExceptStmt | badFinallyStmt | badExceptBody
  | badExceptStarBody | badMatchStmt | badCaseBlock | badAsPattern | badClassPattern
  | badClassArguments | badIfStmt | badElifStmt | badElseBlock | badWhileStmt | badForStmt
  | badFunctionDef | badClassDef | badPairs | badKeyValue
  deriving DecidableEq

end Docwright.Source
