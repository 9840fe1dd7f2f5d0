import AppMend.Outline.Category

/-!
# The rules of modules and statements

What imports, exports and statements consist of. A statement may end where a line ends; the token for
that has no text.
-/

namespace AppMend.Outline

open Category Grammar.Rule Lexeme

/-! ## Parts that several rules share -/

def openBrace : Rule := "\x7b"

def closeBrace : Rule := "\x7d"

/-- A part in parentheses. -/
def inParentheses (r : Rule) : Rule := all ["(", r, ")"]

/-- A part in braces. -/
def inBraces (r : Rule) : Rule := all [openBrace, r, closeBrace]

/-- The end of a statement. -/
def semicolon : Rule := .apart (any [automaticSemicolon, ";"])

def mayEndLine : Rule := maybe automaticSemicolon

/-- The words that may also be used as names. -/
def nameWords : Rule := .apart (any [
  "declare", "namespace", "type", "public", "private", "protected", "override", "readonly", "module",
  "any", "number", "boolean", "string", "symbol", "export", "object", "new",
  "get", "set", "async", "static", "let"])

def plainIdentifier : Rule := .apart (any [undefinedValue, identifier])

/-- One or more expressions, of which the last one counts. -/
def expressions : Rule := .apart (any [expression, sequence])

def bindingTarget : Rule := any [identifier, destructuringPattern]

/-- What stands on the left of an assignment. -/
def assignmentTarget : Rule := .apart (any [
  memberExpression, subscriptExpression, plainIdentifier, nameWords, destructuringPattern,
  nonNullExpression])

/-! ## Modules -/

def moduleRules : List (Category × Rule) := [
  (program, all [maybe hashbang, repeated statement]),
  (exportStatement, any [
    all ["export",
      any [all ["*", fromClause], all [namespaceExport, fromClause], all [exportClause, fromClause],
        exportClause],
      semicolon],
    all [repeated decorator, "export",
      any [declaration, all ["default", any [declaration, all [expression, semicolon]]]]],
    all ["export", "type", exportClause, maybe fromClause, semicolon],
    all ["export", "=", expression, semicolon],
    all ["export", "as", "namespace", identifier, semicolon]]),
  (namespaceExport, all ["*", "as", exportedName]),
  (exportClause, inBraces (all [maybe (commas exportSpecifier), maybe ","])),
  (exportSpecifier, all [
    maybe (any ["type", "typeof"]), exportedName, maybe (all ["as", exportedName])]),
  (exportedName, any [identifier, string]),
  (importStatement, all [
    "import", maybe (any ["type", "typeof"]),
    any [all [importClause, fromClause], importRequire, string],
    maybe importAttributes, semicolon]),
  (importClause, any [
    namespaceImport, namedImports,
    all [importedName, maybe (all [",", any [namespaceImport, namedImports]])]]),
  (fromClause, all ["from", string]),
  (namespaceImport, all ["*", "as", identifier]),
  (namedImports, inBraces (all [maybe (commas importSpecifier), maybe ","])),
  (importSpecifier, all [
    maybe (any ["type", "typeof"]),
    any [importedName, all [any [exportedName, "type"], "as", importedName]]]),
  (importedName, any [identifier, "type"]),
  (importAttributes, all ["with", object]),
  (importRequire, all [identifier, "=", "require", inParentheses string]),
  (importAlias, all ["import", identifier, "=", any [identifier, nestedIdentifier], semicolon]),
  (importCallee, "import")]

/-! ## Statements -/

def statementRules : List (Category × Rule) := [
  (statement, any [
    exportStatement, importStatement, debuggerStatement, expressionStatement, declaration, block,
    ifStatement, switchStatement, forStatement, forInStatement, whileStatement, doStatement,
    tryStatement, withStatement, breakStatement, continueStatement, returnStatement, throwStatement,
    emptyStatement, labeledStatement]),
  (declaration, any [
    functionDeclaration, generatorDeclaration, classDeclaration, lexicalDeclaration,
    variableDeclaration, functionSignature, abstractClassDeclaration, moduleDeclaration,
    binding .declare internalModule, typeAlias, enumDeclaration, interfaceDeclaration, importAlias,
    ambientDeclaration]),
  (expressionStatement, all [expressions, semicolon]),
  (variableDeclaration, all ["var", commas variableDeclarator, semicolon]),
  (lexicalDeclaration, all [any ["let", "const"], commas variableDeclarator, semicolon]),
  (variableDeclarator, any [
    all [bindingTarget, maybe typeAscription, maybe initializer],
    binding .declare (all [identifier, "!", typeAscription])]),
  (initializer, all ["=", expression]),
  (block, rightward (all [openBrace, repeated statement, closeBrace, mayEndLine])),
  (elseClause, all ["else", statement]),
  (ifStatement, rightward (all ["if", parenthesized, statement, maybe elseClause])),
  (switchStatement, all ["switch", parenthesized, switchBody]),
  (switchBody, inBraces (repeated (any [switchCase, switchDefault]))),
  (switchCase, all ["case", expressions, ":", repeated statement]),
  (switchDefault, all ["default", ":", repeated statement]),
  (forStatement, all [
    "for", "(",
    any [any [lexicalDeclaration, variableDeclaration], all [expressions, ";"], emptyStatement],
    any [all [expressions, ";"], emptyStatement],
    maybe expressions, ")", statement]),
  (forInStatement, all ["for", maybe "await", forHeader, statement]),
  (forHeader, inParentheses (all [
    any [
      any [assignmentTarget, parenthesized],
      all ["var", bindingTarget, maybe initializer],
      all [any ["let", "const"], bindingTarget, mayEndLine]],
    any ["in", "of"], expressions])),
  (whileStatement, all ["while", parenthesized, statement]),
  (doStatement, rightward (all ["do", statement, "while", parenthesized, maybe semicolon])),
  (tryStatement, all ["try", block, maybe catchClause, maybe finallyClause]),
  (catchClause, all [
    "catch", maybe (all ["(", bindingTarget, maybe typeAscription, ")"]), block]),
  (finallyClause, all ["finally", block]),
  (withStatement, all ["with", parenthesized, statement]),
  (breakStatement, all ["break", maybe identifier, semicolon]),
  (continueStatement, all ["continue", maybe identifier, semicolon]),
  (debuggerStatement, all ["debugger", semicolon]),
  (returnStatement, all ["return", maybe expressions, semicolon]),
  (throwStatement, all ["throw", expressions, semicolon]),
  (emptyStatement, ";"),
  (labeledStatement, all [any [identifier, nameWords], ":", statement])]

end AppMend.Outline
