import AppMend.Outline.Rules.Statements

/-!
# The rules of expressions

What expressions and the targets of assignments consist of. Operators carry the ranks that tell how
tightly they bind.
-/

namespace AppMend.Outline

open Category Grammar.Rule Lexeme

def elementLike : Rule := .apart (any [element, selfClosingTag])

/-- Binary operators other than `in`, with the ranks they group leftward by. -/
def leftOperators : List (String × Grade) := [
  ("&&", .logicalAnd), ("||", .logicalOr), (">>", .shift), (">>>", .shift), ("<<", .shift),
  ("&", .bitAnd), ("^", .bitXor), ("|", .bitOr), ("+", .plus), ("-", .plus), ("*", .times),
  ("/", .times), ("%", .times), ("<", .relation), ("<=", .relation), ("==", .equality),
  ("===", .equality), ("!=", .equality), ("!==", .equality), (">=", .relation), (">", .relation),
  ("??", .ternary), ("instanceof", .relation)]

def assigningOperators : List String :=
  ["+=", "-=", "*=", "/=", "%=", "^=", "&=", "|=", ">>=", ">>>=", "<<=", "**=", "&&=", "||=", "??="]

/-- A list whose members may be left out. -/
private def sparse (r : Rule) : Rule := maybe (commas (maybe r))

private def nameInBraces : Rule := any [identifier, nameWords]

def expressionRules (d : Dialect) : List (Category × Rule) := [
  (expression, any [
    asExpression, satisfiesExpression, instantiationExpression, internalModule, primaryExpression,
    match d with
      | .assertions => .item typeAssertion
      | .elements => elementLike,
    assignment, augmentedAssignment, awaitExpression, unaryExpression, binaryExpression, ternary,
    updateExpression, newExpression, yieldExpression]),
  (primaryExpression, any [
    subscriptExpression, memberExpression, parenthesized, plainIdentifier, nameWords, thisValue,
    superValue, number, string, template, regex, trueValue, falseValue, nullValue, object, array,
    functionExpression, arrowFunction, generatorExpression, classExpression, metaProperty,
    callExpression, nonNullExpression]),
  (parenthesized, inParentheses (any [all [expression, maybe typeAscription], sequence])),
  (sequence, rightward (commas expression)),
  (yieldExpression, rightward (all ["yield", any [all ["*", expression], maybe expression]])),
  (object, binding .object (inBraces (sparse (any [pair, spread, methodDefinition, nameInBraces])))),
  (objectPattern, binding .object
    (inBraces (sparse (any [pairPattern, restPattern, objectAssignmentPattern, nameInBraces])))),
  (assignmentPattern, all [pattern, "=", expression]),
  (objectAssignmentPattern, all [any [nameInBraces, destructuringPattern], "=", expression]),
  (array, all ["[", sparse (any [expression, spread]), "]"]),
  (arrayPattern, all ["[", sparse (any [pattern, assignmentPattern]), "]"]),
  (nestedIdentifier, binding .member (all [any [identifier, nestedIdentifier], ".", identifier])),
  (functionExpression, binding .literal
    (all [maybe "async", "function", maybe identifier, callSignature, block])),
  (generatorExpression, binding .literal
    (all [maybe "async", "function", "*", maybe identifier, callSignature, block])),
  (arrowFunction, all [
    maybe "async", any [any [nameWords, identifier], callSignature], "=>", any [expression, block]]),
  (callExpression, any [
    binding .call (all [any [expression, importCallee], maybe typeArguments, arguments_]),
    binding .templateCall (all [any [primaryExpression, newExpression], template]),
    binding .member (all [primaryExpression, "?.", maybe typeArguments, arguments_])]),
  (newExpression, bindingRight .new
    (all ["new", primaryExpression, maybe typeArguments, maybe arguments_])),
  (awaitExpression, binding .unaryVoid (all ["await", expression])),
  (memberExpression, binding .member (all [
    any [expression, primaryExpression, importCallee], any [".", optionalChain],
    any [privateName, identifier]])),
  (subscriptExpression, bindingRight .member (all [
    any [expression, primaryExpression], maybe optionalChain, "[", expressions, "]"])),
  (assignment, bindingRight .assign (all [
    maybe "using", any [parenthesized, assignmentTarget], "=", expression])),
  (augmentedTarget, any [
    memberExpression, subscriptExpression, nameWords, identifier, parenthesized, nonNullExpression]),
  (augmentedAssignment, bindingRight .assign (all [
    augmentedTarget, any (assigningOperators.map .text), expression])),
  (destructuringPattern, any [objectPattern, arrayPattern]),
  (spread, all ["...", expression]),
  (ternary, bindingRight .ternary (all [expression, ternaryMark, expression, ":", expression])),
  (binaryExpression, any (
    leftOperators.map (fun o => bindingLeft o.2 (all [expression, .text o.1, expression])) ++ [
      bindingRight .power (all [expression, "**", expression]),
      bindingLeft .relation (all [any [expression, privateName], "in", expression])])),
  (unaryExpression, bindingLeft .unaryVoid (all [
    any ["!", "~", "-", "+", "typeof", "void", "delete"], expression])),
  (updateExpression, leftward (any [
    all [expression, any ["++", "--"]], all [any ["++", "--"], expression]])),
  (string, any [
    all ["\"", repeated (any [doubleQuoted, escape]), "\""],
    all ["'", repeated (any [singleQuoted, escape]), "'"]]),
  (template, all ["`", repeated (any [templateText, escape, templateSubstitution]), "`"]),
  (templateSubstitution, all ["$\x7b", expressions, closeBrace]),
  (regex, all ["/", regexPattern, regexEnd, maybe regexFlags]),
  (metaProperty, any [all ["new", ".", "target"], all ["import", ".", "meta"]]),
  (optionalChain, "?."),
  (arguments_, all ["(", sparse (any [expression, spread]), ")"]),
  (pattern, any [assignmentTarget, restPattern]),
  (restPattern, rightward (all ["...", assignmentTarget])),
  (pair, all [propertyName, ":", expression]),
  (pairPattern, all [propertyName, ":", any [pattern, assignmentPattern]]),
  (propertyName, any [any [identifier, nameWords], privateName, string, number, computedName]),
  (computedName, all ["[", expression, "]"]),
  (nonNullExpression, bindingLeft .unary (all [expression, "!"])),
  (asExpression, bindingLeft .binary (all [expression, "as", any ["const", type_]])),
  (satisfiesExpression, bindingLeft .binary (all [expression, "satisfies", type_])),
  (instantiationExpression, binding .instantiation (all [expression, typeArguments])),
  (typeAssertion, bindingLeft .unary (all [typeArguments, expression])),
  (thisValue, "this"), (superValue, "super"), (trueValue, "true"), (falseValue, "false"),
  (nullValue, "null"), (undefinedValue, "undefined")]

end AppMend.Outline
