import AppMend.Outline.Rules.Expressions

/-!
# The rules of functions, classes, types and elements

What declarations and types consist of, and the elements of markup.
-/

namespace AppMend.Outline

open Category Grammar.Rule Lexeme

/-! ## Functions and classes -/

private def modifiers (more : List Rule) : List Rule :=
  [maybe accessibility] ++ more

private def memberWords : Rule := maybe (any ["get", "set", "*"])

def functionRules : List (Category × Rule) := [
  (functionDeclaration, bindingRight .declare
    (all [maybe "async", "function", identifier, callSignature, block, mayEndLine])),
  (generatorDeclaration, bindingRight .declare
    (all [maybe "async", "function", "*", identifier, callSignature, block, mayEndLine])),
  (functionSignature, all [
    maybe "async", "function", identifier, callSignature, any [semicolon, signatureSemicolon]]),
  (callSignature, all [
    maybe typeParameters, formalParameters,
    maybe (any [typeAscription, assertsAscription, typePredicateAscription])]),
  (callSignatureMember, callSignature),
  (formalParameters,
    inParentheses (maybe (all [commas formalParameter, maybe ","]))),
  (formalParameter, any [requiredParameter, optionalParameter]),
  (requiredParameter, all [parameterName, maybe typeAscription, maybe initializer]),
  (optionalParameter, all [parameterName, "?", maybe typeAscription, maybe initializer]),
  (parameterName, all [
    repeated decorator, maybe accessibility, maybe overrideModifier, maybe "readonly",
    any [pattern, thisValue]]),
  (classExpression, binding .literal (all [
    repeated decorator, "class", maybe identifier, maybe typeParameters, maybe classHeritage,
    classBody])),
  (classDeclaration, bindingLeft .declare (all [
    repeated decorator, "class", identifier, maybe typeParameters, maybe classHeritage,
    classBody, mayEndLine])),
  (abstractClassDeclaration, binding .declare (all [
    repeated decorator, "abstract", "class", identifier, maybe typeParameters,
    maybe classHeritage, classBody])),
  (classHeritage, any [all [extendsClause, maybe implementsClause], implementsClause]),
  (extendsClause, all ["extends", commas extendedClass]),
  (extendedClass, binding .extends (all [expression, maybe typeArguments])),
  (implementsClause, all ["implements", commas type_]),
  (classBody, inBraces (repeated (any [
    decorator,
    all [methodDefinition, maybe semicolon],
    all [methodSignature, any [signatureSemicolon, ","]],
    staticBlock,
    all [any [abstractMethodSignature, indexSignature, methodSignature, fieldDefinition],
      any [semicolon, ","]],
    ";"]))),
  (staticBlock, all ["static", block]),
  (methodDefinition, leftward (all (modifiers [
    maybe "static", maybe overrideModifier, maybe "readonly", maybe "async", memberWords,
    propertyName, maybe "?", callSignature, block]))),
  (methodSignature, all (modifiers [
    maybe "static", maybe overrideModifier, maybe "readonly", maybe "async", memberWords,
    propertyName, maybe "?", callSignature])),
  (abstractMethodSignature, all (modifiers [
    "abstract", maybe overrideModifier, memberWords, propertyName, maybe "?", callSignature])),
  (fieldDefinition, all [
    repeated decorator,
    maybe (any [
      all ["declare", maybe accessibility], all [accessibility, maybe "declare"]]),
    any [
      all [maybe "static", maybe overrideModifier, maybe "readonly"],
      all [maybe "abstract", maybe "readonly"],
      all [maybe "readonly", maybe "abstract"],
      maybe "accessor"],
    propertyName, maybe (any ["?", "!"]), maybe typeAscription, maybe initializer]),
  (accessibility, any ["public", "private", "protected"]),
  (overrideModifier, "override"),
  (decorator, all ["@", any [identifier, decoratorMember, decoratorCall, decoratorParenthesized]]),
  (decoratorMember, binding .member (all [any [identifier, decoratorMember], ".", identifier])),
  (decoratorCall, binding .call
    (all [any [identifier, decoratorMember], maybe typeArguments, arguments_])),
  (decoratorParenthesized, inParentheses (any [identifier, decoratorMember, decoratorCall]))]

/-! ## Declarations of types and spaces -/

def declarationRules : List (Category × Rule) := [
  (ambientDeclaration, all ["declare", any [
    declaration, all ["global", block],
    all ["module", ".", identifier, ":", type_, semicolon]]]),
  (moduleDeclaration, all ["module", moduleRest]),
  (internalModule, all ["namespace", moduleRest]),
  (moduleRest, rightward (all [any [string, identifier, nestedIdentifier], maybe block])),
  (interfaceDeclaration, all [
    "interface", identifier, maybe typeParameters, maybe extendsTypeClause, objectType]),
  (extendsTypeClause, all ["extends", commas (any [identifier, nestedTypeIdentifier, genericType])]),
  (enumDeclaration, all [maybe "const", "enum", identifier, enumBody]),
  (enumBody, inBraces
    (maybe (all [commas (any [propertyName, enumAssignment]), maybe ","]))),
  (enumAssignment, all [propertyName, initializer]),
  (typeAlias, all ["type", identifier, maybe typeParameters, "=", type_, semicolon])]

/-! ## Types -/

private def queryTarget : Rule := any [
  identifier, thisValue, querySubscript, queryMember, queryCall]

private def queryCallee : Rule := any [importCallee, identifier, queryMember, querySubscript]

def typeRules : List (Category × Rule) := [
  (type_, any [
    primaryType, functionType, readonlyType, constructorType, inferType,
    .ranked ⟨.number (-1), none⟩ annotatedImportMember,
    .ranked ⟨.number (-1), none⟩ annotatedImportCall]),
  (primaryType, any [
    parenthesizedType, predefinedType, identifier, nestedTypeIdentifier, genericType, objectType,
    arrayType, tupleType, maybeType, typeQuery, indexTypeQuery, thisValue, existentialType,
    literalType, lookupType, conditionalType, templateLiteralType, intersectionType, unionType,
    "const"]),
  (typeAscription, all [":", type_]),
  (omittingAscription, all ["-?:", type_]),
  (addingAscription, all ["+?:", type_]),
  (optingAscription, all ["?:", type_]),
  (annotatedImportMember, all [
    any [importCallee, annotatedImportMember, annotatedImportCall], ".",
    any [privateName, identifier]]),
  (annotatedImportCall, all [any [importCallee, annotatedImportMember], arguments_]),
  (asserts, all ["asserts", any [typePredicate, identifier, thisValue]]),
  (assertsAscription, all [":", asserts]),
  (typePredicate, all [any [identifier, thisValue, predefinedType], "is", type_]),
  (typePredicateAscription, all [":", typePredicate]),
  (tupleParameter, all [any [identifier, restPattern], typeAscription]),
  (optionalTupleParameter, all [identifier, "?", typeAscription]),
  (optionalType, all [type_, "?"]),
  (restType, all ["...", type_]),
  (tupleMember, any [tupleParameter, optionalTupleParameter, optionalType, restType, type_]),
  (constructorType, leftward (all [
    maybe "abstract", "new", maybe typeParameters, formalParameters, "=>", type_])),
  (functionType, leftward (all [
    maybe typeParameters, formalParameters, "=>", any [type_, asserts, typePredicate]])),
  (readonlyType, all ["readonly", type_]),
  (inferType, rightward (all ["infer", identifier, maybe (all ["extends", type_])])),
  (conditionalType, rightward (all [type_, "extends", type_, "?", type_, ":", type_])),
  (genericType, binding .call (all [any [identifier, nestedTypeIdentifier], typeArguments])),
  (nestedTypeIdentifier, binding .member
    (all [any [identifier, nestedIdentifier], ".", identifier])),
  (templateType, all ["$\x7b", any [primaryType, inferType], closeBrace]),
  (templateLiteralType, all ["`", repeated (any [templateText, templateType]), "`"]),
  (queryMember, all [queryTarget, any [".", "?."], any [privateName, identifier]]),
  (querySubscript, all [
    queryTarget, maybe "?.", "[", any [predefinedType, string, number], "]"]),
  (queryCall, all [queryCallee, arguments_]),
  (queryInstantiation, all [queryCallee, typeArguments]),
  (typeQuery, rightward (all ["typeof", any [
    querySubscript, queryMember, queryCall, queryInstantiation, identifier, thisValue]])),
  (indexTypeQuery, all ["keyof", primaryType]),
  (lookupType, all [primaryType, "[", type_, "]"]),
  (mappedClause, all [identifier, "in", type_, maybe (all ["as", type_])]),
  (literalType, any [
    signedNumber, number, string, trueValue, falseValue, nullValue, undefinedValue]),
  (signedNumber, .ranked ⟨.number 1, some .left⟩ (all [any ["-", "+"], number])),
  (existentialType, "*"),
  (maybeType, rightward (all ["?", primaryType])),
  (parenthesizedType, inParentheses type_),
  (predefinedType, any [
    "any", "number", "boolean", "string", "symbol", all ["unique", "symbol"], "void", "unknown",
    "never", "object"]),
  (typeArguments, all ["<", commas type_, maybe ",", ">"]),
  (typeParameters, all ["<", commas typeParameter, maybe ",", ">"]),
  (typeParameter, all [
    maybe "const", identifier, maybe constraint, maybe defaultType]),
  (defaultType, all ["=", type_]),
  (constraint, all [any ["extends", ":"], type_]),
  (objectType, all [
    any [openBrace, "\x7b|"],
    maybe (all [
      maybe (any [",", ";"]),
      listed (any [",", semicolon]) (any [
        exportStatement, propertySignature, callSignatureMember, constructSignature, indexSignature,
        methodSignature]),
      maybe (any [",", semicolon])]),
    any [closeBrace, "|\x7d"]]),
  (propertySignature, all (modifiers [
    maybe "static", maybe overrideModifier, maybe "readonly", propertyName, maybe "?",
    maybe typeAscription])),
  (constructSignature, all [
    maybe "abstract", "new", maybe typeParameters, formalParameters, maybe typeAscription]),
  (indexSignature, all [
    maybe (all [maybe (any ["-", "+"]), "readonly"]), "[",
    any [all [any [identifier, nameWords], ":", type_], mappedClause], "]",
    any [typeAscription, omittingAscription, addingAscription, optingAscription]]),
  (arrayType, all [primaryType, "[", "]"]),
  (tupleType, all ["[", maybe (commas tupleMember), maybe ",", "]"]),
  (unionType, leftward (all [maybe type_, "|", type_])),
  (intersectionType, leftward (all [maybe type_, "&", type_]))]

/-! ## Elements -/

private def tagWord : Rule := .apart (any [dashedName, identifier])

private def tagName : Rule := .apart (any [tagWord, nestedIdentifier, namespacedName])

private def tagAttribute : Rule := .apart (any [elementAttribute, braces])

private def tagBegin : Rule := .apart (all [
  "<",
  maybe (all [
    any [any [tagWord, namespacedName],
      all [any [identifier, nestedIdentifier], maybe typeArguments]],
    repeated tagAttribute])])

def elementRules : List (Category × Rule) := [
  (element, all [
    openTag, repeated (.apart (any [elementText, reference, elementLike, braces])), closeTag]),
  (openTag, all [tagBegin, ">"]),
  (closeTag, all ["</", maybe tagName, ">"]),
  (selfClosingTag, all [tagBegin, "/>"]),
  (elementAttribute, all [
    .apart (any [tagWord, namespacedName]),
    maybe (all ["=", .apart (any [attributeString, braces, elementLike])])]),
  (attributeString, any [
    all ["\"", repeated (any [doubleQuotedAttribute, reference]), "\""],
    all ["'", repeated (any [singleQuotedAttribute, reference]), "'"]]),
  (braces, inBraces (maybe (any [expression, sequence, spread]))),
  (namespacedName, all [tagWord, ":", tagWord])]

end AppMend.Outline
