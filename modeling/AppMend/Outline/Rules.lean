import AppMend.Outline.Rules.Declarations

/-!
# The grammar of scripts

All rules together, for each dialect, and what binds more tightly than what.
-/

namespace AppMend.Outline

open Category Grammar

private def ranks (rs : List Grade) : List (Mark Category Grade) := rs.map .rank

private def constructs (cs : List Category) : List (Mark Category Grade) := cs.map .category

def orders : List (List (Mark Category Grade)) := [
  ranks [.member, .templateCall, .call] ++ constructs [updateExpression] ++
    ranks [.unaryVoid, .power, .times, .plus, .shift, .comparison, .relation, .equality, .bitAnd,
      .bitXor, .bitOr, .logicalAnd, .logicalOr, .ternary] ++
    constructs [sequence, arrowFunction],
  [.rank .assign, .category primaryExpression],
  ranks [.member, .templateCall, .new, .call] ++ constructs [expression],
  ranks [.declare, .literal],
  constructs [primaryExpression, block] ++ ranks [.object],
  constructs [metaProperty, importCallee],
  constructs [importStatement, importCallee],
  constructs [exportStatement, primaryExpression],
  constructs [lexicalDeclaration, primaryExpression],
  ranks [.call, .instantiation, .unary, .binary] ++ constructs [awaitExpression, arrowFunction],
  ranks [.extends, .instantiation],
  constructs [intersectionType, unionType, conditionalType, functionType] ++ ranks [.binary] ++
    constructs [typePredicate, readonlyType],
  constructs [mappedClause, primaryExpression],
  constructs [accessibility, primaryExpression],
  [.rank .unaryVoid, .category expression],
  constructs [extendsClause, primaryExpression],
  ranks [.unary, .assign],
  [.rank .declare, .category expression],
  constructs [predefinedType, unaryExpression],
  constructs [type_, maybeType],
  constructs [tupleType, arrayType, pattern, type_],
  constructs [readonlyType, pattern],
  constructs [readonlyType, primaryExpression],
  constructs [typeQuery, subscriptExpression, expression],
  constructs [typeQuery, querySubscript],
  constructs [nestedTypeIdentifier, genericType, primaryType, lookupType, indexTypeQuery, type_],
  constructs [asExpression, satisfiesExpression, primaryType],
  constructs [queryMember, memberExpression],
  constructs [memberExpression, annotatedImportMember],
  constructs [queryMember, primaryExpression],
  constructs [querySubscript, subscriptExpression],
  constructs [querySubscript, primaryExpression],
  constructs [queryCall, primaryExpression],
  constructs [queryInstantiation, primaryExpression],
  constructs [typeQuery, primaryExpression],
  constructs [overrideModifier, primaryExpression],
  constructs [decoratorCall, decorator],
  constructs [literalType, pattern],
  constructs [predefinedType, pattern],
  constructs [callExpression, queryCall],
  constructs [callExpression, annotatedImportCall],
  constructs [newExpression, primaryExpression],
  constructs [metaProperty, primaryExpression],
  constructs [constructSignature, propertyName]]

def lexemes : List Lexeme := [
  .end_, .identifier, .privateName, .number, .doubleQuoted, .singleQuoted, .escape, .templateText,
  .regexPattern, .regexEnd, .regexFlags, .comment, .htmlComment, .hashbang, .elementText, .reference,
  .dashedName, .doubleQuotedAttribute, .singleQuotedAttribute, .automaticSemicolon,
  .signatureSemicolon, .ternaryMark]

/-- The grammar of a dialect. -/
def grammarOf (d : Dialect) : Grammar Category Lexeme Grade where
  rules := moduleRules ++ statementRules ++ expressionRules d ++ functionRules ++ declarationRules ++
    typeRules ++ elementRules
  tokens := lexemes
  last := .end_
  orders := orders
  start := program

abbrev Chart := Grammar.Chart Category Lexeme Grade

def assertionsChart : Chart := .of (grammarOf .assertions)

def elementsChart : Chart := .of (grammarOf .elements)

/-- The chart of a dialect. -/
def chartOf : Dialect → Chart
  | .assertions => assertionsChart
  | .elements => elementsChart

end AppMend.Outline
