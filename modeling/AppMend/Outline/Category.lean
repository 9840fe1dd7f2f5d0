import AppMend.Grammar.Chart
import AppMend.Outline.Basic

/-!
# The constructs of a script

The categories of constructs that the outline of a script is read by, the kinds of tokens, and the ranks
that tell how tightly parts bind. A category is bare if it leaves no node of its own in an outline: what
it consists of stands directly in the construct around it.
-/

namespace AppMend.Outline

/-- What a script is read as: with assertions in angle brackets, or with elements. -/
inductive Dialect where
  | assertions
  | elements
deriving DecidableEq, Inhabited

inductive Category where
  | program
  -- modules
  | exportStatement | namespaceExport | exportClause | exportSpecifier | exportedName
  | importStatement | importClause | fromClause | namespaceImport | namedImports | importSpecifier
  | importedName | importAttributes | importRequire | importAlias | importCallee
  -- statements
  | statement | declaration | expressionStatement | variableDeclaration | lexicalDeclaration
  | variableDeclarator | initializer | block | elseClause | ifStatement | switchStatement | switchBody
  | switchCase | switchDefault | forStatement | forInStatement | forHeader | whileStatement
  | doStatement | tryStatement | catchClause | finallyClause | withStatement | breakStatement
  | continueStatement | debuggerStatement | returnStatement | throwStatement | emptyStatement
  | labeledStatement
  -- expressions
  | expression | primaryExpression | parenthesized | sequence | yieldExpression | object | objectPattern
  | assignmentPattern | objectAssignmentPattern | array | arrayPattern | nestedIdentifier
  | functionExpression | generatorExpression | arrowFunction | callExpression | newExpression
  | awaitExpression | memberExpression | subscriptExpression | assignment | augmentedAssignment
  | augmentedTarget | destructuringPattern | spread | ternary | binaryExpression | unaryExpression
  | updateExpression | string | template | templateSubstitution | regex | metaProperty | optionalChain
  | arguments_ | pattern | restPattern | pair | pairPattern | propertyName | computedName
  | nonNullExpression | asExpression | satisfiesExpression | instantiationExpression | typeAssertion
  | thisValue | superValue | trueValue | falseValue | nullValue | undefinedValue
  -- functions and classes
  | functionDeclaration | generatorDeclaration | functionSignature | callSignature | callSignatureMember
  | formalParameters | formalParameter | requiredParameter | optionalParameter | parameterName
  | classExpression | classDeclaration | abstractClassDeclaration | classHeritage | extendsClause
  | extendedClass | implementsClause | classBody | staticBlock | methodDefinition | methodSignature
  | abstractMethodSignature | fieldDefinition | accessibility | overrideModifier | decorator
  | decoratorMember | decoratorCall | decoratorParenthesized
  -- declarations of types and spaces
  | ambientDeclaration | moduleDeclaration | internalModule | moduleRest | interfaceDeclaration
  | extendsTypeClause | enumDeclaration | enumBody | enumAssignment | typeAlias
  -- types
  | type_ | primaryType | typeAscription | omittingAscription | addingAscription | optingAscription
  | annotatedImportMember | annotatedImportCall | asserts | assertsAscription | typePredicate
  | typePredicateAscription | tupleParameter | optionalTupleParameter | optionalType | restType
  | tupleMember | constructorType | functionType | readonlyType | inferType | conditionalType
  | genericType | nestedTypeIdentifier | templateType | templateLiteralType | queryMember
  | querySubscript | queryCall | queryInstantiation | typeQuery | indexTypeQuery | lookupType
  | mappedClause | literalType | signedNumber | existentialType | maybeType | parenthesizedType
  | predefinedType | typeArguments | typeParameters | typeParameter | defaultType | constraint
  | objectType | propertySignature | constructSignature | indexSignature | arrayType | tupleType
  | unionType | intersectionType
  -- elements
  | element | openTag | closeTag | selfClosingTag | elementAttribute | attributeString | braces
  | namespacedName
deriving DecidableEq, Hashable, Inhabited

/-- Kinds of tokens that are not always written the same way. -/
inductive Lexeme where
  | end_
  | identifier
  | privateName
  | number
  | doubleQuoted
  | singleQuoted
  | escape
  | templateText
  | regexPattern
  | regexEnd
  | regexFlags
  | comment
  | htmlComment
  | hashbang
  | elementText
  | reference
  | dashedName
  | doubleQuotedAttribute
  | singleQuotedAttribute
  | automaticSemicolon
  | signatureSemicolon
  | ternaryMark
deriving DecidableEq, Hashable, Inhabited

/-- The names of ranks. -/
inductive Grade where
  | member | templateCall | call | new | instantiation
  | unary | unaryVoid
  | binary | power | times | plus | shift | comparison | relation | equality
  | bitAnd | bitXor | bitOr | logicalAnd | logicalOr | ternary
  | assign | declare | literal | object | extends
deriving DecidableEq, Inhabited

abbrev Rule := Grammar.Rule Category Lexeme Grade

instance : Coe Lexeme Rule := ⟨.token⟩

namespace Category

/-- Whether a construct leaves no node of its own. -/
def isBare : Category → Bool
  | exportedName | fromClause | importedName | statement | declaration | initializer | forHeader
  | expression | primaryExpression | augmentedTarget | destructuringPattern | pattern | propertyName
  | callSignature | formalParameter | parameterName | extendedClass | moduleRest | type_ | primaryType
  | tupleMember => true
  | _ => false

/-- The kind of node that a construct leaves. -/
def kind : Category → NodeKind
  | element => .element
  | openTag => .openTag
  | closeTag => .closeTag
  | selfClosingTag => .selfClosingTag
  | elementAttribute => .attribute
  | braces => .braces
  | object => .object
  | string | attributeString => .string
  | nestedIdentifier | namespacedName => .name
  | _ => .other

/-- How much a construct counts when two readings of a text are left over. -/
def favour : Category → Int
  | labeledStatement | pattern | openTag | selfClosingTag => -1
  | _ => 0

end Category

namespace Lexeme

/-- The kind of node that a token leaves, if it leaves one. -/
def kind? : Lexeme → Option NodeKind
  | identifier | dashedName | privateName => some .name
  | number => some .other
  | comment | htmlComment => some .comment
  | elementText => some .text
  | reference => some .reference
  | _ => none

end Lexeme

end AppMend.Outline
