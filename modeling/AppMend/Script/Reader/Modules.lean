import AppMend.Script.Reader.Declarations

/-!
# Reading imports and exports
-/

namespace AppMend.Script.Reader

/-! ## Names in lists -/

/-- A token that may name what a module exports: a word, or a string. -/
private def nameToken : Reader Token := do
  let t ← token
  match t.lexeme with
  | .word _ | .string _ => advance; pure t
  | _ => unexpected

private def moduleName (t : Token) : ModuleName :=
  match t.lexeme with
  | .word x => ⟨pointsOf x, false⟩
  | .string value => ⟨value, true⟩
  | _ => ⟨[], false⟩

/-- A name in a list of imports or exports. -/
private structure ListedName where
  isType : Bool
  start : Nat
  /-- What is imported or exported. -/
  own : Token
  /-- What it is called from there on. -/
  other : Token

/-- A name in a list. The word `type` before a name says that it is that of a type; but the word may be
a name itself, and so may the word `as` after it. -/
private def listedName : Reader ListedName := do
  let start := (← token).start
  let atName : Reader Bool := do
    match (← token).lexeme with
    | .word _ | .string _ => pure true
    | _ => pure false
  let renamed (isType : Bool) (t : Token) : Reader ListedName := do
    if ← eatWord "as" then return ⟨isType, start, t, ← nameToken⟩
    else return ⟨isType, start, t, t⟩
  let t ← nameToken
  if !Token.isWord t "type" then renamed false t
  else if ← isWord "as" then
    let first ← nameToken
    if ← isWord "as" then
      let second ← nameToken
      if ← atName then return ⟨true, start, first, ← nameToken⟩
      else return ⟨false, start, t, second⟩
    else if ← atName then return ⟨false, start, t, ← nameToken⟩
    else return ⟨true, start, first, first⟩
  else if ← atName then
    let t ← nameToken
    renamed true t
  else renamed false t

/-- The names in a list in braces. Where the list is one of types, no name says so again. -/
private def listedNames (areTypes : Bool) : Reader (List ListedName) := do
  expectSign openBrace
  let names ← listUntil closeBrace listedName
  let types := (← dialect).types
  for n in names do
    complainIf (n.isType && (areTypes || !types)) n.start "A name that is no type's"
  pure names

/-! ## Sources -/

private def attributePair : Reader (ModuleName × List Nat) := do
  let key ← nameToken
  expectSign ":"
  match (← token).lexeme with
  | .string value => advance; pure (moduleName key, value)
  | _ => unexpected

/-- A source with the attributes it may have. -/
private def source : Reader Source := do
  match (← token).lexeme with
  | .string value =>
    advance
    if (← isWord "with") || ((← isWord "assert") && !(← onNewLine)) then
      let word ← anyWord
      expectSign openBrace
      let pairs ← listUntil closeBrace attributePair
      pure { value, attributes := some { word, pairs } }
    else pure { value, attributes := none }
  | _ => unexpected

/-! ## Imports -/

private def namedImports (areTypes : Bool) : Reader (List Specifier) := do
  let names ← listedNames areTypes
  names.mapM fun n => do
    match n.other.lexeme with
    | .word x =>
      complainIf (reservedWords.contains x) n.start "An import needs a name"
      checkName x n.start
      noteName x
      pure (.named (moduleName n.own) x n.isType)
    | _ => failAt n.start "An import needs a name"

private def wholeImport : Reader Specifier := do
  expectSign "*"
  expectWord "as"
  .whole <$> identifier

/-- What an import binds besides a name for what is exported by default. -/
private def importList (areTypes : Bool) : Reader (List Specifier) := do
  if ← isSign "*" then return [← wholeImport] else namedImports areTypes

/-- What an import binds. -/
private def importClause (areTypes : Bool) : Reader (List Specifier) := do
  if isIdentifier (← token).lexeme then
    let x ← identifier
    let pos := (← token).start
    if ← eatSign "," then
      complainIf areTypes pos "An import of types has one clause"
      let more ← importList areTypes
      pure (.standard x :: more)
    else pure [.standard x]
  else importList areTypes

/-- What stands after the equality sign of an import that gives something a name. -/
private def importedAlias (x : String) (isType : Bool) : Reader Stmt := do
  expectSign "="
  let s ← (do
    if (← isWord "require") && (← peek).lexeme == .sign "(" then
      advance
      advance
      match (← token).lexeme with
      | .string value =>
        advance
        expectSign ")"
        pure (.importRequest x value)
      | _ => unexpected
    else
      let first ← identifier
      let more ← many (isSign ".") do
        advance
        anyWord
      pure (.importAlias x (first :: more)))
  endStatement
  pure (if isType || (← mode).ambient then .types [x] else s)

/-- Whether the word `type` after `import` says that types are imported. -/
private def importsTypes : Reader Bool := do
  let next ← peek
  if !((← dialect).types && (← isWord "type")) then pure false
  else if next.lexeme == .word "from" then
    pure ([.word "from", .sign "="].contains next.next.lexeme)
  else
    pure (isIdentifier next.lexeme || next.lexeme == .sign "*" || next.lexeme == .sign openBrace)

/-- The word for the stage at which a source is evaluated, if there is one. -/
private def importStage? : Reader (Option String) := do
  let next ← peek
  let namesSource : Bool := match next.lexeme, next.next.lexeme with
    | .word "from", .string _ => false
    | l, _ => isIdentifier l
  if (← isWord "defer") && next.lexeme == .sign "*" then pure (some "defer")
  else if (← isWord "source") && namesSource then pure (some "source")
  else pure none

/-- An import, from its word on. -/
def importDeclaration (isExported : Bool) : Reader Stmt := do
  let pos := (← token).start
  expectWord "import"
  match (← token).lexeme with
  | .string _ =>
    let source ← source
    endStatement
    pure (.imports { stage := none, specifiers := none, source, isType := false })
  | _ =>
    let isType ← importsTypes
    let stage ← if isType then pure none else importStage?
    if isType || stage.isSome then advance
    if (← dialect).types && (← peek).lexeme == .sign "=" then
      let x ← identifier
      importedAlias x isType
    else
      if isExported then unexpected
      let specifiers ← importClause isType
      complainIf (stage.isSome && specifiers.length != 1) pos "An import of a stage has one clause"
      expectWord "from"
      let source ← source
      endStatement
      pure (.imports { stage, specifiers := some specifiers, source, isType })

/-! ## Exports -/

/-- Words that may come to be reserved. -/
private def laterReserved : List String := [
  "let", "static", "implements", "interface", "package", "private", "protected", "public"]

/-- Complains of what is no name of something in the module. -/
private def checkLocal (t : Token) : Reader Unit := do
  let ok : Bool := match t.lexeme with
    | .word x => !reservedWords.contains x && !laterReserved.contains x
    | _ => false
  complainIf (!ok) t.start "An export needs a name of the module"

/-- A list of names that are exported. -/
private def exportedNames (areTypes : Bool) : Reader Stmt := do
  let names ← listedNames areTypes
  let exported := names.map fun n : ListedName =>
    { start := n.start, localName := moduleName n.own, exported := moduleName n.other,
      isType := n.isType : ExportName }
  if ← eatWord "from" then
    let s ← source
    endStatement
    pure (if areTypes then .typeExport (some s) else .exportList exported (some s))
  else
    names.forM fun n => checkLocal n.own
    endStatement
    pure (if areTypes then .typeExport none else .exportList exported none)

/-- An export of everything from another module. -/
private def exportedModule (areTypes : Bool) : Reader Stmt := do
  expectSign "*"
  let name ← if ← eatWord "as" then (some ∘ moduleName) <$> nameToken else pure none
  expectWord "from"
  let s ← source
  endStatement
  pure (if areTypes then .typeExport (some s) else .exportAll name s)

/-- A function that is exported by default. -/
private def standardFunction (self : Self) (isAsync : Bool) : Reader Stmt := do
  expectWord "function"
  let isGenerator ← eatSign "*"
  let name ← if (← isSign "(") || (← isSign "<") then pure none else some <$> identifier
  let parts ← self (.functionRest .declaration isAsync isGenerator)
  pure (match parts.body with
    | some body => .exportDefaultFunction (body.function { isAsync, isGenerator } name parts.params)
    | none => .typeExport none)

/-- What is exported by default, after the words. -/
private def standardExport (self : Self) (ds : List Expr) : Reader Stmt := do
  let pos := (← token).start
  let more ← decorators self
  complainIf (!ds.isEmpty && !more.isEmpty) pos "Decorators stand in one place"
  let ds := ds ++ more
  let t ← token
  let next := t.next
  let types := (← dialect).types
  let isClass := Token.isWord t "class"
  let isAbstract := types && Token.isWord t "abstract" && next.lexeme == .word "class"
  if !ds.isEmpty && !isClass && !isAbstract then unexpected
  if isClass || isAbstract then
    if isAbstract then advance
    .exportDefaultClass <$> self (.classRest ds)
  else if Token.isWord t "function" then standardFunction self false
  else if Token.isWord t "async" && next.lexeme == .word "function" && !next.afterNewline then
    advance
    standardFunction self true
  else if types && Token.isWord t "interface" && isIdentifier next.lexeme && !next.afterNewline then
    let _ ← declarationAfter self [] []
    pure (.typeExport none)
  else
    let e ← self (.assignment false false)
    endStatement
    pure (.exportDefault e)

/-- A declaration that is exported. -/
private def exportedDeclaration (self : Self) (ds : List Expr) : Reader Stmt := do
  let pos := (← token).start
  let more ← decorators self
  complainIf (!ds.isEmpty && !more.isEmpty) pos "Decorators stand in one place"
  .exportDeclaration <$> .placed pos <$> declaration self (ds ++ more)

/-- An export, from its word on; `ds` are decorators before it. -/
def exportDeclaration (self : Self) (ds : List Expr) : Reader Stmt := do
  expectWord "export"
  let t ← token
  let next := t.next.lexeme
  let types := (← dialect).types
  if ← isSign "*" then exportedModule false
  else if ← isSign openBrace then exportedNames false
  else if types && (← eatSign "=") then
    let e ← self (.expression false)
    endStatement
    pure (if (← mode).ambient then .typeExport none else .exportValue e)
  else if ← eatWord "default" then standardExport self ds
  else if types && (← isWord "import") then
    .exportDeclaration <$> .placed t.start <$> importDeclaration true
  else if types && (← eatWord "as") then
    expectWord "namespace"
    let _ ← identifier
    endStatement
    pure (.typeExport none)
  else if types && (← isWord "type") && (next == .sign "*" || next == .sign openBrace) then
    advance
    if ← isSign "*" then exportedModule true else exportedNames true
  else exportedDeclaration self ds

end AppMend.Script.Reader
