import AppMend.Script.Binding
import AppMend.Script.Reader.Classes
import AppMend.Script.Reader.Expressions

/-!
# Reading declarations

Variables, functions and classes; types, interfaces and what exists elsewhere; enumerations and
namespaces.
-/

namespace AppMend.Script.Reader

/-! ## Variables -/

/-- A variable with its type and its value, if it has them. -/
private def declarator (self : Self) (kind : VarKind) (noIn : Bool) : Reader Pattern := do
  let isManaged := kind == .using || kind == .awaitUsing
  let p ← if isManaged then .name <$> identifier else self .binding
  if (← dialect).types then
    if !(← onNewLine) then let _ ← eatSign "!"
    annotationIfAny self
  if ← eatSign "=" then .withDefault p <$> self (.assignment noIn false) else pure p

/-- Variables with commas between them. -/
def declarators (self : Self) (kind : VarKind) (noIn : Bool) : Reader (List Pattern) :=
  oneOrMore (declarator self kind noIn)

/-- Complains of variables that have to have a value and have none. -/
def checkInitialized (kind : VarKind) (ps : List Pattern) (pos : Nat) : Reader Unit := do
  let lacks : Pattern → Bool
    | .withDefault .. => false
    | p => (kind != .var && kind != .let) || p.isComposite
  complainIf (ps.any lacks && !(← mode).ambient) pos "A variable has no value"

private def variableStatement (self : Self) (kind : VarKind) : Reader Stmt := do
  let pos := (← token).start
  let ps ← declarators self kind false
  checkInitialized kind ps pos
  endStatement
  pure (.vars kind ps)

/-- The kind of variables that are managed, if a declaration of some begins at a token. -/
def managedKind? (t : Token) : Option VarKind :=
  let declares (t : Token) : Bool :=
    Token.isWord t "using" && isIdentifier t.next.lexeme && !t.next.afterNewline
  if declares t then some .using
  else if Token.isWord t "await" && !t.next.afterNewline && declares t.next then some .awaitUsing
  else none

/-- Goes past the words that say how variables are managed. -/
def passManagedKind (kind : VarKind) : Reader Unit := do
  if kind == .awaitUsing then
    complainIf (!(← mode).awaits) (← token).start "A function that does not wait"
    advance
  advance

def managedStatement (self : Self) (kind : VarKind) : Reader Stmt := do
  passManagedKind kind
  variableStatement self kind

/-! ## Functions and classes -/

/-- A function after its name; a signature leaves its name alone. -/
private def functionDeclaration (self : Self) (isAsync : Bool) : Reader Stmt := do
  expectWord "function"
  let isGenerator ← eatSign "*"
  let x ← identifier
  let parts ← self (.functionRest .declaration isAsync isGenerator)
  pure (match parts.body with
    | some body => .function (body.function { isAsync, isGenerator } (some x) parts.params)
    | none => .ambient [x])

/-! ## Types -/

/-- An interface, from its word on. -/
private def interfaceDeclaration (self : Self) : Reader Stmt := do
  advance
  let x ← identifier
  typeParametersIfAny self
  if ← eatWord "extends" then
    let _ ← oneOrMore (typeName self)
  objectType self
  pure (.types [x])

/-- A name for a type, from its word on. -/
private def typeAlias (self : Self) : Reader Stmt := do
  advance
  let x ← identifier
  typeParametersIfAny self
  expectSign "="
  let _ ← self .type
  endStatement
  pure (.types [x])

/-! ## Enumerations and namespaces -/

/-- The name of a member of an enumeration. -/
private def enumerationKey (self : Self) : Reader (List Nat) := do
  let pos := (← token).start
  match ← memberKey self with
  | .name x => pure (pointsOf x)
  | .string value | .computed (.string value) => pure value
  | .computed (.template [raw] []) => pure (cookedPoints (raw.length + 1) raw.toList)
  | _ => failAt pos "A member of an enumeration needs a name"

private def enumerationMember (self : Self) : Reader Member := do
  let start := (← token).start
  let key ← enumerationKey self
  let value ← if ← eatSign "=" then some <$> self (.assignment false false) else pure none
  pure (.placed start [] false (.slot false (.string key) value))

/-- An enumeration, from its word on. -/
private def enumeration (self : Self) : Reader Stmt := do
  advance
  let x ← identifier
  expectSign openBrace
  let members ← listUntil closeBrace (enumerationMember self)
  pure (.enumeration x members (← get).prevStop)

/-- A namespace after its word: its name may have several parts. -/
private def space (self : Self) : Nat → Reader Stmt
  | 0 => unexpected
  | fuel + 1 => do
    let x ← identifier
    if ← eatSign "." then
      let pos := (← token).start
      let inner ← space self fuel
      pure (.space x [] [.placed pos (.exportDeclaration (.placed pos inner))])
    else
      let body ← bracedBody self
      pure (.space x body.directives body.statements)

/-- A namespace, from its word on. One that is named by a string describes another module. -/
private def spaceDeclaration (self : Self) : Reader Stmt := do
  let pos := (← token).start
  advance
  match (← token).lexeme with
  | .string _ =>
    advance
    if ← isSign openBrace then let _ ← bracedBody self else endStatement
    pure (if (← mode).ambient then .ambient [] else .unwritable pos "A module in a module")
  | _ => space self (← roundsLeft)

/-- What is added to the names that any module may use. -/
private def globalDeclaration (self : Self) : Reader Stmt := do
  advance
  let _ ← bracedBody self
  pure (.ambient [])

/-! ## Declarations with their modifiers -/

/-- The modifiers that stand before a declaration. -/
def declarationModifiers : Reader (List Modifier) := do
  let types := (← dialect).types
  modifiersWhile do
    if !types then atModifier ["async"]
    else if ← isWord "const" then pure ((← peek).lexeme == .word "enum")
    else atModifier allModifiers

/-- The modifiers that a declaration may have, by its word. -/
private def modifiersFor (word : String) : List String :=
  "declare" :: (match word with
    | "enum" => ["const"]
    | "class" => ["abstract"]
    | "function" => ["async"]
    | _ => [])

/-- The names of values that a declaration declares. -/
private def valueNames : Stmt → List String
  | .enumeration x _ _ | .space x _ _ => [x]
  | .ambient names => names
  | s => s.declaredNames

/-- A declaration by its word. -/
private def declarationOf (self : Self) (word : String) (ds : List Expr) (isAsync : Bool) :
    Reader Stmt := do
  match word with
  | "var" => advance; variableStatement self .var
  | "let" => advance; variableStatement self .let
  | "const" => advance; variableStatement self .const
  | "function" => functionDeclaration self isAsync
  | "class" => .class <$> self (.classRest ds)
  | _ =>
    if !(← dialect).types then unexpected
    else
      match word with
      | "interface" => interfaceDeclaration self
      | "type" => typeAlias self
      | "enum" => enumeration self
      | "namespace" | "module" => spaceDeclaration self
      | "global" => globalDeclaration self
      | _ => unexpected

/-- A declaration after its modifiers; `ds` are the decorators of a class. -/
def declarationAfter (self : Self) (ms : List Modifier) (ds : List Expr) : Reader Stmt := do
  let has (x : String) : Bool := ms.any (·.word == x)
  let t ← token
  let word : String := match t.lexeme with
    | .word x => if t.escaped then "" else x
    | _ => ""
  if !ds.isEmpty && word != "class" then unexpected
  checkModifiers (modifiersFor word) ms
  inMode (fun m => { m with ambient := m.ambient || has "declare" }) do
    let s ← declarationOf self word ds (has "async")
    let isType : Bool := match s with
      | .types _ => true
      | _ => false
    pure (if (← mode).ambient && !isType then .ambient (valueNames s) else s)

/-- A declaration with its modifiers. -/
def declaration (self : Self) (ds : List Expr) : Reader Stmt := do
  let ms ← declarationModifiers
  declarationAfter self ms ds

/-- Whether a declaration that only a script with types has begins at a token. -/
def beginsTypedDeclaration : Nat → Token → Bool
  | 0, _ => false
  | fuel + 1, t =>
    match t.lexeme with
    | .word x =>
      let next := t.next
      if ["var", "let", "const", "function", "class", "enum"].contains x then true
      else if x == "interface" || x == "type" then isIdentifier next.lexeme && !next.afterNewline
      else if x == "module" || x == "namespace" then
        !next.afterNewline && (isIdentifier next.lexeme || match next.lexeme with
          | .string _ => true
          | _ => false)
      else if x == "global" then
        next.lexeme == .sign openBrace || next.lexeme == .word "export" || isIdentifier next.lexeme
      else if x == "static" then beginsTypedDeclaration fuel next
      else if allModifiers.contains x && x != "override" then
        !next.afterNewline && beginsTypedDeclaration fuel next
      else false
    | _ => false

end AppMend.Script.Reader
