import AppMend.Script.Reader.Functions

/-!
# Reading classes

A class with its members. Members that only describe types leave nothing: index signatures, methods
without a body, and fields that are abstract or that exist elsewhere.
-/

namespace AppMend.Script.Reader

/-! ## Keys that classes keep for themselves -/

/-- Complains of a key that a class keeps for itself. -/
private def checkMemberKey (key : Expr) (isStatic : Bool) (pos : Nat) : Reader Unit := do
  let isHidden : Bool := match key with
    | .privateName x => x == "constructor"
    | _ => false
  complainIf (isHidden || (isStatic && isKey "prototype" key)) pos "A class keeps this name for itself"

/-- Whether a constructor begins here. -/
private def atConstructor : Reader Bool := do
  let t ← token
  match t.lexeme with
  | .word x => pure (x == "constructor")
  | .string value => pure (value == pointsOf "constructor" && t.next.lexeme == .sign "(")
  | _ => pure false

/-! ## Members -/

/-- A method after its key, if it has a body. -/
private def methodOf (self : Self) (role : FunctionRole) (kind : MethodKind) (isAsync isGenerator : Bool)
    (key : Expr) (pos : Nat) (isAbstract : Bool) : Reader (Option Member) := do
  let parts ← self (.functionRest role isAsync isGenerator)
  checkAccessor kind parts.params pos
  complainIf (isAbstract && parts.body.isSome) pos "An abstract member has no body"
  pure (parts.body.map fun body =>
    .method kind key (body.function { isAsync, isGenerator } none parts.params))

/-- A field after its key, unless it only describes a type. -/
private def fieldOf (self : Self) (key : Expr) (has : String → Bool) (pos : Nat) :
    Reader (Option Member) := do
  complainIf (isKey "constructor" key) pos "A field cannot be called that"
  if (← dialect).types then
    let _ ← eatSign "!"
    annotationIfAny self
  let value ← (do
    if ← eatSign "=" then
      complainIf (has "abstract") pos "An abstract member has no value"
      some <$> inMode (fun m => { m with awaits := false, yields := false })
        (self (.assignment false false))
    else pure none)
  endStatement
  pure (if has "abstract" || has "declare" then none else some (.slot (has "accessor") key value))

/-- A member after its modifiers, unless it only describes types. -/
private def memberOf (self : Self) (has : String → Bool) (ms : List Modifier) : Reader (Option Member) := do
  let types := (← dialect).types
  let pos := (← token).start
  let isStatic := has "static"
  let isAbstract := has "abstract"
  let shared := accessWords ++ ["static", "abstract", "override"]
  let isGetter ← atAccessorWord "get"
  if isGetter || (← atAccessorWord "set") then
    checkModifiers shared ms
    advance
    let key ← memberKey self
    checkMemberKey key isStatic pos
    complainIf (!isStatic && isKey "constructor" key) pos "A constructor cannot be an accessor"
    complainIf (← isSign "<") pos "An accessor has no type parameters"
    methodOf self .method (if isGetter then .getter else .setter) false false key pos isAbstract
  else if !isStatic && (← atConstructor) then
    checkModifiers accessWords ms
    let key ← memberKey self
    methodOf self .construct .plain false false key pos isAbstract
  else if types && (← atIndexSignature) then
    checkModifiers ["static", "readonly"] ms
    indexSignature self
    pure none
  else
    let isGenerator ← eatSign "*"
    let key ← memberKey self
    checkMemberKey key isStatic pos
    let maybe ← if types then eatSign "?" else pure false
    if isGenerator || (← isSign "(") || (types && (← isSign "<")) then
      checkModifiers ("async" :: shared) ms
      complainIf (!isStatic && isKey "constructor" key) pos "A constructor cannot be a generator"
      methodOf self .method .plain (has "async") isGenerator key pos isAbstract
    else
      checkModifiers (["readonly", "declare", "accessor"] ++ shared) ms
      complainIf (maybe && has "accessor") pos "An accessor cannot be missing"
      fieldOf self key has pos

/-- A member of a class, unless it only describes types. -/
def classMember (self : Self) : Reader (Option Member) := do
  let start := (← token).start
  let ds ← decorators self
  let ms ← memberModifiers
  let has (x : String) : Bool := ms.any (·.word == x)
  if (← isWord "static") && (← peek).lexeme == .sign openBrace then
    complainIf (!ms.isEmpty || !ds.isEmpty) start "A block of a class is not modified"
    advance
    let body ← inMode (fun m => { m with awaits := true, yields := false, returns := false })
      (bracedStatements self)
    pure (some (.placed start [] false (.staticBlock body)))
  else
    let m ← memberOf self has ms
    pure (m.map (.placed start ds (has "static")))

/-! ## Classes -/

/-- The name of a class, if it has one. -/
private def className : Reader (Option String) := do
  match (← token).lexeme, (← peek).lexeme with
  | .word "extends", _ | .word "implements", .word _ => pure none
  | .word _, _ => some <$> identifier
  | _, _ => pure none

/-- The class that another extends. -/
private def baseClass (self : Self) : Reader Expr := do
  let e ← self (.operand false)
  if (← dialect).types && (← atTypeArguments) then
    typeArguments self
    pure (.instantiated e)
  else pure e

/-- A class, from its word on. -/
def classRule (self : Self) (ds : List Expr) : Reader Class := do
  let types := (← dialect).types
  expectWord "class"
  let name ← className
  if types then typeParametersIfAny self
  let base ← if ← eatWord "extends" then some <$> baseClass self else pure none
  if types && (← eatWord "implements") then
    let _ ← oneOrMore (typeName self)
  expectSign openBrace
  let members ← many (return !(← isSign closeBrace)) do
    if ← eatSign ";" then pure none else classMember self
  expectSign closeBrace
  pure (.mk ds name base (members.filterMap id))

end AppMend.Script.Reader
