import AppMend.Script.Reader.Keys

/-!
# Reading types

Types leave nothing behind in a script, so a rule here only finds where a type ends, and what shape it
has as far as a type around it asks.
-/

namespace AppMend.Script.Reader

/-! ## Lists in angle brackets -/

/-- Makes one bracket of two that open side by side, and leaves the other for the text after it. -/
def splitOpening : Reader Unit := do
  let t ← token
  if t.lexeme == .sign "<<" then
    replaceToken { t with lexeme := .sign "<", stop := t.start + 1, rest := t.text.drop 1 }

/-- A list in angle brackets that may not be empty. -/
private def angled (item : Reader α) : Reader Unit := do
  let pos := (← token).start
  splitOpening
  expectSign "<"
  let items ← listUntil ">" item
  complainIf items.isEmpty pos "An empty list of types"

/-- Type parameters with constraints and defaults. -/
def typeParameters (self : Self) : Reader Unit := angled do
  let ms ← modifiersOf (["in", "out", "const"] ++ allModifiers)
  checkModifiers ["in", "out", "const"] ms
  let _ ← identifier
  if ← eatWord "extends" then let _ ← self .type
  if ← eatSign "=" then let _ ← self .type

def typeParametersIfAny (self : Self) : Reader Unit := do
  if ← isSign "<" then typeParameters self

def typeArguments (self : Self) : Reader Unit := angled (self .type)

/-- Whether type arguments may begin here. -/
def atTypeArguments : Reader Bool := return (← isSign "<") || (← isSign "<<")

/-- Type arguments on the line of what they are given to. -/
def typeArgumentsIfAny (self : Self) : Reader Unit := do
  if (← atTypeArguments) && !(← onNewLine) then typeArguments self

/-! ## Names -/

/-- Names with points between them. -/
def namePath : Reader Unit := do
  let _ ← anyWord
  let _ ← many (isSign ".") do advance; anyWord

/-- The name of a type, with type arguments. -/
def typeName (self : Self) : Reader Unit := do
  namePath
  typeArgumentsIfAny self

/-! ## What is described by types -/

/-- A type after a colon, if there is one. -/
def annotationIfAny (self : Self) : Reader Unit := do
  if ← eatSign ":" then let _ ← self .type

/-- What a function returns: a type, or what it tells of a parameter. -/
def returnType (self : Self) : Reader Unit := do
  let t ← token
  let next := t.next
  if isAnyWord t.lexeme && next.lexeme == .word "is" && !next.afterNewline then
    advance
    advance
  let _ ← self .type

/-- The type of what a function returns, if it is given. -/
def returnAnnotationIfAny (self : Self) : Reader Unit := do
  if ← eatSign ":" then returnType self

/-- Parameters and what is returned. -/
private def callSignature (self : Self) : Reader Unit := do
  typeParametersIfAny self
  let _ ← self (.parameters .signature)
  returnAnnotationIfAny self

/-- The end of a member of a type: a semicolon, a comma, or the end of a line. -/
def endTypeMember : Reader Unit := do
  if ← eatSign "," then pure () else endStatement

/-- Whether the bracket here begins an index signature. -/
def atIndexSignature : Reader Bool := do
  if !(← isSign "[") then pure false
  else
    let t ← peek
    let endsName (t : Token) : Bool := match t.lexeme with
      | .sign ":" | .sign "," => true
      | .sign "?" => [.sign ":", .sign ",", .sign "]"].contains t.next.lexeme
      | _ => false
    match t.lexeme with
    | .word x =>
      let next := t.next
      if allModifiers.contains x && isIdentifier next.lexeme then pure true
      else pure (isIdentifier t.lexeme && endsName next)
    | l => pure (l == .sign "..." || l == .sign "[")

/-- An index signature: the name and the type of a key, and the type of its value. -/
def indexSignature (self : Self) : Reader Unit := do
  expectSign "["
  let _ ← identifier
  expectSign ":"
  let _ ← self .type
  expectSign "]"
  expectSign ":"
  let _ ← self .type
  endTypeMember

/-- One member of an object type. -/
def typeMember (self : Self) : Reader Unit := do
  let next := (← peek).lexeme
  if (← isWord "new") && (next == .sign "(" || next == .sign "<") then
    advance
    callSignature self
    endTypeMember
  else if (← isSign "(") || (← isSign "<") then
    callSignature self
    endTypeMember
  else
    let ms ← modifiersOf allModifiers
    checkModifiers ["readonly"] ms
    if (← atAccessorWord "get") || (← atAccessorWord "set") then
      advance
      let _ ← memberKey self
      let _ ← self (.parameters .signature)
      returnAnnotationIfAny self
      endTypeMember
    else if ← atIndexSignature then indexSignature self
    else
      let _ ← memberKey self
      let _ ← eatSign "?"
      if (← isSign "(") || (← isSign "<") then callSignature self else annotationIfAny self
      endTypeMember

/-- The members of an object type, in braces. -/
def objectType (self : Self) : Reader Unit := do
  expectSign openBrace
  let _ ← many (return !(← isSign closeBrace)) (typeMember self)
  expectSign closeBrace

/-- Whether the brace here begins a type that maps the keys of another. -/
private def atMappedType : Reader Bool := foresees do
  advance
  if (← eatSign "+") || (← eatSign "-") then isWord "readonly"
  else
    let _ ← eatWord "readonly"
    expectSign "["
    let _ ← anyWord
    isWord "in"

/-- A type that maps the keys of another, in braces. -/
private def mappedType (self : Self) : Reader Unit := do
  expectSign openBrace
  if (← eatSign "+") || (← eatSign "-") then expectWord "readonly"
  else let _ ← eatWord "readonly"
  expectSign "["
  let _ ← anyWord
  expectWord "in"
  let _ ← self .type
  if ← eatWord "as" then let _ ← self .type
  expectSign "]"
  if (← eatSign "+") || (← eatSign "-") then expectSign "?"
  else let _ ← eatSign "?"
  annotationIfAny self
  let _ ← eatSign ";"
  expectSign closeBrace

/-! ## Tuples -/

/-- Whether an item of a tuple begins with its name. -/
private def atItemName : Reader Bool := foresees do
  let _ ← eatSign "..."
  let _ ← anyWord
  let _ ← eatSign "?"
  isSign ":"

/-- An item of a tuple type: whether it may be left out, and whether it is there once at least. -/
private def tupleItem (self : Self) : Reader (Bool × Bool) := do
  let pos := (← token).start
  let named ← atItemName
  let isRest ← eatSign "..."
  if named then
    let _ ← anyWord
    let maybe ← eatSign "?"
    complainIf (isRest && maybe) pos "An item of a tuple that is left out and repeated"
    expectSign ":"
    let _ ← self .type
    pure (maybe, !maybe && !isRest)
  else
    let shape ← self .type
    pure (!isRest && shape == .maybe, !isRest && shape != .maybe)

private def tupleType (self : Self) : Reader Unit := do
  let pos := (← token).start
  expectSign "["
  let items ← listUntil "]" (tupleItem self)
  let rest := items.dropWhile fun (maybe, _) => !maybe
  complainIf (rest.any fun (_, needed) => needed) pos "An item of a tuple follows one that may be left out"

/-! ## Types by how they begin -/

/-- The types in the holes of a template, after its first part. -/
private def templateHoles (self : Self) : Nat → Reader Unit
  | 0 => unexpected
  | fuel + 1 => do
    let _ ← self .type
    unless ← isSign closeBrace do unexpected
    replaceToken (← token).asTemplate
    match (← token).lexeme with
    | .template _ true => advance
    | .template _ false =>
      advance
      templateHoles self fuel
    | _ => unexpected

/-- A type that a module exports, from the word `import` on. -/
private def importedType (self : Self) : Reader Unit := do
  expectWord "import"
  expectSign "("
  match (← token).lexeme with
  | .string _ => advance
  | _ => unexpected
  if ← eatSign "," then
    if !(← isSign ")") then
      let _ ← self (.assignment false false)
      let _ ← eatSign ","
  expectSign ")"
  if ← eatSign "." then namePath
  typeArgumentsIfAny self

/-- A type without operators around it. -/
private def primaryType (self : Self) : Reader TypeShape := do
  let t ← token
  match t.lexeme with
  | .sign "(" =>
    advance
    let _ ← self .type
    expectSign ")"
    pure .plain
  | .sign "[" =>
    tupleType self
    pure .list
  | .sign "?" | .sign "!" =>
    advance
    let _ ← self .type
    pure .plain
  | .sign "-" =>
    advance
    match (← token).lexeme with
    | .number _ | .bigint _ => advance
    | _ => unexpected
    pure .plain
  | .sign s =>
    if s != openBrace then unexpected
    if ← atMappedType then mappedType self else objectType self
    pure .plain
  | .string _ | .number _ | .bigint _ | .template _ true =>
    advance
    pure .plain
  | .template _ false =>
    advance
    templateHoles self (← roundsLeft)
    pure .plain
  | .word "import" =>
    importedType self
    pure .plain
  | .word "typeof" =>
    advance
    if ← isWord "import" then importedType self else typeName self
    pure .plain
  | .word "asserts" =>
    let next := t.next
    if (isIdentifier next.lexeme || next.lexeme == .word "this") && !next.afterNewline then
      advance
      advance
      if ← eatWord "is" then let _ ← self .type
    else typeName self
    pure .plain
  | .word "this" =>
    advance
    if (← isWord "is") && !(← onNewLine) then
      advance
      let _ ← self .type
    pure .plain
  | .word x =>
    if ["void", "null", "true", "false"].contains x && t.next.lexeme != .sign "." then advance
    else typeName self
    pure .plain
  | _ => unexpected

/-- Whether a type begins at a token. -/
def startsType (t : Token) : Bool :=
  let startsAlone : Lexeme → Bool
    | .word x => !reservedWords.contains x ||
      ["void", "null", "this", "typeof", "new", "true", "false", "import", "function"].contains x
    | .string _ | .number _ | .bigint _ | .template .. => true
    | .sign s => [openBrace, "[", "<", "|", "&", "*", "?", "!", "..."].contains s
    | _ => false
  match t.lexeme with
  | .sign "-" =>
    match t.next.lexeme with
    | .number _ | .bigint _ => true
    | _ => false
  | .sign "(" => [.sign ")", .sign "(", .sign "@"].contains t.next.lexeme || startsAlone t.next.lexeme
  | l => startsAlone l

/-- What may follow a type on its line: brackets of an array or an index, and signs that tell whether
it may be missing. -/
private def typeSuffixes (self : Self) : Nat → TypeShape → Reader TypeShape
  | 0, shape => pure shape
  | fuel + 1, shape => do
    if ← onNewLine then pure shape
    else if ← eatSign "!" then typeSuffixes self fuel .plain
    else if (← isSign "?") && !startsType (← peek) then
      advance
      typeSuffixes self fuel .maybe
    else if ← eatSign "[" then
      if ← eatSign "]" then typeSuffixes self fuel .list
      else
        let _ ← self .type
        expectSign "]"
        typeSuffixes self fuel .plain
    else pure shape

/-- The constraint of a type that is inferred, unless it is the test of a conditional type. -/
private def inferredConstraint (self : Self) : Reader Unit := do
  expectWord "extends"
  let _ ← inMode (fun m => { m with noConditional := true }) (self .type)
  if !(← mode).noConditional && (← isSign "?") then unexpected

/-- An operand of a union or an intersection. -/
def typeOperandRule (self : Self) : Reader TypeShape := do
  let t ← token
  match t.lexeme with
  | .word "keyof" | .word "unique" =>
    advance
    let _ ← self .typeOperand
    pure .plain
  | .word "readonly" =>
    advance
    let shape ← self .typeOperand
    complainIf (shape != .list) t.start "Only a list of types can be fixed"
    pure .plain
  | .word "infer" =>
    advance
    let _ ← identifier
    let _ ← attempt (inferredConstraint self)
    pure .plain
  | _ =>
    inMode (fun m => { m with noConditional := false }) do
      let shape ← primaryType self
      typeSuffixes self (← roundsLeft) shape

/-! ## Any type -/

/-- Passes what a parameter begins with, if something does that. -/
private def passParameterStart (self : Self) : Reader Bool := do
  let _ ← modifiersOf allModifiers
  let t ← token
  match t.lexeme with
  | .word x => if isIdentifier t.lexeme || x == "this" then advance; pure true else pure false
  | .sign s =>
    if s == "[" || s == openBrace then
      let before := (← get).complaints.length
      let _ ← self .binding
      pure ((← get).complaints.length == before)
    else pure false
  | _ => pure false

/-- Whether a function type begins here, rather than a type in parentheses. -/
private def atFunctionType (self : Self) : Reader Bool := do
  if ← isSign "<" then pure true
  else if ← isSign "(" then
    foresees do
      advance
      if (← isSign ")") || (← isSign "...") then pure true
      else if ← passParameterStart self then
        match (← token).lexeme with
        | .sign ":" | .sign "," | .sign "?" | .sign "=" => pure true
        | .sign ")" => advance; isSign "=>"
        | _ => pure false
      else pure false
  else
    pure ((← isWord "new") || ((← isWord "abstract") && (← peek).lexeme == .word "new"))

/-- The type of a function or of what is made by `new`. -/
private def functionType (self : Self) : Reader Unit := do
  let _ ← eatWord "abstract"
  let _ ← eatWord "new"
  typeParametersIfAny self
  let _ ← self (.parameters .signature)
  expectSign "=>"
  returnType self

/-- Types with a sign between them, and perhaps before them. -/
private def joinedTypes (sign : String) (part : Reader TypeShape) : Reader TypeShape := do
  let leads ← eatSign sign
  let shape ← part
  let more ← many (isSign sign) do
    advance
    part
  pure (if leads || !more.isEmpty then .plain else shape)

/-- Any type. -/
def typeRule (self : Self) : Reader TypeShape := do
  if ← atFunctionType self then
    functionType self
    pure .plain
  else
    let shape ← joinedTypes "|" (joinedTypes "&" (self .typeOperand))
    if (← isWord "extends") && !(← onNewLine) && !(← mode).noConditional then
      advance
      let _ ← inMode (fun m => { m with noConditional := true }) (self .type)
      expectSign "?"
      let _ ← self .type
      expectSign ":"
      let _ ← self .type
      pure .plain
    else pure shape

end AppMend.Script.Reader
