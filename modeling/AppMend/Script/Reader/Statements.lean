import AppMend.Script.Reader.Modules

/-!
# Reading statements

A statement is read by the word it begins with; what begins with no such word is an expression.
-/

namespace AppMend.Script.Reader

/-! ## Choices and blocks -/

/-- An expression in parentheses. -/
private def condition (self : Self) : Reader Expr := do
  expectSign "("
  let e ← self (.expression false)
  expectSign ")"
  pure e

private def block (self : Self) : Reader Stmt := .block <$> bracedStatements self

private def ifStatement (self : Self) : Reader Stmt := do
  advance
  let test ← condition self
  let yes ← self (.statement .held)
  let no ← if ← eatWord "else" then some <$> self (.statement .held) else pure none
  pure (.if test yes no)

private def withStatement (self : Self) : Reader Stmt := do
  advance
  let subject ← condition self
  .with subject <$> self (.statement .held)

/-! ## Loops -/

private def whileStatement (self : Self) : Reader Stmt := do
  advance
  let test ← condition self
  .while test <$> self (.statement .held)

private def doStatement (self : Self) : Reader Stmt := do
  advance
  let body ← self (.statement .held)
  expectWord "while"
  let test ← condition self
  let _ ← eatSign ";"
  pure (.doWhile body test)

/-- The kind of variables that the head of a loop declares at a token. -/
private def loopKind? (t : Token) : Option VarKind :=
  let next := t.next.lexeme
  if Token.isWord t "var" then some .var
  else if Token.isWord t "const" then some .const
  else if Token.isWord t "let" then
    let declares := (isAnyWord next && next != .word "in") || next == .sign "[" || next == .sign openBrace
    if declares then some .let else none
  else
    match managedKind? t with
    | some .using => if next == .word "of" && t.next.next.lexeme != .sign "=" then none else some .using
    | k => k

/-- What stands in the head of a loop after its parenthesis, up to a semicolon or a word. -/
private inductive LoopStart where
  | nothing
  | declared (kind : VarKind) (ps : List Pattern)
  | expression (e : Expr)

private def loopStart (self : Self) : Reader LoopStart := do
  let t ← token
  if (← isSign ";") || (← isSign ")") then pure .nothing
  else
    match loopKind? t with
    | some kind =>
      if kind == .using || kind == .awaitUsing then passManagedKind kind else advance
      .declared kind <$> declarators self kind true
    | none => .expression <$> self (.expression true)

/-- What a loop over values assigns on each round. -/
private def loopTarget (t : Token) (start : LoopStart) : Reader Stmt := do
  match start with
  | .nothing => unexpected
  | .declared kind ps => pure (.vars kind ps)
  | .expression e => .forTarget <$> targetOf t.start false e

/-- Complains of a loop over values that begins with a word of another meaning. -/
private def checkLoopWord (isAwait : Bool) (t : Token) : Reader Unit := do
  let isAsync := Token.isWord t "async" && t.next.lexeme == .word "of" && !isAwait
  complainIf (isAsync || Token.isWord t "let") t.start "A loop cannot begin with this word"

private def maybeExpression (self : Self) (close : String) : Reader (Option Expr) := do
  if ← isSign close then pure none else some <$> self (.expression false)

private def forStatement (self : Self) : Reader Stmt := do
  advance
  let pos := (← token).start
  let isAwait ← eatWord "await"
  complainIf (isAwait && !(← mode).awaits) pos "A function that does not wait"
  expectSign "("
  let t ← token
  let start ← loopStart self
  if ← eatWord "of" then
    match start with
    | .expression _ => checkLoopWord isAwait t
    | _ => pure ()
    let left ← loopTarget t start
    let right ← self (.assignment false false)
    expectSign ")"
    .forOf isAwait left right <$> self (.statement .held)
  else
    complainIf isAwait pos "A loop that does not wait"
    if ← eatWord "in" then
      let left ← loopTarget t start
      let right ← self (.expression false)
      expectSign ")"
      .forIn left right <$> self (.statement .held)
    else
      let init ← (do
        match start with
        | .nothing => pure none
        | .declared kind ps =>
          checkInitialized kind ps t.start
          pure (some (Stmt.vars kind ps))
        | .expression e => pure (some (Stmt.expr e)))
      expectSign ";"
      let test ← maybeExpression self ";"
      expectSign ";"
      let update ← maybeExpression self ")"
      expectSign ")"
      .for init test update <$> self (.statement .held)

/-! ## Jumps -/

private def returnStatement (self : Self) : Reader Stmt := do
  complainIf (!(← mode).returns) (← token).start "A return outside of a function"
  advance
  let e ← if ← canEndStatement then pure none else some <$> self (.expression false)
  endStatement
  pure (.return e)

private def throwStatement (self : Self) : Reader Stmt := do
  advance
  if ← onNewLine then unexpected
  let e ← self (.expression false)
  endStatement
  pure (.throw e)

/-- The label that a jump may have. -/
private def jumpLabel : Reader (Option String) := do
  advance
  let x ← if ← canEndStatement then pure none else some <$> identifier
  endStatement
  pure x

/-! ## Handlers and cases -/

private def handlerParameter (self : Self) : Reader (List Pattern) := do
  if ← eatSign "(" then
    let p ← self .binding
    if (← dialect).types then annotationIfAny self
    expectSign ")"
    pure [p]
  else pure []

private def tryStatement (self : Self) : Reader Stmt := do
  let pos := (← token).start
  advance
  let body ← bracedStatements self
  let start := (← token).start
  let handler ← (do
    if ← eatWord "catch" then
      let params ← handlerParameter self
      let body ← block self
      pure (some (.placed start (.handler params body)))
    else pure none)
  let finalizer ← if ← eatWord "finally" then some <$> block self else pure none
  complainIf (handler.isNone && finalizer.isNone) pos "A handler is missing"
  pure (.try body handler finalizer)

private def switchCase (self : Self) : Reader Stmt := do
  let start := (← token).start
  let test ← (do
    if ← eatWord "default" then pure none
    else
      expectWord "case"
      some <$> self (.expression false))
  expectSign ":"
  let atEnd : Reader Bool := do
    pure ((← isWord "case") || (← isWord "default") || (← isSign closeBrace))
  let body ← many (return !(← atEnd)) (self (.statement .list))
  pure (.placed start (.case test body))

private def switchStatement (self : Self) : Reader Stmt := do
  advance
  let subject ← condition self
  expectSign openBrace
  let cases ← many (return !(← isSign closeBrace)) (switchCase self)
  expectSign closeBrace
  pure (.switch subject cases)

/-! ## Expressions and declarations as statements -/

/-- An expression that is a statement, or a label with what it labels. -/
private def expressionStatement (self : Self) : Reader Stmt := do
  let e ← self (.expression false)
  match e, ← isSign ":" with
  | .name x, true =>
    advance
    .labeled x <$> self (.statement .held)
  | _, _ =>
    endStatement
    pure (.expr e)

/-- Complains of a declaration that no other statement can hold. -/
private def checkHeld (place : StatementPlace) (pos : Nat) (s : Stmt) : Reader Unit := do
  let isOwn : Bool := match s with
    | .vars kind _ => kind.isLexical
    | .class _ => true
    | .function (.mk traits _ _ _ _ _) => traits.isAsync || traits.isGenerator
    | _ => false
  complainIf (place == .held && isOwn) pos "A declaration cannot be held by a statement"

/-- Whether the word `let` here is a name. -/
private def letIsName (place : StatementPlace) (next : Lexeme) : Bool :=
  match next with
  | .sign s =>
    (binaryStrength? s).isSome || assignmentSigns.contains s || [".", "(", ";", ">"].contains s ||
      (place == .held && s != "[")
  | .word x => x == "in" || x == "instanceof" || place == .held
  | _ => place == .held

/-- Words that begin declarations of scripts with types. -/
private def declarationWords : List String := [
  "interface", "type", "module", "namespace", "declare", "enum", "private", "protected", "public",
  "abstract", "accessor", "static", "readonly", "global", "async"]

/-- A declaration or an expression, by the word it begins with. -/
private def otherStatement (self : Self) (place : StatementPlace) (x : String) : Reader Stmt := do
  let t ← token
  let next := t.next
  let types := (← dialect).types
  let declares : Bool :=
    ["var", "const", "function", "class"].contains x ||
    (x == "let" && !letIsName place next.lexeme) ||
    (x == "async" && next.lexeme == .word "function" && !next.afterNewline) ||
    (types && declarationWords.contains x && beginsTypedDeclaration (t.text.length + 1) t)
  if declares then
    let s ← declaration self []
    checkHeld place t.start s
    pure s
  else
    match managedKind? t with
    | some kind =>
      let s ← managedStatement self kind
      checkHeld place t.start s
      pure s
    | none => expressionStatement self

/-! ## Statements -/

/-- A statement that begins with a word. -/
private def wordStatement (self : Self) (place : StatementPlace) (x : String) : Reader Stmt := do
  match x with
  | "if" => ifStatement self
  | "for" => forStatement self
  | "while" => whileStatement self
  | "do" => doStatement self
  | "with" => withStatement self
  | "return" => returnStatement self
  | "throw" => throwStatement self
  | "break" => .break <$> jumpLabel
  | "continue" => .continue <$> jumpLabel
  | "try" => tryStatement self
  | "switch" => switchStatement self
  | "debugger" =>
    advance
    endStatement
    pure .debugger
  | "import" =>
    let next := (← peek).lexeme
    if next == .sign "(" || next == .sign "." then expressionStatement self
    else importDeclaration false
  | "export" => exportDeclaration self []
  | _ => otherStatement self place x

/-- A statement that begins with decorators. -/
private def decoratedStatement (self : Self) (place : StatementPlace) : Reader Stmt := do
  let pos := (← token).start
  let ds ← decorators self
  let start := (← token).start
  if ← isWord "export" then .placed start <$> exportDeclaration self ds
  else
    let s ← declaration self ds
    checkHeld place pos s
    pure (.placed pos s)

/-- What a comment says of the functions that a statement declares. -/
private def withoutEffects : Stmt → Stmt
  | .function f => .function f.markEffectFree
  | .exportDefaultFunction f => .exportDefaultFunction f.markEffectFree
  | .exportDeclaration (.placed pos (.function f)) =>
    .exportDeclaration (.placed pos (.function f.markEffectFree))
  | .vars .const (.withDefault p e :: ps) => .vars .const (.withDefault p e.markEffectFree :: ps)
  | .exportDeclaration (.placed pos (.vars .const (.withDefault p e :: ps))) =>
    .exportDeclaration (.placed pos (.vars .const (.withDefault p e.markEffectFree :: ps)))
  | s => s

/-- A statement. -/
def statementRule (self : Self) (place : StatementPlace) : Reader Stmt := do
  let t ← token
  let at_ (p : Reader Stmt) : Reader Stmt := do
    let s ← p
    pure (.placed t.start (if t.marksEffectFree then withoutEffects s else s))
  match t.lexeme with
  | .sign s =>
    if s == openBrace then at_ (block self)
    else if s == ";" then
      advance
      pure (.placed t.start .empty)
    else if s == "@" then decoratedStatement self place
    else at_ (expressionStatement self)
  | .word x => at_ (if t.escaped then expressionStatement self else wordStatement self place x)
  | _ => at_ (expressionStatement self)

end AppMend.Script.Reader
