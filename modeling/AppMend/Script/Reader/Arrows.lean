import AppMend.Script.Reader.Functions

/-!
# Reading arrow functions

Parameters in parentheses look like an expression until the arrow comes. The tokens after an opening
parenthesis often tell them apart; where they do not, the parameters are read by way of trial.
-/

namespace AppMend.Script.Reader

/-! ## Where an arrow function may begin -/

/-- Whether an arrow function begins at a token: surely, maybe, or not at all. -/
inductive ArrowStart where
  | surely
  | maybe
  | never

/-- What a parenthesis promises by the tokens after it. -/
private def afterParen (types : Bool) (t : Token) : ArrowStart :=
  let first := t.next
  match first.lexeme with
  | .sign ")" =>
    let next := first.next.lexeme
    if [.sign "=>", .sign ":", .sign openBrace].contains next then .surely else .never
  | .sign "..." => .surely
  | .sign "[" | .sign "@" => .maybe
  | .sign s => if s == openBrace then .maybe else .never
  | .word x =>
    if reservedWords.contains x && x != "this" then .never
    else
      let second := first.next
      match second.lexeme with
      | .sign ":" => if types then .surely else .never
      | .sign "?" =>
        if [.sign ":", .sign ",", .sign "=", .sign ")"].contains second.next.lexeme then .surely else .never
      | .sign "," | .sign "=" | .sign ")" => .maybe
      | _ => .never
  | _ => .never

/-- What an opening angle bracket promises; where elements are allowed, type parameters must show that
they are none. -/
private def afterAngle (d : Dialect) (t : Token) : ArrowStart :=
  if !d.types then .never
  else
    let first := t.next
    let first := if first.lexeme == .word "const" then first.next else first
    if !isIdentifier first.lexeme then .never
    else if !d.markup then .maybe
    else
      let second := first.next
      match second.lexeme with
      | .word "extends" =>
        if [.sign "=", .sign ">", .sign "/"].contains second.next.lexeme then .never else .surely
      | .sign "," | .sign "=" => .surely
      | _ => .never

/-- What a token promises of an arrow function with parameters in parentheses. -/
def arrowStart (d : Dialect) (t : Token) : ArrowStart :=
  match t.lexeme with
  | .sign "(" => afterParen d.types t
  | .sign "<" => afterAngle d t
  | _ => .never

/-! ## The parts of an arrow function -/

/-- An arrow function up to its arrow. -/
structure ArrowHead where
  isAsync : Bool
  params : List Pattern
  /-- Whether the type of what is returned is given. -/
  isTyped : Bool

/-- Goes past the arrow, which stands on the line of what is before it. -/
private def passArrow : Reader Unit := do
  if ← onNewLine then unexpected
  expectSign "=>"

/-- An arrow function with parameters in parentheses, up to its arrow. -/
private def arrowHead (self : Self) : Reader ArrowHead := do
  let isAsync ← eatWord "async"
  let types := (← dialect).types
  let (params, isTyped) ← inMode (fun m => { m with awaits := m.awaits || isAsync }) do
    if types then typeParametersIfAny self
    let pos := (← token).start
    let { list, typesThis } ← self (.parameters .arrow)
    complainIf typesThis pos "An arrow function has no object of its own"
    let isTyped := types && (← isSign ":")
    if types then returnAnnotationIfAny self
    pure (list, isTyped)
  passArrow
  pure { isAsync, params, isTyped }

/-- An arrow function after its arrow. -/
private def arrowBody (self : Self) (noIn choosing isAsync : Bool) (params : List Pattern) : Reader Expr :=
  inMode (Mode.within isAsync false) do
    if ← isSign openBrace then
      let body ← bracedBody self
      pure (.arrow (body.function { isAsync } none params))
    else
      let e ← self (.assignment noIn choosing)
      pure (.arrowTo { isAsync } params e)

/-- An arrow function with one name for its parameter. -/
private def singleArrow (self : Self) (noIn choosing isAsync : Bool) : Reader Expr := do
  if isAsync then advance
  let x ← inMode (fun m => { m with awaits := m.awaits || isAsync }) identifier
  passArrow
  arrowBody self noIn choosing isAsync [.name x]

/-- An arrow function that may turn out to be an expression in parentheses. Where a colon may go on a
choice, the type of what is returned is believed only if a colon follows the function. -/
private def tryArrow (self : Self) (noIn choosing : Bool) : Reader (Option Expr) := do
  let start ← get
  match ← attempt (arrowHead self) with
  | none => pure none
  | some head =>
    let body := arrowBody self noIn choosing head.isAsync head.params
    if choosing && head.isTyped then
      let found ← attempt do
        let e ← body
        unless ← isSign ":" do unexpected
        pure e
      if found.isNone then set start
      pure found
    else some <$> body

/-- An arrow function, if one begins here. -/
def arrow? (self : Self) (noIn choosing : Bool) : Reader (Option Expr) := do
  let t ← token
  let isAsync := Token.isWord t "async" && !t.next.afterNewline
  let beginsSingle (t : Token) : Bool := isIdentifier t.lexeme && t.next.lexeme == .sign "=>"
  if isAsync && beginsSingle t.next && !t.next.next.afterNewline then
    some <$> singleArrow self noIn choosing true
  else if beginsSingle t then some <$> singleArrow self noIn choosing false
  else
    match arrowStart (← dialect) (if isAsync then t.next else t) with
    | .never => pure none
    | .maybe => tryArrow self noIn choosing
    | .surely =>
      let head ← arrowHead self
      some <$> arrowBody self noIn false head.isAsync head.params

end AppMend.Script.Reader
