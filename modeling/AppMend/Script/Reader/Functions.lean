import AppMend.Script.Reader.Patterns

/-!
# Reading functions

Arguments, parameters and bodies. A function without a body is a signature, which some functions in a
script with types may be.
-/

namespace AppMend.Script

/-- A function of a body. -/
def Body.function (b : Body) (traits : FunctionTraits) (name : Option String) (params : List Pattern) :
    Function :=
  .mk traits name params b.directives b.statements b.stop

/-- Whether a function of a role may be without a body. -/
def FunctionRole.mayBeSignature : FunctionRole → Bool
  | .declaration | .method | .construct => true
  | _ => false

namespace Reader

/-! ## Arguments and decorators -/

/-- An item of an array or an argument. -/
def spreadable (self : Self) : Reader Expr := do
  if ← eatSign "..." then .spread <$> self (.assignment false false)
  else self (.assignment false false)

/-- Arguments in parentheses. -/
def arguments (self : Self) : Reader (List Expr) := do
  expectSign "("
  listUntil ")" do
    let start := (← token).start
    let e ← spreadable self
    pure (.placed start e)

def decorators (self : Self) : Reader (List Expr) :=
  many (isSign "@") do
    advance
    self (.operand true)

/-! ## Parameters -/

/-- The words that make a parameter of a constructor a field. -/
def fieldModifiers : List String := accessWords ++ ["readonly", "override"]

/-- The question mark, the type and the default of a parameter. -/
private def parameterTail (self : Self) (isRest : Bool) (p : Pattern) : Reader Pattern := do
  let types := (← dialect).types
  let pos := (← token).start
  let maybe ← if types then eatSign "?" else pure false
  if types then annotationIfAny self
  let hasDefault ← isSign "="
  complainIf (maybe && (hasDefault || isRest)) pos "A parameter that is missing and given"
  complainIf (hasDefault && isRest) pos "A rest has no default"
  withDefaultIfAny self p

private def parameter (self : Self) (role : FunctionRole) : Reader Pattern := do
  let ds ← decorators self
  let pos := (← token).start
  let ms ← if (← dialect).types then modifiersOf allModifiers else pure []
  checkModifiers (if role == .construct then fieldModifiers else []) ms
  let isRest ← eatSign "..."
  let bound ← self .binding
  let isName : Bool := match bound with
    | .name _ => true
    | _ => false
  complainIf (!ms.isEmpty && (isRest || !isName)) pos "A field must have one name"
  let p ← parameterTail self isRest bound
  if isRest then
    unless ← isSign ")" do fail "A rest must be the last"
  let p := if isRest then .rest p else p
  let p := if ms.isEmpty then p else .property p
  pure (if ds.isEmpty then p else .decorated ds p)

/-- Parameters in parentheses; the type of `this` may stand before them. -/
def parametersRule (self : Self) (role : FunctionRole) : Reader Parameters := do
  expectSign "("
  let typesThis := (← dialect).types && (← isWord "this")
  if typesThis then
    advance
    annotationIfAny self
    unless ← isSign ")" do expectSign ","
  let list ← listUntil ")" (parameter self role)
  pure { list, typesThis }

/-! ## Bodies -/

/-- The directive that a statement is, when a token begins it. -/
private def directive? (t : Token) (s : Stmt) : Option Directive :=
  match t.lexeme, s.bare with
  | .string _, .expr (.string _) =>
    some ⟨t.start, String.ofList ((t.text.drop 1).take (t.stop - t.start - 2))⟩
  | _, _ => none

/-- Takes the directives at the head of what was read apart from the rest. -/
def splitDirectives (found : List (Option Directive × α)) : List Directive × List α :=
  let heads := found.takeWhile fun (d, _) => d.isSome
  (heads.filterMap (·.1), (found.drop heads.length).map (·.2))

/-- A statement, as a directive if it may be one. -/
def mayDirect (statement : Reader Stmt) : Reader (Option Directive × Stmt) := do
  let t ← token
  let s ← statement
  pure (directive? t s, s)

/-- A body in braces, with its directives. -/
def bracedBody (self : Self) : Reader Body := do
  expectSign openBrace
  let found ← many (return !(← isSign closeBrace)) (mayDirect (self (.statement .list)))
  expectSign closeBrace
  let (directives, statements) := splitDirectives found
  pure { directives, statements, stop := (← get).prevStop }

/-- The statements in braces. -/
def bracedStatements (self : Self) : Reader (List Stmt) := do
  expectSign openBrace
  let body ← many (return !(← isSign closeBrace)) (self (.statement .list))
  expectSign closeBrace
  pure body

/-! ## Functions -/

/-- The mode within a function. -/
def Mode.within (isAsync isGenerator : Bool) (m : Mode) : Mode :=
  { m with awaits := isAsync, yields := isGenerator, returns := true }

/-- A function after its name: type parameters, parameters, what it returns, and its body. -/
def functionRestRule (self : Self) (role : FunctionRole) (isAsync isGenerator : Bool) :
    Reader FunctionParts := do
  let types := (← dialect).types
  inMode (Mode.within isAsync isGenerator) do
    let pos := (← token).start
    complainIf (role == .construct && types && (← isSign "<")) pos "A constructor has no type parameters"
    if types then typeParametersIfAny self
    let { list, typesThis } ← self (.parameters role)
    complainIf (role == .construct && (typesThis || (← isSign ":"))) pos "A constructor returns its object"
    if types then returnAnnotationIfAny self
    if ← isSign openBrace then
      if (← mode).ambient then complain "What exists elsewhere has no body here"
      let body ← bracedBody self
      pure { params := list, body := some body }
    else
      unless types && role.mayBeSignature do unexpected
      endStatement
      pure { params := list, body := none }

/-- A function that has to have a body. -/
def wholeFunction (self : Self) (role : FunctionRole) (isAsync isGenerator : Bool)
    (name : Option String) : Reader Function := do
  let parts ← self (.functionRest role isAsync isGenerator)
  match parts.body with
  | some body => pure (body.function { isAsync, isGenerator } name parts.params)
  | none => unexpected

/-- Complains of the wrong number of parameters of a getter or a setter. -/
def checkAccessor (kind : MethodKind) (params : List Pattern) (pos : Nat) : Reader Unit := do
  match kind, params with
  | .plain, _ | .getter, [] => pure ()
  | .getter, _ => complainAt pos "A getter has no parameters"
  | .setter, [.rest _] => complainAt pos "A setter has no rest"
  | .setter, [_] => pure ()
  | .setter, _ => complainAt pos "A setter has one parameter"

end Reader

end AppMend.Script
