import AppMend.Script.Operator
import AppMend.Script.Reader.Arrows

/-!
# Reading expressions

From the weakest to the strongest: a sequence, an assignment or an arrow function, a choice, the binary
operators, the unary ones, calls and members, and what needs no operator.

A comment may mark a call as free of effects. It marks the first call of the operand that it stands
before, through what does not come before that call in the text.
-/

namespace AppMend.Script

/-- Changes how a function is marked. -/
def Function.changeTraits (change : FunctionTraits → FunctionTraits) : Function → Function
  | .mk traits name params directives body stop => .mk (change traits) name params directives body stop

/-- Marks a function as one whose calls have no effects. -/
def Function.markEffectFree : Function → Function := changeTraits ({ · with effectFree := true })

namespace Expr

/-- Marks the call that an expression begins with as free of effects. -/
def markPure : Expr → Expr
  | .call f args maybe _ stop => .call f args maybe true stop
  | .new f args _ stop => .new f args true stop
  | .binary op l r => .binary op l.markPure r
  | .conditional test yes no => .conditional test.markPure yes no
  | .chain (.call f args maybe _ stop) => .chain (.call f args maybe true stop)
  | .parens inner e => .parens inner e.markPure
  | e => e

/-- Changes how a function is marked. -/
private def changeTraits (change : FunctionTraits → FunctionTraits) : Expr → Expr
  | .function f => .function (f.changeTraits change)
  | .arrow f => .arrow (f.changeTraits change)
  | .arrowTo traits params body => .arrowTo (change traits) params body
  | e => e

/-- Marks a function as one whose calls have no effects. -/
def markEffectFree : Expr → Expr := changeTraits ({ · with effectFree := true })

/-- Marks a function as one that stands in parentheses of its own. -/
def markIsolated : Expr → Expr := changeTraits ({ · with isolated := true })

end Expr

namespace Reader

/-! ## Templates, arrays and objects -/

private def templateTail (self : Self) :
    Nat → List String → List Expr → Reader (List String × List Expr)
  | 0, _, _ => unexpected
  | fuel + 1, parts, holes => do
    let e ← self (.expression false)
    unless ← isSign closeBrace do unexpected
    replaceToken (← token).asTemplate
    match (← token).lexeme with
    | .template raw true => advance; pure ((raw :: parts).reverse, (e :: holes).reverse)
    | .template raw false => advance; templateTail self fuel (raw :: parts) (e :: holes)
    | _ => unexpected

/-- The raw parts of a template and its holes. -/
private def templateParts (self : Self) : Reader (List String × List Expr) := do
  match (← token).lexeme with
  | .template raw true => advance; pure ([raw], [])
  | .template raw false => advance; templateTail self (← roundsLeft) [raw] []
  | _ => unexpected

private def template (self : Self) : Reader Expr := do
  let pos := (← token).start
  let (parts, holes) ← templateParts self
  let areSound := parts.all fun raw => escapesAreSound (raw.length + 1) raw.toList
  complainIf (!areSound) pos "An escape in a template stands for nothing"
  pure (.template parts holes)

/-- An array, from its bracket on. -/
private def arrayLiteral (self : Self) : Reader Expr := do
  expectSign "["
  let (items, comma) ← commaList "]" do
    if ← isSign "," then pure .hole else spreadable self
  pure (.array items comma)

/-- What a key of an object is given, after the key that began with a token. -/
private def fieldOfObject (self : Self) (t : Token) (key : Expr) : Reader Member := do
  match key, isIdentifier t.lexeme && !(← isSign ":") with
  | .name x, true =>
    checkName x t.start
    noteName x
    if ← eatSign "=" then
      let e ← self (.assignment false false)
      modify fun s => { s with covers := t.start :: s.covers }
      pure (.withDefault t.start x e)
    else pure (.field key (.name x) true)
  | _, _ =>
    expectSign ":"
    let e ← self (.assignment false false)
    pure (.field key e false)

/-- A member of an object. -/
private def objectMember (self : Self) : Reader Member := do
  if ← eatSign "..." then .spread <$> self (.assignment false false)
  else
    let pos := (← token).start
    let isAsync ← atModifier ["async"]
    if isAsync then advance
    let isGetter := !isAsync && (← atAccessorWord "get")
    let isAccessor := isGetter || (!isAsync && (← atAccessorWord "set"))
    if isAccessor then advance
    let isGenerator ← if isAccessor then pure false else eatSign "*"
    let t ← token
    let key ← memberKey self
    match key with
    | .privateName _ => complainAt t.start "An object has no private names"
    | _ => pure ()
    let opens := (← isSign "(") || ((← dialect).types && (← isSign "<"))
    if isAccessor || isGenerator || isAsync || opens then
      let kind : MethodKind := if isGetter then .getter else if isAccessor then .setter else .plain
      let f ← wholeFunction self .objectMethod isAsync isGenerator none
      match f with
      | .mk _ _ params _ _ _ => checkAccessor kind params pos
      pure (.method kind key f)
    else fieldOfObject self t key

private def objectLiteral (self : Self) : Reader Expr := do
  expectSign openBrace
  let (members, comma) ← commaList closeBrace (objectMember self)
  pure (.object members comma)

/-! ## What needs no operator -/

private def functionExpression (self : Self) (isAsync : Bool) : Reader Expr := do
  expectWord "function"
  let isGenerator ← eatSign "*"
  let name ← inMode (fun m => { m with awaits := isAsync, yields := isGenerator }) (do
    if (← isSign "(") || (← isSign "<") then pure none else some <$> identifier)
  .function <$> wholeFunction self .expression isAsync isGenerator name

private def parenthesized (self : Self) : Reader Expr := do
  expectSign "("
  let inner := (← token).start
  let e ← self (.expression false)
  expectSign ")"
  pure (.parens inner e.markIsolated)

/-- What stands between the parentheses of an import on request. -/
private def importCall (self : Self) (stage : Option String) : Reader Expr := do
  let pos := (← token).start
  let args ← arguments self
  let spreads := args.any fun
    | .placed _ (.spread _) => true
    | _ => false
  complainIf (spreads || args.isEmpty || 2 < args.length) pos "An import takes one or two arguments"
  pure (.importCall stage args (← get).prevStop)

/-- What begins with the word `import` in an expression. -/
private def importExpression (self : Self) : Reader Expr := do
  expectWord "import"
  if ← eatSign "." then
    let word ← anyWord
    if word == "meta" then pure (.metaProperty "import.meta")
    else if word == "defer" || word == "source" then importCall self (some word)
    else unexpected
  else importCall self none

/-- An application of `new`, from that word on. -/
private def construction (self : Self) : Reader Expr := do
  expectWord "new"
  if ← eatSign "." then
    expectWord "target"
    pure (.metaProperty "new.target")
  else
    let pos := (← token).start
    let f ← self .callee
    match f with
    | .importCall .. => complainAt pos "An import cannot be constructed"
    | _ => pure ()
    let args ← if ← isSign "(" then arguments self else pure []
    pure (.new f args false (← get).prevStop)

/-- An expression that begins with a word. -/
private def wordExpression (self : Self) (x : String) : Reader Expr := do
  match x with
  | "this" => advance; pure .this
  | "null" => advance; pure .null
  | "true" => advance; pure (.bool true)
  | "false" => advance; pure (.bool false)
  | "super" =>
    advance
    if (← isSign "(") || (← isSign ".") || (← isSign "[") then pure .super else unexpected
  | "function" => functionExpression self false
  | "class" => .class <$> self (.classRest [])
  | "import" => importExpression self
  | "new" => construction self
  | _ =>
    let next ← peek
    if x == "async" && next.lexeme == .word "function" && !next.afterNewline then
      advance
      functionExpression self true
    else .name <$> identifier

/-- An expression that needs no operator. -/
private def primary (self : Self) : Reader Expr := do
  let t ← token
  match t.lexeme with
  | .number s => advance; pure (.number (numberValue s))
  | .bigint s => advance; pure (.bigint (bigintDigits s))
  | .string value => advance; pure (.string value)
  | .template .. => template self
  | .sign "/" | .sign "/=" =>
    replaceToken t.asRegex
    match (← token).lexeme with
    | .regex s => advance; pure (.regex (regexText s))
    | _ => unexpected
  | .sign "(" => parenthesized self
  | .sign "[" => arrayLiteral self
  | .sign "@" =>
    let ds ← decorators self
    .class <$> self (.classRest ds)
  | .sign s => if s == openBrace then objectLiteral self else unexpected
  | .word x => if t.escaped then .name <$> identifier else wordExpression self x
  | _ => unexpected

/-! ## Members and calls -/

/-- Whether a lexeme begins an expression, where it is no binary operator. -/
private def beginsExpression : Lexeme → Bool
  | .word x => !reservedWords.contains x ||
    ["this", "super", "null", "true", "false", "function", "class", "new", "delete", "typeof", "void",
      "import"].contains x
  | .privateName _ | .number _ | .bigint _ | .string _ | .template .. | .regex _ => true
  | .sign s => ["(", "[", openBrace, "/", "/=", "!", "~", "++", "--", "<", "@", "+", "-"].contains s
  | .finish | .broken => false

/-- Whether a lexeme may be a binary operator. -/
private def isOperator : Lexeme → Bool
  | .word x => ["in", "instanceof", "as", "satisfies"].contains x
  | .sign s => (binaryStrength? s).isSome
  | _ => false

/-- Type arguments, if what follows shows that their brackets are no signs of comparison. -/
private def typeArgumentsHere (self : Self) : Reader Bool := do
  let found ← attempt do
    typeArguments self
    let stop := (← get).prevStop
    let t ← token
    let joins : Bool := match t.lexeme with
      | .sign s => t.start == stop && (s.startsWith ">" || s.startsWith "=")
      | _ => false
    let calls : Bool := match t.lexeme with
      | .sign "(" | .template .. => true
      | _ => false
    let compares := [.sign "<", .sign ">", .sign "+", .sign "-"].contains t.lexeme
    unless !joins && !compares &&
        (calls || t.afterNewline || isOperator t.lexeme || !beginsExpression t.lexeme) do unexpected
  pure found.isSome

private def memberName : Reader String := do
  match (← token).lexeme with
  | .word x => advance; pure x
  | .privateName x => advance; pure ("#" ++ x)
  | _ => unexpected

/-- An index in brackets. -/
private def index (self : Self) : Reader Expr := do
  expectSign "["
  let i ← self (.expression false)
  expectSign "]"
  pure i

/-- What is called: without type arguments of its own, since those go to the call. -/
private def called : Expr → Expr
  | .instantiated e => e
  | e => e

private def isInstantiated : Expr → Bool
  | .instantiated _ => true
  | _ => false

/-- A link that may be missing, after its sign. -/
private def maybeLink (self : Self) (e : Expr) : Reader Expr := do
  if (← dialect).types && (← atTypeArguments) then
    typeArguments self
    unless ← isSign "(" do unexpected
  if ← isSign "(" then
    let args ← arguments self
    pure (.call e args true false (← get).prevStop)
  else if ← isSign "[" then return .index e (← index self) true
  else return .member e (← memberName) true

/-- What follows an expression on its own level: members, calls and templates. `noCall` leaves calls to
`new`, and `decorates` leaves brackets to what is decorated. The result tells whether a link that may be
missing was passed. -/
private def memberTail (self : Self) (noCall decorates : Bool) :
    Nat → Bool → Expr → Reader (Expr × Bool)
  | 0, _, _ => unexpected
  | fuel + 1, inChain, e => do
    let types := (← dialect).types
    let t ← token
    let pos := t.start
    match t.lexeme with
    | .sign "." =>
      complainIf (isInstantiated e) pos "A member cannot follow type arguments"
      advance
      let x ← memberName
      memberTail self noCall decorates fuel inChain (.member e x false)
    | .sign "?." =>
      complainIf (isInstantiated e) pos "A member cannot follow type arguments"
      complainIf noCall pos "What may be missing cannot be constructed"
      advance
      let e ← maybeLink self e
      memberTail self noCall decorates fuel true e
    | .sign "[" =>
      if decorates then pure (e, inChain)
      else
        let i ← index self
        memberTail self noCall decorates fuel inChain (.index e i false)
    | .sign "(" =>
      if noCall then pure (e, inChain)
      else
        let args ← arguments self
        let stop := (← get).prevStop
        memberTail self noCall decorates fuel inChain (.call (called e) args false false stop)
    | .template .. =>
      complainIf inChain pos "A template cannot follow what may be missing"
      let (parts, holes) ← templateParts self
      memberTail self noCall decorates fuel inChain (.tagged (called e) parts holes)
    | .sign "!" =>
      if types && !t.afterNewline then
        advance
        memberTail self noCall decorates fuel inChain (.typed e)
      else pure (e, inChain)
    | .sign "<" | .sign "<<" =>
      if types && (← typeArgumentsHere self) then
        memberTail self noCall decorates fuel inChain (.instantiated e)
      else pure (e, inChain)
    | _ => pure (e, inChain)

/-- What `new` is applied to: an expression with members and no calls. -/
def calleeRule (self : Self) : Reader Expr := do
  let e ← primary self
  let (e, _) ← memberTail self true false (← roundsLeft) false e
  pure (called e)

/-- An expression with members and calls. -/
def operandRule (self : Self) (decorates : Bool) : Reader Expr := do
  let e ← primary self
  let (e, inChain) ← memberTail self false decorates (← roundsLeft) false e
  pure (if inChain then .chain e else e)

/-! ## Unary operators -/

/-- What an operator is applied to, with what a comment before it says. -/
private def marked (p : Reader Expr) : Reader Expr := do
  let t ← token
  let e ← p
  pure (if t.marksPure then e.markPure else e)

/-- An operand with an operator after it, if there is one. -/
private def postfixed (self : Self) : Reader Expr := do
  let pos := (← token).start
  let e ← self (.operand false)
  let t ← token
  match t.lexeme with
  | .sign s =>
    if (s == "++" || s == "--") && !t.afterNewline then
      let _ ← simpleTarget pos e
      advance
      pure (.update s false e)
    else pure e
  | _ => pure e

/-- An operator before its operand. -/
private def prefixed (self : Self) (op : String) : Reader Expr := do
  advance
  .unary op <$> marked (self .unary)

/-- An assertion of a type, from its bracket on. -/
private def assertion (self : Self) : Reader Expr := do
  expectSign "<"
  let _ ← self .type
  expectSign ">"
  let inner := (← token).start
  .asserted inner <$> self .unary

/-- An expression with operators before it. -/
def unaryRule (self : Self) : Reader Expr := do
  let t ← token
  match t.lexeme with
  | .sign s =>
    if ["+", "-", "!", "~"].contains s then prefixed self s
    else if s == "++" || s == "--" then
      advance
      let pos := (← token).start
      let e ← self .unary
      let _ ← simpleTarget pos e
      pure (.update s true e)
    else if s == "<" && (← dialect).markup then self .element
    else if s == "<" && (← dialect).types then assertion self
    else postfixed self
  | .word x =>
    if t.escaped then postfixed self
    else if x == "typeof" || x == "void" || x == "delete" then prefixed self x
    else if x == "await" && (← mode).awaits then
      advance
      .await <$> marked (self .unary)
    else postfixed self
  | _ => postfixed self

/-! ## Binary operators -/

/-- The longest operator that begins with a greater-than sign, at the start of a text. -/
private def greaterSign (s : List Char) : String :=
  ([">>>=", ">>>", ">>=", ">>", ">="].find? fun l => l.toList.isPrefixOf s).getD ">"

/-- Puts the operator together that a greater-than sign begins. -/
private def joinGreater : Reader Unit := do
  let t ← token
  if t.lexeme == .sign ">" then
    let s := greaterSign t.text
    replaceToken { t with lexeme := .sign s, stop := t.start + s.length, rest := t.text.drop s.length }

/-- The binary operator that the token is. -/
private def binaryOperator? (noIn : Bool) : Reader (Option String) := do
  joinGreater
  match (← token).lexeme with
  | .sign s => pure (if (binaryStrength? s).isSome then some s else none)
  | .word x => pure (if x == "instanceof" || (x == "in" && !noIn) then some x else none)
  | _ => pure none

private def isBareLogical : Expr → Bool
  | .binary op _ _ => op == "&&" || op == "||"
  | _ => false

private def isBareUnary : Expr → Bool
  | .unary .. | .await _ | .asserted .. => true
  | _ => false

/-- Complains of operators that are mixed without parentheses. -/
private def checkMixed (op : String) (l r : Expr) (pos : Nat) : Reader Unit := do
  complainIf (op == "??" && (isBareLogical l || isBareLogical r)) pos "Operators need parentheses"
  complainIf (op == "**" && isBareUnary l) pos "An operand needs parentheses"

/-- How strongly the operators bind that compare, or that give an expression a type. -/
private def comparing : Nat := (binaryStrength? "in").getD 0

/-- Whether an operator leaves the operand before it to one that binds with a given strength. -/
private def yieldsTo (strength : Nat) (op : String) : Bool :=
  let own := (binaryStrength? op).getD 0
  own < strength || (own == strength && !groupsRight op)

mutual

/-- An operand and what follows it, as far as operators bind more strongly than those before it. -/
private def binaryFrom (self : Self) (noIn : Bool) : Nat → Nat → Reader Expr
  | 0, _ => unexpected
  | fuel + 1, strength => do
    let t ← token
    match t.lexeme with
    | .privateName x =>
      if noIn || comparing ≤ strength || t.next.lexeme != .word "in" then unexpected
      advance
      advance
      let r ← binaryFrom self noIn fuel comparing
      binaryRest self noIn fuel strength (.binary "in" (.privateName x) r)
    | _ =>
      let l ← marked (self .unary)
      binaryRest self noIn fuel strength l

private def binaryRest (self : Self) (noIn : Bool) : Nat → Nat → Expr → Reader Expr
  | 0, _, _ => unexpected
  | fuel + 1, strength, l => do
    let pos := (← token).start
    let givesType :=
      (← dialect).types && !(← onNewLine) && ((← isWord "as") || (← isWord "satisfies"))
    if givesType then
      if comparing ≤ strength then pure l
      else
        advance
        let _ ← self .type
        binaryRest self noIn fuel strength (.typed l)
    else
      match ← binaryOperator? noIn with
      | none => pure l
      | some op =>
        if yieldsTo strength op then pure l
        else
          advance
          let r ← binaryFrom self noIn fuel ((binaryStrength? op).getD 0)
          checkMixed op l r pos
          binaryRest self noIn fuel strength (.binary op l r)

end

/-! ## Choices, assignments and sequences -/

private def yieldExpression (self : Self) (noIn : Bool) : Reader Expr := do
  expectWord "yield"
  if ← onNewLine then pure (.yield false none)
  else if ← eatSign "*" then
    let e ← self (.assignment noIn false)
    pure (.yield true (some e))
  else
    let ends : Bool := match (← token).lexeme with
      | .sign s => [")", "]", closeBrace, ",", ";", ":"].contains s
      | .word x => x == "in" || x == "of"
      | .finish => true
      | _ => false
    if ends then pure (.yield false none)
    else
      let e ← self (.assignment noIn false)
      pure (.yield false (some e))

/-- A choice, if there is one after its test. -/
private def choiceIfAny (self : Self) (noIn choosing : Bool) (test : Expr) : Reader Expr := do
  if ← eatSign "?" then
    let yes ← self (.assignment false true)
    expectSign ":"
    let no ← self (.assignment noIn choosing)
    pure (.conditional test yes no)
  else pure test

/-- The sign of an assignment that the token is. -/
private def assignmentSign? : Reader (Option String) := do
  match (← token).lexeme with
  | .sign s => pure (if assignmentSigns.contains s then some s else none)
  | _ => pure none

/-- An expression without commas. -/
def assignmentRule (self : Self) (noIn choosing : Bool) : Reader Expr := do
  let t ← token
  if Token.isWord t "yield" && (← mode).yields then yieldExpression self noIn
  else
    match ← arrow? self noIn choosing with
    | some e => pure (if t.marksEffectFree then e.markEffectFree else e)
    | none =>
      let l ← binaryFrom self noIn (← roundsLeft) 0
      match ← assignmentSign? with
      | some op =>
        let p ← if op == "=" then targetOf t.start false l else simpleTarget t.start l
        advance
        let r ← self (.assignment noIn choosing)
        pure (.assign op p r)
      | none =>
        let e ← choiceIfAny self noIn choosing l
        let e := if t.marksPure then e.markPure else e
        pure (if t.marksEffectFree then e.markEffectFree else e)

/-- An expression with commas. -/
def expressionRule (self : Self) (noIn : Bool) : Reader Expr := do
  let es ← oneOrMore (self (.assignment noIn false))
  match es with
  | [e] => pure e
  | es => pure (.sequence es)

end Reader

end AppMend.Script
