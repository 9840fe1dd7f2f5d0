import AppMend.Script.Syntax
import AppMend.Script.Token

/-!
# Reading scripts

A reader takes a token and what was gathered so far to a value and the next token, or to a fault. It
may be tried and given up, because the text after any token is kept with the token. What is wrong but
does not keep a reader from going on is a complaint: it is put down, and a script with a complaint
counts as unreadable in the end.

The rules of the grammar call each other in circles. Each rule is therefore written with a parameter
`self` that reads any `Goal`, and only `Grammar` ties the knot: a rule at one depth calls rules at the
depth below.
-/

namespace AppMend.Script

/-- What a script may hold. -/
structure Dialect where
  /-- Types and what declares them. -/
  types : Bool
  /-- Elements. -/
  markup : Bool
deriving DecidableEq, Inhabited

/-- Why and where a script could not be read. -/
structure Fault where
  message : String
  pos : Nat
deriving DecidableEq, Inhabited

namespace Reader

/-- What the functions around a place allow. -/
structure Mode where
  /-- Whether a function may be returned from. -/
  returns : Bool := false
  /-- Whether `await` is an operator. -/
  awaits : Bool := true
  /-- Whether `yield` is an operator. -/
  yields : Bool := false
  /-- Within a declaration that only describes what exists elsewhere. -/
  ambient : Bool := false
  /-- Where a conditional type may not begin. -/
  noConditional : Bool := false
deriving Inhabited

structure State where
  dialect : Dialect
  token : Token
  /-- Where the token before ended. -/
  prevStop : Nat
  mode : Mode
  /-- The length of the whole text. -/
  size : Nat
  /-- The comments passed so far, the last one first, each with the start of the token after it. -/
  comments : List (Nat × Comment)
  /-- Where a name in an object was given a default, as only a target of an assignment may have it. -/
  covers : List Nat := []
  complaints : List Fault := []
  /-- The names that begin with an underscore. -/
  names : List String := []
deriving Inhabited

/-- A state that goes on with a token. -/
def State.enter (s : State) (t : Token) : State :=
  { s with token := t, comments := t.comments.foldl (fun cs c => (t.start, c) :: cs) s.comments }

end Reader

/-- What reads a value of a type. -/
abbrev Reader (α : Type) := StateT Reader.State (Except Fault) α

namespace Reader

def token : Reader Token := return (← get).token

def dialect : Reader Dialect := return (← get).dialect

def mode : Reader Mode := return (← get).mode

def failAt (pos : Nat) (message : String) : Reader α := throw ⟨message, pos⟩

def fail (message : String) : Reader α := do failAt (← token).start message

def unexpected : Reader α := do
  let t ← token
  match t.lexeme with
  | .finish => fail "Unexpected end of file"
  | _ => fail "Unexpected token"

/-- Puts down what is wrong, and goes on. -/
def complainAt (pos : Nat) (message : String) : Reader Unit := modify fun s =>
  { s with complaints := ⟨message, pos⟩ :: s.complaints }

def complain (message : String) : Reader Unit := do complainAt (← token).start message

/-- Complains if something is the case. -/
def complainIf (wrong : Bool) (pos : Nat) (message : String) : Reader Unit := do
  if wrong then complainAt pos message

/-- Goes on to the next token. -/
def advance : Reader Unit := modify fun s => { s.enter s.token.next with prevStop := s.token.stop }

/-- Puts another reading of the current token in its place. -/
def replaceToken (t : Token) : Reader Unit := modify fun s => { s with token := t }

/-- Reads with a changed mode. -/
def inMode (f : Mode → Mode) (p : Reader α) : Reader α := do
  let m ← mode
  modify fun s => { s with mode := f s.mode }
  let a ← p
  modify fun s => { s with mode := m }
  pure a

/-- Reads if it can, and otherwise stays where it was. -/
def attempt (p : Reader α) : Reader (Option α) := fun s =>
  match p s with
  | .ok (a, s') => .ok (some a, s')
  | .error _ => .ok (none, s)

/-- The result of a reading, without going on. -/
def lookAhead (p : Reader α) : Reader (Option α) := fun s =>
  match p s with
  | .ok (a, _) => .ok (some a, s)
  | .error _ => .ok (none, s)

/-- Whether a reading finds something, without going on. -/
def foresees (p : Reader Bool) : Reader Bool := return (← lookAhead p).getD false

/-! ## Single tokens -/

def openBrace : String := "\x7b"
def closeBrace : String := "\x7d"

def isSign (x : String) : Reader Bool := return (← token).lexeme == .sign x

/-- Whether a token is a word that is not written with escapes. -/
def Token.isWord (t : Token) (x : String) : Bool := t.lexeme == .word x && !t.escaped

def isWord (x : String) : Reader Bool := return Token.isWord (← token) x

/-- Goes past a sign if it is there. -/
def eatSign (x : String) : Reader Bool := do
  if ← isSign x then advance; pure true else pure false

/-- Goes past a word if it is there. -/
def eatWord (x : String) : Reader Bool := do
  if ← isWord x then advance; pure true else pure false

def expectSign (x : String) : Reader Unit := do unless ← eatSign x do unexpected

def expectWord (x : String) : Reader Unit := do unless ← eatWord x do unexpected

/-- The token after the current one. -/
def peek : Reader Token := return (← token).next

/-- Whether the current token begins a line. -/
def onNewLine : Reader Bool := return (← token).afterNewline

/-- Whether a statement may end here. -/
def canEndStatement : Reader Bool := do
  let t ← token
  return t.afterNewline || t.lexeme == .sign closeBrace || t.lexeme == .finish || t.lexeme == .sign ";"

/-- Ends a statement: by a semicolon, or where a line or a block ends. -/
def endStatement : Reader Unit := do
  if ← eatSign ";" then pure ()
  else unless ← canEndStatement do unexpected

/-! ## Repetition -/

/-- Reads rounds while the test holds, at most `fuel` of them. -/
def whileDo (test : Reader Bool) (round : Reader α) : Nat → List α → Reader (List α)
  | 0, done => pure done.reverse
  | fuel + 1, done => do
    if ← test then
      let a ← round
      whileDo test round fuel (a :: done)
    else pure done.reverse

/-- A bound on the rounds that the text left allows. -/
def roundsLeft : Reader Nat := do
  let s ← get
  return s.size + 2 - s.token.start

/-- Items while a test holds. -/
def many (test : Reader Bool) (round : Reader α) : Reader (List α) := do
  whileDo test round (← roundsLeft) []

/-- Items with commas between them up to a closing sign, which is passed; and whether a comma followed
the last one. -/
def commaList (close : String) (item : Reader α) : Reader (List α × Bool) := do
  let items ← many (return !(← isSign close)) do
    let a ← item
    if ← isSign close then pure (a, false)
    else
      expectSign ","
      pure (a, true)
  expectSign close
  pure (items.map (·.1), (items.getLast?.map (·.2)).getD false)

/-- Items with commas between them up to a closing sign, which is passed. -/
def listUntil (close : String) (item : Reader α) : Reader (List α) := (·.1) <$> commaList close item

/-- One item and further ones, each after a comma. -/
def oneOrMore (item : Reader α) : Reader (List α) := do
  let first ← item
  let rest ← many (isSign ",") do
    advance
    item
  pure (first :: rest)

/-! ## Names -/

/-- Words that are never identifiers. -/
def reservedWords : List String := [
  "break", "case", "catch", "class", "const", "continue", "debugger", "default", "delete", "do",
  "else", "enum", "export", "extends", "false", "finally", "for", "function", "if", "import", "in",
  "instanceof", "new", "null", "return", "super", "switch", "this", "throw", "true", "try",
  "typeof", "var", "void", "while", "with"]

/-- Whether a lexeme may be an identifier. -/
def isIdentifier : Lexeme → Bool
  | .word x => !reservedWords.contains x
  | _ => false

/-- Whether a lexeme is a word, reserved or not. -/
def isAnyWord : Lexeme → Bool
  | .word _ => true
  | _ => false

/-- Puts a name down. -/
def noteName (x : String) : Reader Unit := do
  if x.startsWith "_" then modify fun s => { s with names := x :: s.names }

/-- Complains of a name that is an operator here. -/
def checkName (x : String) (pos : Nat) : Reader Unit := do
  let m ← mode
  complainIf ((x == "await" && m.awaits) || (x == "yield" && m.yields)) pos "Identifier expected"

def identifier : Reader String := do
  let t ← token
  match t.lexeme with
  | .word x =>
    if reservedWords.contains x then unexpected
    else
      checkName x t.start
      noteName x
      advance
      pure x
  | _ => unexpected

/-- Any word, reserved or not. -/
def anyWord : Reader String := do
  match (← token).lexeme with
  | .word x => advance; pure x
  | _ => unexpected

end Reader

/-! ## Goals -/

/-- What a function belongs to. -/
inductive FunctionRole where
  | declaration
  | expression
  | arrow
  | construct
  | method
  /-- A method of an object, as against one of a class. -/
  | objectMethod
  /-- The type of a function. -/
  | signature
deriving DecidableEq

/-- What stands between the parentheses of a function. -/
structure Parameters where
  list : List Pattern
  /-- Whether the type of `this` stands before them. -/
  typesThis : Bool

/-- The body of a function. -/
structure Body where
  directives : List Directive
  statements : List Stmt
  stop : Nat

/-- A function after its name; without a body it is a signature. -/
structure FunctionParts where
  params : List Pattern
  body : Option Body

/-- What a statement may be, by where it stands. -/
inductive StatementPlace where
  /-- In a list of statements. -/
  | list
  /-- Held by another statement. -/
  | held
deriving DecidableEq

/-- What matters of a type to the types around it. -/
inductive TypeShape where
  /-- An array or a tuple. -/
  | list
  /-- A type with a question mark after it. -/
  | maybe
  | plain
deriving DecidableEq, Inhabited

/-- What a rule may ask another to read. -/
inductive Goal : Type → Type where
  /-- An expression with commas; `noIn` where an operator `in` would be that of a loop. -/
  | expression (noIn : Bool) : Goal Expr
  /-- An expression without commas; `choosing` where a colon may go on a choice. -/
  | assignment (noIn choosing : Bool) : Goal Expr
  | unary : Goal Expr
  /-- An expression with members and calls; a decorator has no bracket after it. -/
  | operand (decorates : Bool) : Goal Expr
  /-- What `new` is applied to. -/
  | callee : Goal Expr
  | statement (place : StatementPlace) : Goal Stmt
  | binding : Goal Pattern
  | parameters (role : FunctionRole) : Goal Parameters
  | type : Goal TypeShape
  /-- An operand of a union or an intersection of types. -/
  | typeOperand : Goal TypeShape
  /-- An element, from its opening sign on. -/
  | element : Goal Expr
  /-- A function from its type parameters on. -/
  | functionRest (role : FunctionRole) (isAsync isGenerator : Bool) : Goal FunctionParts
  /-- A class, from its word on, with the decorators before it. -/
  | classRest (decorators : List Expr) : Goal Class

/-- What reads any goal. -/
abbrev Self := {α : Type} → Goal α → Reader α

end AppMend.Script
