import AppMend.Script.Reader.Markup
import AppMend.Script.Reader.Statements

/-!
# The grammar of scripts

Here the rules are tied together: a rule that stands at one depth asks for others at the depth below. A
text is never deeper than it is long, so its length is depth enough.

`Script.read` reads a whole script: its directives, its statements and where they stand, and its
comments.
-/

namespace AppMend.Script

namespace Reader

/-- What a goal is read by, with a reader for the goals within it. -/
def rule (self : Self) {α : Type} : Goal α → Reader α
  | .expression noIn => expressionRule self noIn
  | .assignment noIn choosing => assignmentRule self noIn choosing
  | .unary => unaryRule self
  | .operand decorates => operandRule self decorates
  | .callee => calleeRule self
  | .statement place => statementRule self place
  | .binding => bindingRule self
  | .parameters role => parametersRule self role
  | .type => typeRule self
  | .typeOperand => typeOperandRule self
  | .element => elementRule self
  | .functionRest role isAsync isGenerator => functionRestRule self role isAsync isGenerator
  | .classRest ds => classRule self ds

/-- Reads any goal, with rules nested no deeper than `depth`. -/
def grammar (depth : Nat) {α : Type} (goal : Goal α) : Reader α :=
  match depth with
  | 0 => fail "Nested too deeply"
  | depth + 1 => rule (grammar depth) goal

end Reader

/-- A statement of a script: where it starts, where what it exports starts, and where it stops. -/
structure Item where
  start : Nat
  inner : Nat
  stop : Nat
  body : Stmt
deriving Inhabited

/-- A script as it was read. -/
structure Script where
  directives : List Directive
  items : List Item
  /-- The comments, each with the start of the token after it. -/
  comments : List (Nat × Comment)
  /-- The names that begin with an underscore. -/
  names : List String
  /-- The line that names what runs the script. -/
  runner : String
  /-- Where the script stops. -/
  stop : Nat

namespace Reader

/-- The token that a statement begins with, after any decorators of what it exports. -/
private def leadingToken (self : Self) : Reader Token := do
  let t ← token
  if t.lexeme == .sign "@" then
    let found ← lookAhead do
      let _ ← decorators self
      token
    pure (match found with
      | some u => if Token.isWord u "export" then u else t
      | none => t)
  else pure t

/-- Where what an export exports starts. -/
private def innerStart (t : Token) : Nat :=
  if t.lexeme == .word "export" then
    let next := t.next
    if next.lexeme == .word "default" then next.next.start else next.start
  else t.start

/-- A statement at the top of a script, with its place. -/
private def item (self : Self) : Reader (Option Directive × Item) := do
  let t ← leadingToken self
  let (directive?, body) ← mayDirect (self (.statement .list))
  pure (directive?, { start := t.start, inner := innerStart t, stop := (← get).prevStop, body })

/-- Reads statements up to the end of the text. -/
private def wholeScript (self : Self) (text : List Char) : Reader Script := do
  let found ← many (return (← token).lexeme != .finish) (item self)
  let (directives, items) := splitDirectives found
  let s ← get
  match s.complaints.reverse, s.covers with
  | f :: _, _ => throw f
  | [], pos :: _ => failAt pos "A default outside of a target"
  | [], [] =>
    pure
      { directives, items, comments := s.comments.reverse, names := s.names,
        runner := String.ofList (runnerLine text), stop := s.token.start }

/-- The rules for a text. Each character can open a few of them, one within the other. -/
private def grammarFor (text : List Char) : Self := grammar (8 * text.length + 64)

/-- The state before a text. -/
private def startOf (d : Dialect) (text : List Char) : State :=
  let t := firstToken text
  let s : State :=
    { dialect := d, token := t, prevStop := 0, mode := {}, size := text.length, comments := [] }
  s.enter t

end Reader

/-- Reads a script of a dialect. -/
def read (d : Dialect) (text : List Char) : Except Fault Script :=
  match Reader.wholeScript (Reader.grammarFor text) text (Reader.startOf d text) with
  | .ok (s, _) => .ok s
  | .error f => .error f

end AppMend.Script
