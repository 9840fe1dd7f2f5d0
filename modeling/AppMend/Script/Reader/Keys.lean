import AppMend.Script.Literal
import AppMend.Script.Reader.Basic

/-!
# Reading keys and modifiers

The key of a member, and the words that may stand before it. A word is a modifier only if what follows
it may be modified, and so most of these words may be keys as well.
-/

namespace AppMend.Script.Reader

/-! ## Keys -/

/-- Whether a lexeme begins a key. -/
def startsKey : Lexeme → Bool
  | .word _ | .privateName _ | .string _ | .number _ | .bigint _ | .sign "[" => true
  | _ => false

/-- The key of a member. -/
def memberKey (self : Self) : Reader Expr := do
  match (← token).lexeme with
  | .word x => advance; pure (.name x)
  | .privateName x => advance; pure (.privateName x)
  | .string value => advance; pure (.string value)
  | .number s => advance; pure (.number (numberValue s))
  | .bigint s => advance; pure (.bigint (bigintDigits s))
  | .sign "[" =>
    advance
    let e ← self (.assignment false false)
    expectSign "]"
    pure (.computed e)
  | _ => unexpected

/-- Whether a key is a given name or string. -/
def isKey (x : String) : Expr → Bool
  | .name y => x == y
  | .string value => value == pointsOf x
  | _ => false

/-! ## Modifiers -/

/-- A word that modifies what follows it, and its place. -/
structure Modifier where
  word : String
  pos : Nat
deriving DecidableEq

/-- Words that say from where a member may be used. -/
def accessWords : List String := ["public", "private", "protected"]

/-- Words that modify members in a script with types. -/
def typeModifiers : List String := accessWords ++ ["readonly", "override", "abstract", "declare"]

/-- Words that modify something in a script with types. -/
def allModifiers : List String := ["static", "async", "accessor"] ++ typeModifiers

/-- Whether a lexeme may follow a modifier. -/
def mayBeModified (l : Lexeme) : Bool :=
  startsKey l || [.sign openBrace, .sign "*", .sign "..."].contains l

/-- Whether the token modifies what follows it. What is modified stands on the line of its modifier,
unless that is `static`. -/
def atModifier (words : List String) : Reader Bool := do
  let t ← token
  match t.lexeme with
  | .word x =>
    let next := t.next
    pure (words.contains x && !t.escaped && mayBeModified next.lexeme &&
      (x == "static" || !next.afterNewline))
  | _ => pure false

/-- Whether the token is a given word that modifies what follows it. A sign that marks a generator
cannot be modified by it. -/
def atAccessorWord (x : String) : Reader Bool := do
  if ← isWord x then
    let next := (← peek).lexeme
    pure (startsKey next || next == .sign openBrace)
  else pure false

/-- The words that a modifier cannot come after. -/
def cannotFollow (x : String) : List String :=
  match x with
  | "public" | "private" | "protected" =>
    accessWords ++ ["override", "static", "accessor", "readonly", "async", "abstract"]
  | "static" => ["readonly", "async", "accessor", "abstract", "override"]
  | "override" => ["declare", "readonly", "accessor", "async"]
  | "accessor" => ["readonly", "declare"]
  | "readonly" => ["accessor"]
  | "declare" => ["async", "override", "accessor"]
  | "abstract" => ["static", "private", "async", "override", "accessor"]
  | "async" => ["declare", "abstract"]
  | "in" => ["out"]
  | _ => []

/-- Complains of modifiers that come twice or out of order. -/
def checkOrder : List Modifier → List Modifier → Reader Unit
  | _, [] => pure ()
  | before, m :: more => do
    complainIf (before.any fun b => b.word == m.word || (cannotFollow m.word).contains b.word) m.pos
      "A modifier is out of place"
    checkOrder (m :: before) more

/-- Complains of modifiers that are not among those allowed. -/
def checkModifiers (allowed : List String) (ms : List Modifier) : Reader Unit :=
  ms.forM fun m => complainIf (!allowed.contains m.word) m.pos "A modifier cannot be used here"

/-- A modifier, where one stands. -/
private def modifier : Reader Modifier := do
  let pos := (← token).start
  let word ← anyWord
  pure { word, pos }

/-- The modifiers here, for as long as a test holds. -/
def modifiersWhile (test : Reader Bool) : Reader (List Modifier) := do
  let ms ← many test modifier
  checkOrder [] ms
  pure ms

/-- The modifiers here, of some words. -/
def modifiersOf (words : List String) : Reader (List Modifier) := modifiersWhile (atModifier words)

/-- The modifiers of a member. A second `static` is its key, and one with a brace after it begins a
block. -/
def memberModifiers : Reader (List Modifier) := do
  let words := ["async", "accessor"] ++ (if (← dialect).types then typeModifiers else [])
  let before ← many (atModifier words) modifier
  let isStatic := (← atModifier ["static"]) && (← peek).lexeme != .sign openBrace
  let more ← (do
    if isStatic then
      let m ← modifier
      let after ← many (atModifier words) modifier
      pure (m :: after)
    else pure [])
  checkOrder [] (before ++ more)
  pure (before ++ more)

end AppMend.Script.Reader
