import AppMend.Script.Entity
import AppMend.Script.Reader.Functions

/-!
# Reading elements

An element with its tag, its attributes and its contents. Between the tags stands text, which is no
sequence of tokens: the last sign of a tag or of a stretch in braces stays the current token until it is
known what follows it.
-/

namespace AppMend.Script.Reader

/-! ## Places within markup -/

/-- A sign of one character at a place. -/
private def signToken (pos : Nat) (s : List Char) : Token where
  lexeme := match s with
    | c :: _ => .sign (String.singleton c)
    | [] => .finish
  start := pos
  stop := pos + 1
  afterNewline := false
  comments := []
  escaped := false
  text := s
  rest := s.drop 1

/-- Goes on with the text after the first `n` characters of the current token. -/
private def passChars (n : Nat) : Reader Unit := modify fun s =>
  let t := s.token
  { s.enter (tokenAfter .finish false (t.start + n) (t.text.drop n)) with prevStop := t.start + n }

/-! ## Names -/

/-- The name of a tag: as it is written, and the expression it stands for. -/
private structure TagName where
  text : String
  expr : Expr

private def rawName : Reader String := do
  let t ← token
  match t.lexeme with
  | .word _ =>
    let name := t.text.takeWhile fun c => Text.isIdContinue c || c == '-'
    passChars name.length
    pure (String.ofList name)
  | _ => unexpected

/-- Further names after points. -/
private def memberNames : Nat → TagName → Reader TagName
  | 0, _ => unexpected
  | fuel + 1, tag => do
    if ← eatSign "." then
      let x ← rawName
      memberNames fuel ⟨tag.text ++ "." ++ x, .member tag.expr x false⟩
    else pure tag

/-- Whether a name is that of an element of the page, and not of a component. -/
private def isPageElement (name : String) : Bool :=
  name.toList.contains '-' || ((name.toList.head?).map Char.isLower).getD false

/-- The name of a tag. The name of an element of the page stands for itself, and so does a name with a
colon; any other stands for what it refers to. -/
private def tagName : Reader TagName := do
  let x ← rawName
  noteName x
  let own : Expr := if x == "this" then .this else .name x
  if ← eatSign ":" then
    let y ← rawName
    let name := x ++ ":" ++ y
    pure ⟨name, .string (pointsOf name)⟩
  else if ← isSign "." then memberNames (← roundsLeft) ⟨x, own⟩
  else if x != "this" && isPageElement x then pure ⟨x, .string (pointsOf x)⟩
  else pure ⟨x, own⟩

private def attributeName : Reader String := do
  let x ← rawName
  if ← eatSign ":" then
    let y ← rawName
    pure (x ++ ":" ++ y)
  else pure x

/-! ## Attributes -/

/-- What stands between braces, with its place: it counts as standing in parentheses. The closing brace
stays the current token. -/
private def bracedPart (self : Self) : Reader (Option Expr) := do
  let brace := (← token).start
  expectSign openBrace
  if ← isSign closeBrace then pure none
  else
    let isSpread ← eatSign "..."
    let start := (← token).start
    let e ← self (.expression false)
    unless ← isSign closeBrace do unexpected
    pure (some (if isSpread then .placed brace (.spread e) else .placed start (.parens start e)))

/-- The text of an attribute in quotation marks. -/
private def attributeText (mark : Char) : Reader Expr := do
  let s := (← token).text.drop 1
  let value := s.takeWhile (· != mark)
  if value.length == s.length then unexpected
  passChars (value.length + 2)
  pure (.string (pointsOf (String.ofList (decodeEntities value))))

/-- The value of an attribute after its equality sign. -/
private def attributeValue (self : Self) : Reader Expr := do
  match (← token).text.head? with
  | some '"' => attributeText '"'
  | some '\'' => attributeText '\''
  | some '<' => self .element
  | _ =>
    match ← bracedPart self with
    | some (.placed _ (.spread _)) | none => unexpected
    | some (.placed _ e) | some e =>
      advance
      pure e

/-- An attribute, or an object whose members are attributes. -/
private def tagAttribute (self : Self) : Reader Member := do
  if ← isSign openBrace then
    match ← bracedPart self with
    | some (.placed _ (.spread e)) =>
      advance
      pure (.spread e)
    | _ => unexpected
  else
    let x ← attributeName
    let key : Expr :=
      if x.toList.any fun c => c == '-' || c == ':' then .string (pointsOf x) else .name x
    if ← eatSign "=" then
      let e ← attributeValue self
      pure (.slot false key (some e))
    else pure (.slot false key none)

/-- Attributes up to a closing sign. -/
private def attributes (self : Self) : Reader (List Member) :=
  many (return isAnyWord (← token).lexeme || (← isSign openBrace)) (tagAttribute self)

/-! ## Contents -/

/-- Text up to the next brace or tag, from the current token's end on. -/
private def contentText : Reader (Option Expr) := do
  let t ← token
  let s := t.rest.takeWhile fun c => c != '<' && c != '\x7b'
  if s.any fun c => c == '>' || c == '\x7d' then failAt t.stop "Unexpected token"
  let pos := t.stop + s.length
  modify fun st => { st with token := signToken pos (t.rest.drop s.length), prevStop := pos }
  pure ((markupText? s).map fun x => .placed t.stop (.string (pointsOf x)))

/-- The closing tag after its slash, as far as its name; its last sign stays the current token. -/
private def closingTag : Reader String := do
  let name ← if ← isSign ">" then pure "" else (·.text) <$> tagName
  unless ← isSign ">" do unexpected
  pure name

/-- What stands between the tags of an element, and the name in its closing tag. -/
private structure Contents where
  children : List Expr
  closing : String

mutual

/-- An element, with at most `fuel` elements and stretches of content in it. Its last sign stays the
current token. -/
private def elementParts (self : Self) : Nat → Reader Expr
  | 0 => unexpected
  | fuel + 1 => do
    let start := (← token).start
    expectSign "<"
    if ← isSign ">" then
      let { children, closing } ← contents self fuel
      complainIf (closing != "") start "The closing tag does not match"
      pure (.fragment start (← token).stop children)
    else
      let pos := (← token).start
      let name ← tagName
      if (← dialect).types && (← atTypeArguments) then typeArguments self
      let attrs ← attributes self
      if ← eatSign "/" then
        unless ← isSign ">" do unexpected
        pure (.element start (← token).stop (.placed pos name.expr) attrs [])
      else
        unless ← isSign ">" do unexpected
        let { children, closing } ← contents self fuel
        complainIf (closing != name.text) start "The closing tag does not match"
        pure (.element start (← token).stop (.placed pos name.expr) attrs children)

/-- The contents of an element from the end of its opening tag on. -/
private def contents (self : Self) : Nat → Reader Contents
  | 0 => unexpected
  | fuel + 1 => do
    let text ← contentText
    let before (found : Option Expr) (rest : Contents) : Contents :=
      { rest with children := text.toList ++ found.toList ++ rest.children }
    if ← isSign openBrace then
      let e ← bracedPart self
      before e <$> contents self fuel
    else
      let t ← token
      let next := t.next.lexeme
      if next == .sign "/" || next == .sign "/=" then
        expectSign "<"
        expectSign "/"
        return { children := text.toList, closing := ← closingTag }
      else
        let child ← elementParts self fuel
        before (some (.placed t.start child)) <$> contents self fuel

end

/-- An element, from its opening sign on. -/
def elementRule (self : Self) : Reader Expr := do
  let e ← elementParts self (← roundsLeft)
  advance
  pure e

end AppMend.Script.Reader
