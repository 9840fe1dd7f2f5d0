import AppMend.Outline.Rules
import AppMend.Text.Letter

/-!
# Reading tokens

Which token comes next depends on the tokens that may come: a word is a name where it cannot be a
keyword, and a stretch of text belongs to the string or the element it stands in. Some tokens are found
by looking ahead: the end of a statement at the end of a line, the mark of a conditional expression, and
the texts of templates and elements. They are tried first. Of all others the longest is taken.

Blanks are passed over before a token, except within strings, templates and regular expressions.
-/

namespace AppMend.Outline

open Text Grammar

/-- The number of a kind of tokens. -/
def Lexeme.number_ (l : Lexeme) : Nat := lexemes.idxOf l

/-- A token with its place, and the text after it. -/
structure Scanned where
  token : Nat
  start : Nat
  stop : Nat
  rest : List Char
  /-- Whether it is a keyword, which counts as a name where the keyword leads nowhere. -/
  isKeyword : Bool := false
deriving Inhabited

/-- Whether a token shows as a tree: the end of a statement that is not written does not. -/
def Scanned.isShown (s : Scanned) : Bool :=
  s.token != Lexeme.automaticSemicolon.number_ && s.token != Lexeme.signatureSemicolon.number_

/-- The texts that are tokens: keywords by their spelling, and the others with the longest first. -/
structure Vocabulary where
  keywords : Std.HashMap String Nat
  marks : List (List Char × Nat)

namespace Vocabulary

private def isWordText (s : String) : Bool := s.toList.all Char.isAlpha

/-- The vocabulary of a chart. -/
def ofChart (c : Chart) : Vocabulary :=
  let texts := c.texts.toList.zipIdx c.kinds
  let marks := (texts.filter (!isWordText ·.1)).map fun x => (x.1.toList, x.2)
  ⟨(texts.filter (isWordText ·.1)).foldl (fun m x => m.insert x.1 x.2) ∅,
    marks.mergeSort fun a b => b.1.length ≤ a.1.length⟩

end Vocabulary

/-! ## Characters -/

/-- A blank within ASCII. -/
private def isSpace (c : Char) : Bool := c == ' ' || ('\t' ≤ c && c ≤ '\r')

/-- What may stand between any two tokens. -/
private def isSeparator (c : Char) : Bool :=
  isBlank c || c == '\ufeff' || c == '\u2060' || c == '\u200b'

private def isLineEnd (c : Char) : Bool := c == '\n' || c == '\u2028' || c == '\u2029'

private def isMark (c : Char) : Bool := ":;`\"'@#.,|^&<=>+-*/\\%?!~()[]\x7b\x7d".toList.contains c

/-- A character that may continue a name. -/
private def isNameChar (c : Char) : Bool := ' ' ≤ c && !isSeparator c && !isMark c

/-- The length of an escape at the front of a name; 0 if there is none. -/
private def nameEscape : List Char → Nat
  | '\\' :: 'u' :: '\x7b' :: s =>
    let n := (s.takeWhile isHexDigit).length
    if n > 0 && (s.drop n).head? == some '\x7d' then n + 4 else 0
  | '\\' :: 'u' :: s => if (s.takeWhile isHexDigit).length ≥ 4 then 6 else 0
  | _ => 0

/-- The length of the rest of a name. -/
private def nameRest : Nat → List Char → Nat
  | 0, _ => 0
  | _, [] => 0
  | fuel + 1, c :: s =>
    if isNameChar c then 1 + nameRest fuel s
    else match nameEscape (c :: s) with
      | 0 => 0
      | n => n + nameRest fuel (s.drop (n - 1))

/-- The length of the name at the front of a text; 0 if there is none. -/
private def nameLength (s : List Char) : Nat :=
  match s.head? with
  | some c => if c.isDigit then 0 else nameRest s.length s
  | none => 0

/-! ## Numbers -/

/-- The length of a run of digits, with single underscores between them. -/
private def digitRun (isDigit : Char → Bool) : List Char → Nat
  | c :: '_' :: d :: s =>
    if isDigit c then if isDigit d then 2 + digitRun isDigit (d :: s) else 1 else 0
  | c :: s => if isDigit c then 1 + digitRun isDigit s else 0
  | [] => 0

/-- The length of an exponent; 0 if there is none. -/
private def exponentLength : List Char → Nat
  | e :: s =>
    if e == 'e' || e == 'E' then
      let sign := match s with
        | '+' :: _ | '-' :: _ => 1
        | _ => 0
      match digitRun Char.isDigit (s.drop sign) with
      | 0 => 0
      | n => 1 + sign + n
    else 0
  | [] => 0

/-- The length of a whole number without needless zeros; 0 if there is none. -/
private def wholeLength : List Char → Nat
  | '0' :: s =>
    match s with
    | c :: r => if '1' ≤ c && c ≤ '9' then 1 + tail c r else 1
    | [] => 1
  | c :: s => if '1' ≤ c && c ≤ '9' then tail c s else 0
  | [] => 0
where
  tail (c : Char) (s : List Char) : Nat := digitRun Char.isDigit (c :: s)

private def digitsOfBase : Char → Option (Char → Bool)
  | 'x' | 'X' => some isHexDigit
  | 'b' | 'B' => some fun c => c == '0' || c == '1'
  | 'o' | 'O' => some fun c => '0' ≤ c && c ≤ '7'
  | _ => none

/-- The length of the number at the front of a text; 0 if there is none. -/
private def numberLength (s : List Char) : Nat :=
  let based := match s with
    | '0' :: b :: r =>
      match digitsOfBase b with
      | some isDigit => match digitRun isDigit r with
        | 0 => 0
        | n => 2 + n
      | none => 0
    | _ => 0
  let digits := digitRun Char.isDigit s
  let large (n : Nat) : Nat := if n > 0 && (s.drop n).head? == some 'n' then n + 1 else n
  let whole := wholeLength s
  let fraction :=
    if whole > 0 && (s.drop whole).head? == some '.' then
      let n := whole + 1 + digitRun Char.isDigit (s.drop (whole + 1))
      n + exponentLength (s.drop n)
    else if whole > 0 then
      match exponentLength (s.drop whole) with
      | 0 => 0
      | n => whole + n
    else 0
  let pointed := match s with
    | '.' :: r => match digitRun Char.isDigit r with
      | 0 => 0
      | n => 1 + n + exponentLength (r.drop n)
    | _ => 0
  max (max (large based) (large digits)) (max fraction pointed)

/-! ## Comments, strings and regular expressions -/

private def upToClose : List Char → Option Nat
  | '*' :: '/' :: _ => some 2
  | _ :: s => (upToClose s).map (· + 1)
  | [] => none

/-- The length of the comment at the front of a text; 0 if there is none. -/
private def commentLength : List Char → Nat
  | '/' :: '/' :: s => 2 + (s.takeWhile fun c => !isLineEnd c && c != '\r').length
  | '/' :: '*' :: s => match upToClose s with
    | some n => 2 + n
    | none => 0
  | _ => 0

/-- The length of the escape at the front of a text; 0 if there is none. -/
private def escapeLength : List Char → Nat
  | '\\' :: 'x' :: a :: b :: _ => if isHexDigit a && isHexDigit b then 4 else 0
  | '\\' :: 'u' :: s => nameEscape ('\\' :: 'u' :: s)
  | '\\' :: '\r' :: c :: _ => if isLineEnd c then 3 else 2
  | '\\' :: '?' :: c :: _ => if isLineEnd c then 3 else 2
  | '\\' :: c :: s =>
    if '0' ≤ c && c ≤ '7' then
      1 + min 3 (1 + (s.takeWhile fun d => '0' ≤ d && d ≤ '7').length)
    else if c == 'x' then 0
    else 2
  | _ => 0

private def attributeText (quote : Char) : List Char → Nat
  | '&' :: c :: s => if c == '#' || c.isAlpha then 0 else 2 + attributeText quote s
  | c :: s => if c == quote || c == '&' then 0 else 1 + attributeText quote s
  | [] => 0

/-- The length of a class of characters, after its opening bracket. -/
private def classLength : List Char → Option Nat
  | ']' :: _ => some 1
  | '\\' :: c :: s => if c == '\n' then none else (classLength s).map (· + 2)
  | c :: s => if c == '\n' || c == '\\' then none else (classLength s).map (· + 1)
  | [] => none

private def patternLength : Nat → List Char → Nat
  | 0, _ => 0
  | fuel + 1, '[' :: s => match classLength s with
    | some n => 1 + n + patternLength fuel (s.drop n)
    | none => 0
  | fuel + 1, '\\' :: c :: s => if c == '\n' then 0 else 2 + patternLength fuel s
  | fuel + 1, c :: s => if c == '/' || c == '\\' || c == '\n' then 0 else 1 + patternLength fuel s
  | _, [] => 0

/-- The length of the character reference at the front of a text; 0 if there is none. -/
private def referenceLength : List Char → Nat
  | '&' :: '#' :: x :: s =>
    if x == 'x' || x == 'X' then closed 3 1 6 (s.takeWhile isHexDigit).length s
    else closed 2 1 5 ((x :: s).takeWhile Char.isDigit).length (x :: s)
  | '&' :: s => closed 1 1 30 (s.takeWhile Char.isAlpha).length s
  | _ => 0
where
  closed (before least most n : Nat) (s : List Char) : Nat :=
    if least ≤ n && n ≤ most && (s.drop n).head? == some ';' then before + n + 1 else 0

/-- The length of a name with a dash in it; 0 if there is none. -/
private def dashedLength (s : List Char) : Nat :=
  let isPart (c : Char) : Bool := c.isAlphanum || c == '_' || c == '$'
  match s.head? with
  | some c =>
    let n := (s.takeWhile isPart).length
    if !c.isDigit && n > 0 && (s.drop n).head? == some '-' then
      n + ((s.drop n).takeWhile fun c => isPart c || c == '-').length
    else 0
  | none => 0

/-! ## Tokens found by looking ahead -/

/-- Passes over blanks and comments; `none` at a stroke that begins no comment. Tells whether a comment
up to the end of its line was passed. -/
private def passOver : Nat → Bool → List Char → Option (Bool × List Char)
  | 0, saw, s => some (saw, s)
  | fuel + 1, saw, s =>
    match s.dropWhile isSpace with
    | '/' :: '/' :: r => passOver fuel true (r.dropWhile fun c => c != '\n' && c != '\x00')
    | '/' :: '*' :: r => passOver fuel saw (match upToClose r with
      | some n => r.drop n
      | none => [])
    | '/' :: _ => none
    | r => some (saw, r)

/-- Whether the word at the front does not go on after `in` or `instanceof`. -/
private def isInOperator (s : List Char) : Bool :=
  let isEdge (r : List Char) : Bool := !(r.head?.any Char.isAlpha)
  "in".toList.isPrefixOf s &&
    (isEdge (s.drop 2) || ("instanceof".toList.isPrefixOf s && isEdge (s.drop 10)))

/-- Whether a statement may end before the text after the end of a line. -/
private def mayEndBefore (inSignature mayOperate : Bool) : List Char → Bool
  | [] => true
  | c :: s =>
    if c == '\x7b' then !inSignature
    else if c == '(' || c == '[' then !mayOperate
    else if c == '+' || c == '-' then s.head? == some c
    else if c == '!' then s.head? != some '='
    else if c == 'i' then !isInOperator (c :: s)
    else !"`,.;*%><=?^|&/:".toList.contains c

/-- Looks for the end of a statement. Tells whether one is found; if not, whether a comment was passed
and where looking ended. -/
private def lookForEnd (inSignature mayOperate : Bool) : List Char → Bool × Bool × List Char
  | [] => (true, false, [])
  | c :: s =>
    if c == '\x00' then (true, false, c :: s)
    else if c == '\x7d' then ((s.dropWhile isSpace).head? != some ':', false, [])
    else if !isSpace c then (false, false, c :: s)
    else if c == '\n' then
      match passOver (s.length + 1) false s with
      | none => (false, false, [])
      | some (saw, r) => (mayEndBefore inSignature mayOperate r, saw, r)
    else lookForEnd inSignature mayOperate s

/-- The length of blanks and the mark of a conditional expression, if the text goes on as one may. -/
private def ternaryLength (s : List Char) : Option (Nat × Nat) :=
  let before := (s.takeWhile isSpace).length
  match s.drop before with
  | '?' :: r =>
    if r.head? == some '?' || r.head? == some '.' then none
    else match r.dropWhile isSpace with
      | ':' :: _ | ')' :: _ | ',' :: _ => none
      | '.' :: d :: _ => if d.isDigit then some (before, 1) else none
      | ['.'] => none
      | _ => some (before, 1)
  | _ => none

private def templateLength : List Char → Option Nat
  | [] => none
  | '`' :: _ => some 0
  | '\\' :: _ => some 0
  | '$' :: '\x7b' :: _ => some 0
  | c :: s => if c == '\x00' then none else (templateLength s).map (· + 1)

/-- The length of the text of an element, and whether it is more than blanks after line ends. -/
private def elementTextLength (atLine saw : Bool) (n : Nat) : List Char → Nat × Bool
  | [] => (n, saw)
  | c :: s =>
    if c == '\x00' || "<>\x7b\x7d&".toList.contains c then (n, saw)
    else if c == '\n' then elementTextLength true saw (n + 1) s
    else
      let atLine := atLine && isSpace c
      elementTextLength atLine (saw || !atLine) (n + 1) s

/-- The length of blanks and a comment in the style of markup. -/
private def htmlCommentLength (s : List Char) : Option (Nat × Nat) :=
  let before := (s.takeWhile fun c => isSpace c || isLineEnd c).length
  let r := s.drop before
  let mark := if "<!--".toList.isPrefixOf r then 4 else if "-->".toList.isPrefixOf r then 3 else 0
  if mark == 0 then none
  else some (before, mark + ((r.drop mark).takeWhile fun c => !isLineEnd c && c != '\x00').length)

/-! ## Scanning -/

section

variable (v : Vocabulary) (valid : TokenSet) (pos : Nat) (s : List Char)

private def isValid (l : Lexeme) : Bool := valid.contains l.number_

private def isValidText (t : String) : Bool :=
  v.marks.any fun m => m.1 == t.toList && valid.contains m.2

private def found (l : Lexeme) (before length : Nat) : Scanned :=
  ⟨l.number_, pos + before, pos + before + length, s.drop (before + length), false⟩

/-- The token found by looking ahead. -/
private def ahead? : Option Scanned :=
  let ternary := if isValid valid .ternaryMark then
      (ternaryLength s).map fun x => found pos s .ternaryMark x.1 x.2
    else none
  if isValid valid .templateText then
    if isValid valid .automaticSemicolon then none
    else match templateLength s with
      | some (n + 1) => some (found pos s .templateText 0 (n + 1))
      | _ => none
  else
    let text := if isValid valid .elementText then elementTextLength false false 0 s else (0, false)
    if text.2 then some (found pos s .elementText 0 text.1)
    else if isValid valid .automaticSemicolon || isValid valid .signatureSemicolon then
      match lookForEnd (isValid valid .signatureSemicolon) (isValidText v valid "||") s with
      | (true, _, _) => some (found pos s .automaticSemicolon 0 0)
      | (false, saw, r) => if !saw && r.head? == some '?' then ternary else none
    else if isValid valid .ternaryMark then ternary
    else if !isValidText v valid "||" && !isValid valid .escape && !isValid valid .regexPattern then
      (htmlCommentLength s).map fun x => found pos s .htmlComment x.1 x.2
    else none

/-- The token that begins right here, within a string or a regular expression. -/
private def within? : Option Scanned :=
  let try_ (l : Lexeme) (n : Nat) : Option Scanned :=
    if isValid valid l && n > 0 then some (found pos s l 0 n) else none
  let plain (quote : Char) (c : Char) : Bool := c != quote && c != '\\' && c != '\r' && c != '\n'
  try_ .doubleQuoted (s.takeWhile (plain '"')).length <|>
    try_ .singleQuoted (s.takeWhile (plain '\'')).length <|>
    try_ .doubleQuotedAttribute (attributeText '"' s) <|>
    try_ .singleQuotedAttribute (attributeText '\'' s) <|>
    try_ .escape (escapeLength s) <|>
    try_ .regexPattern (patternLength s.length s) <|>
    try_ .regexEnd (if s.head? == some '/' then 1 else 0) <|>
    try_ .regexFlags (s.takeWhile Char.isLower).length

/-- The name or keyword at the front of a text. -/
private def word? : Option Scanned :=
  match nameLength s with
  | 0 => none
  | n =>
    match v.keywords[String.ofList (s.take n)]? with
    | some k =>
      if valid.contains k then some ⟨k, pos, pos + n, s.drop n, true⟩
      else some (found pos s .identifier 0 n)
    | none => some (found pos s .identifier 0 n)

private def mark? : Option Scanned :=
  (v.marks.find? fun m => valid.contains m.2 && m.1.isPrefixOf s).map fun m =>
    ⟨m.2, pos, pos + m.1.length, s.drop m.1.length, false⟩

/-- The longest of the tokens that may begin after blanks. -/
private def apart? : Option Scanned :=
  if s.isEmpty then some (found pos s .end_ 0 0)
  else
    let try_ (l : Lexeme) (n : Nat) : Option Scanned :=
      if n > 0 && isValid valid l then some (found pos s l 0 n) else none
    let candidates := [
      try_ .hashbang (if "#!".toList.isPrefixOf s then (s.takeWhile (· != '\n')).length else 0),
      if commentLength s > 0 then some (found pos s .comment 0 (commentLength s)) else none,
      word? v valid pos s,
      try_ .dashedName (dashedLength s),
      try_ .number (numberLength s),
      try_ .privateName (match s with
        | '#' :: r => match nameLength r with
          | 0 => 0
          | n => n + 1
        | _ => 0),
      try_ .reference (referenceLength s),
      mark? v valid pos s]
    candidates.foldl (fun best c =>
      match best, c with
      | some b, some t => if t.stop > b.stop then some t else some b
      | none, t => t
      | b, none => b) none

/-- The token at the front of a text, if one of the valid ones stands there. -/
def scan? : Option Scanned :=
  ahead? v valid pos s <|> within? valid pos s <|>
    (let n := (s.takeWhile isSeparator).length
    apart? v valid (pos + n) (s.drop n))

end

end AppMend.Outline
