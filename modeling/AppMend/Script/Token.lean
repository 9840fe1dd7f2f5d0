import AppMend.Script.Comment

/-!
# Tokens of a script

A script is read token by token. A token knows where it starts and stops, whether a line ended before
it, the comments before it, and what text follows it, so that a reader may look at any place again and
go on from there. Three kinds of text depend on where they stand and are read on request: a regular
expression, the rest of a template after a hole, and the text within an element.

A greater-than sign is always a token of its own; an operator that begins with it is put together by
the reader of binary operators, because two type argument lists may end side by side.
-/

namespace AppMend.Script

open Text

inductive Lexeme where
  /-- An identifier or a keyword. -/
  | word (name : String)
  /-- A private name, without its hash. -/
  | privateName (name : String)
  | sign (text : String)
  /-- A number as it is written. -/
  | number (text : String)
  | bigint (text : String)
  /-- A string by its code points; half of a surrogate pair that stands alone is one. -/
  | string (value : List Nat)
  /-- The raw text of a template up to a hole, or to its end. -/
  | template (raw : String) (isLast : Bool)
  | regex (text : String)
  | finish
  /-- Text that is no token. -/
  | broken
deriving DecidableEq, Inhabited

structure Token where
  lexeme : Lexeme
  start : Nat
  stop : Nat
  /-- Whether a line ended between the token before and this one. -/
  afterNewline : Bool
  /-- The comments between the token before and this one. -/
  comments : List Comment
  /-- Whether a word was written with an escape. -/
  escaped : Bool
  /-- The text that the token starts. -/
  text : List Char
  /-- The text after the token. -/
  rest : List Char
deriving Inhabited

/-! ## Blanks and comments -/

/-- The text before the first occurrence of `*/`, and the text after it. -/
def cutBlockEnd? : List Char → Option (List Char × List Char)
  | '*' :: '/' :: s => some ([], s)
  | c :: s => (cutBlockEnd? s).map fun (a, b) => (c :: a, b)
  | [] => none

/-- What was passed before a token: the comments, the last one first, and whether a line ended. -/
structure Gap where
  sawNewline : Bool
  comments : List Comment
  pos : Nat
  rest : List Char
  /-- Whether a block comment does not end. -/
  broken : Bool := false

namespace Gap

/-- A line ended. The comments so far trail the token before them if they are on its line. -/
private def endLine (g : Gap) : Gap :=
  let comments := match g.comments with
    | c :: cs => { c with beforeNewline := true } :: cs
    | [] => []
  { g with
    sawNewline := true
    comments := if g.sawNewline then comments else comments.map fun c => { c with leads := false } }

/-- Passes blanks and comments. A comment to the end of a line trails the token before it on that line,
unless that token is an `=` or an opening parenthesis: `opensValue` says so. -/
def pass (opensValue : Bool) : Nat → Gap → Gap
  | 0, g => g
  | fuel + 1, g =>
    match g.rest with
    | [] => g
    | c :: s =>
      if isInlineBlank c then pass opensValue fuel { g with pos := g.pos + 1, rest := s }
      else if isLineEnd c then pass opensValue fuel { g.endLine with pos := g.pos + 1, rest := s }
      else if c = '/' then
        match s with
        | '/' :: _ =>
          let body := g.rest.takeWhile (!isLineEnd ·)
          let comment : Comment := ⟨body, true, g.sawNewline, true, true⟩
          let comments := comment :: g.comments
          let trails := !g.sawNewline && !opensValue
          pass opensValue fuel
            { g with
              pos := g.pos + body.length, rest := g.rest.drop body.length, sawNewline := true
              comments := if trails then comments.map fun c => { c with leads := false } else comments }
        | '*' :: t =>
          match cutBlockEnd? t with
          | none => { g with broken := true }
          | some (inner, after) =>
            let body := "/*".toList ++ inner ++ "*/".toList
            let comment : Comment := ⟨body, false, g.sawNewline, false, true⟩
            pass opensValue fuel
              { g with pos := g.pos + body.length, rest := after, comments := comment :: g.comments }
        | _ => g
      else g

end Gap

/-- Whether a list of characters has the end of a line in it. -/
def spansLines (s : List Char) : Bool := s.any isLineEnd

/-! ## Words, numbers and strings -/

def hexDigit? (d : Char) : Option Nat :=
  if d.isDigit then some (d.toNat - 48)
  else if 'a' ≤ d ∧ d ≤ 'f' then some (d.toNat - 87)
  else if 'A' ≤ d ∧ d ≤ 'F' then some (d.toNat - 55)
  else none

/-- The number that hexadecimal digits write. -/
def hexNumber? (s : List Char) : Option Nat :=
  if s.isEmpty then none else s.foldl (fun n d => n.bind fun n => (hexDigit? d).map (n * 16 + ·)) (some 0)

/-- A code point after a backslash and a `u`, and the number of characters it takes. -/
def unicodeEscape? (s : List Char) : Option (Nat × Nat) :=
  match s with
  | c :: t =>
    if c = '\x7b' then
      let digits := t.takeWhile (· != '\x7d')
      if digits.length < t.length then
        (hexNumber? digits).bind fun n =>
          if n ≤ 0x10FFFF then some (n, digits.length + 2) else none
      else none
    else if s.length < 4 then none
    else (hexNumber? (s.take 4)).map fun n => (n, 4)
  | [] => none

/-- A word up to where it ends: its characters, how many were taken, and whether one was escaped. An
escape stands for a character that may be where it is. -/
def wordChars? : Nat → Bool → List Char → Option (List Char × Nat × Bool)
  | 0, _, _ => some ([], 0, false)
  | fuel + 1, isFirst, c :: s =>
    let fits (d : Char) : Bool := if isFirst then isIdStart d else isIdContinue d
    if c = '\\' then
      match s with
      | 'u' :: s =>
        (unicodeEscape? s).bind fun (n, k) =>
          if fits (Char.ofNat n) then
            (wordChars? fuel false (s.drop k)).map fun (cs, m, _) => (Char.ofNat n :: cs, m + k + 2, true)
          else none
      | _ => none
    else if fits c then
      (wordChars? fuel false s).map fun (cs, m, e) => (c :: cs, m + 1, e)
    else some ([], 0, false)
  | _ + 1, _, [] => some ([], 0, false)

/-- Whether digits have separators only between two of them. -/
def wellSeparated (s : List Char) : Bool :=
  s.head? != some '_' && s.getLast? != some '_' &&
    (s.zip s.tail).all fun (a, b) => !(a == '_' && b == '_')

private def digitsOf (ok : Char → Bool) (s : List Char) : List Char :=
  s.takeWhile fun c => ok c || c == '_'

/-- How long the fraction and the exponent of a number are, at the start of a text. -/
private def scaleLength? (s : List Char) : Option Nat :=
  let (fraction, s') := match s with
    | '.' :: t =>
      let ds := digitsOf Char.isDigit t
      (ds, t.drop ds.length)
    | _ => ([], s)
  let taken := s.length - s'.length
  if !fraction.isEmpty && !wellSeparated fraction then none
  else
    match s' with
    | e :: t =>
      if e = 'e' ∨ e = 'E' then
        let sign := match t with
          | '+' :: _ | '-' :: _ => 1
          | _ => 0
        let ds := digitsOf Char.isDigit (t.drop sign)
        if ds.isEmpty || !wellSeparated ds then none else some (taken + 1 + sign + ds.length)
      else some taken
    | [] => some taken

private def isOctalDigit (c : Char) : Bool := '0' ≤ c && c ≤ '7'

/-- A number in decimal: whether it is a big integer, and how long it is. After a zero only octal digits
may follow, or digits that are not all octal and then a fraction or an exponent. -/
private def decimalLength? (s : List Char) : Option (Bool × Nat) :=
  let whole := digitsOf Char.isDigit s
  let s' := s.drop whole.length
  let scaled := (scaleLength? s').map fun n => (false, whole.length + n)
  match whole with
  | '0' :: _ :: _ =>
    if whole.contains '_' then none
    else if whole.all isOctalDigit then some (false, whole.length)
    else if s'.head? == some '.' || s'.head? == some 'e' then scaled
    else some (false, whole.length)
  | _ =>
    if !whole.isEmpty && !wellSeparated whole then none
    else if !whole.isEmpty && s'.head? == some 'n' then some (true, whole.length + 1)
    else scaled

/-- A number at the start of a text: whether it is a big integer, and how long it is. -/
def numberLength? (s : List Char) : Option (Bool × Nat) :=
  let radix (ok : Char → Bool) (t : List Char) : Option (Bool × Nat) :=
    let ds := digitsOf ok t
    if ds.isEmpty || !wellSeparated ds then none
    else if (t.drop ds.length).head? == some 'n' then some (true, ds.length + 3)
    else some (false, ds.length + 2)
  let found : Option (Bool × Nat) :=
    match s with
    | '0' :: x :: t =>
      if x = 'x' ∨ x = 'X' then radix (fun c => (hexDigit? c).isSome) t
      else if x = 'o' ∨ x = 'O' then radix isOctalDigit t
      else if x = 'b' ∨ x = 'B' then radix (fun c => c == '0' || c == '1') t
      else decimalLength? s
    | _ => decimalLength? s
  found.bind fun (big, n) =>
    -- Neither a digit nor a word may follow at once.
    match s.drop n with
    | c :: _ => if isIdStart c || c.isDigit || c == '\\' then none else some (big, n)
    | [] => some (big, n)

/-- What an escape in a string stands for, after its backslash, and the characters it takes. -/
def stringEscape? : List Char → Option (List Nat × Nat)
  | [] => none
  | 'n' :: _ => some ([10], 1)
  | 't' :: _ => some ([9], 1)
  | 'r' :: _ => some ([13], 1)
  | 'b' :: _ => some ([8], 1)
  | 'f' :: _ => some ([12], 1)
  | 'v' :: _ => some ([11], 1)
  | '\r' :: '\n' :: _ => some ([], 2)
  | 'x' :: a :: b :: _ => (hexNumber? [a, b]).map fun n => ([n], 3)
  | 'u' :: s => (unicodeEscape? s).map fun (n, k) => ([n], k + 1)
  | c :: s =>
    if isLineEnd c then some ([], 1)
    else if c = '0' ∧ !((s.head?.map Char.isDigit).getD false) then some ([0], 1)
    else if '0' ≤ c ∧ c ≤ '7' then
      -- An octal escape of up to three digits.
      let more := (s.takeWhile fun d => '0' ≤ d && d ≤ '7').take (if c ≤ '3' then 2 else 1)
      some ([(c :: more).foldl (fun n d => n * 8 + (d.toNat - 48)) 0], 1 + more.length)
    else if c = 'x' then none
    else some ([c.toNat], 1)

/-- Joins the halves of surrogate pairs. -/
def joinSurrogates : List Nat → List Nat
  | a :: b :: s =>
    if 0xD800 ≤ a ∧ a ≤ 0xDBFF ∧ 0xDC00 ≤ b ∧ b ≤ 0xDFFF then
      ((a - 0xD800) * 1024 + (b - 0xDC00) + 0x10000) :: joinSurrogates s
    else a :: joinSurrogates (b :: s)
  | s => s

/-- The string up to a closing mark, and the characters taken with that mark. -/
def stringBody (mark : Char) : Nat → List Nat → Nat → List Char → Option (List Nat × Nat)
  | 0, _, _, _ => none
  | _, _, _, [] => none
  | fuel + 1, done, n, c :: s =>
    if c = mark then some (joinSurrogates done.reverse, n + 1)
    else if c = '\\' then
      match stringEscape? s with
      | some (value, k) => stringBody mark fuel (value.reverse ++ done) (n + 1 + k) (s.drop k)
      | none => none
    else if c = '\n' ∨ c = '\r' then none
    else stringBody mark fuel (c.toNat :: done) (n + 1) s

/-- The raw text of a template up to a hole or its end, whether it ends there, and what was taken. -/
def templateBody : Nat → List Char → Nat → List Char → Option (List Char × Bool × Nat)
  | 0, _, _, _ => none
  | _, _, _, [] => none
  | fuel + 1, done, n, c :: s =>
    if c = Char.ofNat 96 then some (done.reverse, true, n + 1)
    else if c = '$' ∧ s.head? = some '\x7b' then some (done.reverse, false, n + 2)
    else if c = '\\' then
      match s with
      | d :: t => templateBody fuel (d :: c :: done) (n + 2) t
      | [] => none
    else if c = '\r' then
      -- A line ends with a line feed in the raw text, however it was written.
      match s with
      | '\n' :: t => templateBody fuel ('\n' :: done) (n + 2) t
      | _ => templateBody fuel ('\n' :: done) (n + 1) s
    else templateBody fuel (c :: done) (n + 1) s

/-- Whether every escape in the raw text of a template stands for something. -/
def escapesAreSound : Nat → List Char → Bool
  | 0, _ | _, [] => true
  | fuel + 1, c :: s =>
    if c = '\\' then
      match s with
      | [] => false
      | d :: t =>
        let startsOctal := d.isDigit && (d != '0' || (t.head?.map Char.isDigit).getD false)
        if startsOctal then false
        else
          match stringEscape? s with
          | some (_, k) => escapesAreSound fuel (s.drop k)
          | none => false
    else escapesAreSound fuel s

/-- The code points that the raw text of a template stands for. -/
def cookedPoints : Nat → List Char → List Nat
  | 0, _ | _, [] => []
  | fuel + 1, c :: s =>
    if c = '\\' then
      match stringEscape? s with
      | some (value, k) => value ++ cookedPoints fuel (s.drop k)
      | none => cookedPoints fuel s
    else c.toNat :: cookedPoints fuel s

/-- The length of a regular expression from its first slash on, with its flags. -/
def regexLength? : Nat → Bool → Nat → List Char → Option Nat
  | 0, _, _, _ => none
  | _, _, _, [] => none
  | fuel + 1, inClass, n, c :: s =>
    if isLineEnd c then none
    else if c = '\\' then
      match s with
      | d :: t => if isLineEnd d then none else regexLength? fuel inClass (n + 2) t
      | [] => none
    else if c = '[' then regexLength? fuel true (n + 1) s
    else if c = ']' then regexLength? fuel false (n + 1) s
    else if c = '/' ∧ !inClass then
      let flags := s.takeWhile isIdContinue
      if flags.all (fun f => "dgimsuvy".toList.contains f) && flags.eraseDups.length == flags.length then
        some (n + 1 + flags.length)
      else none
    else regexLength? fuel inClass (n + 1) s

/-! ## Signs -/

/-- The signs that are more than one character long, the longer ones first. -/
def longSigns : List String := [
  "...", "===", "!==", "**=", "<<=", "&&=", "||=", "??=",
  "=>", "==", "!=", "<=", "<<", "++", "--", "+=", "-=", "*=", "/=", "%=", "&=", "|=", "^=", "&&",
  "||", "??", "**"]

/-- The signs that are one character long. -/
def shortSigns : String := "\x7b\x7d()[];,<>=+-*/%&|^!~?:.@"

/-- The sign at the start of a text. -/
def signAt? (s : List Char) : Option String :=
  match s with
  | '?' :: '.' :: d :: _ => if d.isDigit then some "?" else some "?."
  | ['?', '.'] => some "?."
  | c :: _ =>
    match longSigns.find? fun l => l.toList.isPrefixOf s with
    | some l => some l
    | none => if shortSigns.toList.contains c then some (String.singleton c) else none
  | [] => none

/-! ## Tokens -/

/-- The lexeme at the start of a text, its length, and whether it is an escaped word. -/
def lexemeAt (s : List Char) : Lexeme × Nat × Bool :=
  match s with
  | [] => (.finish, 0, false)
  | c :: t =>
    if isIdStart c || (c == '\\' && t.head? == some 'u') then
      match wordChars? (s.length + 1) true s with
      | some (cs, n, escaped) => (.word (String.ofList cs), n, escaped)
      | none => (.broken, 1, false)
    else if c.isDigit || (c == '.' && (t.head?.map Char.isDigit).getD false) then
      match numberLength? s with
      | some (true, n) => (.bigint (String.ofList (s.take n)), n, false)
      | some (false, n) => (.number (String.ofList (s.take n)), n, false)
      | none => (.broken, 1, false)
    else if c = '"' ∨ c = '\'' then
      match stringBody c (t.length + 1) [] 0 t with
      | some (value, n) => (.string value, n + 1, false)
      | none => (.broken, 1, false)
    else if c = Char.ofNat 96 then
      match templateBody (t.length + 1) [] 0 t with
      | some (raw, isLast, n) => (.template (String.ofList raw) isLast, n + 1, false)
      | none => (.broken, 1, false)
    else if c = '#' then
      match wordChars? (t.length + 1) true t with
      | some (c :: cs, n, _) => (.privateName (String.ofList (c :: cs)), n + 1, false)
      | _ => (.broken, 1, false)
    else
      match signAt? s with
      | some sign => (.sign sign, sign.length, false)
      | none => (.broken, 1, false)

/-- Whether a comment to the end of the line right after a lexeme leads to what follows. -/
def Lexeme.opensValue : Lexeme → Bool
  | .sign "=" | .sign "(" => true
  | _ => false

/-- The token at a place, read as a given lexeme of a given length. -/
def tokenFrom (g : Gap) (hadNewline : Bool) (lexeme : Lexeme) (n : Nat) (escaped : Bool) : Token where
  lexeme
  start := g.pos
  stop := g.pos + n
  afterNewline := hadNewline
  comments := g.comments.reverse
  escaped
  text := g.rest
  rest := g.rest.drop n

/-- The first token of a text that starts at `pos`, after the lexeme `before`. -/
def tokenAfter (before : Lexeme) (atStart : Bool) (pos : Nat) (s : List Char) : Token :=
  let g := Gap.pass before.opensValue (s.length + 1) ⟨atStart, [], pos, s, false⟩
  let passed := s.take (g.pos - pos)
  let hadNewline := atStart || spansLines passed
  if g.broken then tokenFrom g hadNewline .broken 1 false
  else
    let (lexeme, n, escaped) := lexemeAt g.rest
    tokenFrom g hadNewline lexeme n escaped

/-- The token that follows. -/
def Token.next (t : Token) : Token := tokenAfter t.lexeme false t.stop t.rest

/-- A slash read as the start of a regular expression. -/
def Token.asRegex (t : Token) : Token :=
  match regexLength? (t.text.length + 1) false 1 (t.text.drop 1) with
  | some n =>
    { t with lexeme := .regex (String.ofList (t.text.take n)), stop := t.start + n,
             rest := t.text.drop n }
  | none => { t with lexeme := .broken }

/-- A closing brace read as the end of a hole: the template goes on after it. -/
def Token.asTemplate (t : Token) : Token :=
  match templateBody (t.text.length + 1) [] 0 (t.text.drop 1) with
  | some (raw, isLast, n) =>
    { t with lexeme := .template (String.ofList raw) isLast, stop := t.start + 1 + n,
             rest := t.text.drop (1 + n) }
  | none => { t with lexeme := .broken }

/-- The line at the head of a script that names what runs it. -/
def runnerLine (s : List Char) : List Char :=
  match s with
  | '#' :: '!' :: _ => s.takeWhile (!isLineEnd ·)
  | _ => []

/-- The first token of a script, after the line that names what runs it. -/
def firstToken (s : List Char) : Token :=
  let line := runnerLine s
  tokenAfter .finish true line.length (s.drop line.length)

/-- Whether a comment before a token says that the call it begins has no effects. -/
def Token.marksPure (t : Token) : Bool := t.comments.any Comment.marksPure

/-- Whether a comment before a token says that the function it begins has no effects. -/
def Token.marksEffectFree (t : Token) : Bool := t.comments.any Comment.marksEffectFree

end AppMend.Script
