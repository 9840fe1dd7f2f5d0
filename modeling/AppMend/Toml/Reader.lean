import AppMend.Toml.Scalar

/-!
# Reading settings documents

A document is a list of lines. A line is empty, a header that opens a table, or a key with its value;
after each may stand a comment. Values in brackets can go on over lines, values in braces cannot. How
deep values may nest is bounded.

Only whether a text is a document matters, and which: no reason is given for one that is none.
-/

namespace AppMend.Toml

/-- How deep values may nest, and how many parts a key may have. -/
def maxDepth : Nat := 79

/-! ## Blanks and comments -/

def isSpace (c : Char) : Bool := c == ' ' || c == '\t'

/-- A character that may stand in a comment. -/
def isInLine (c : Char) : Bool := c == '\t' || (' ' ≤ c && c != '\x7f')

def skipSpace (s : List Char) : List Char := s.dropWhile isSpace

/-- What follows the end of a line. -/
def newline? : List Char → Option (List Char)
  | '\n' :: s => some s
  | '\r' :: '\n' :: s => some s
  | _ => none

def skipComment : List Char → List Char
  | '#' :: s => s.dropWhile isInLine
  | s => s

/-- What follows the rest of a line on which nothing else may stand. -/
def endLine? (s : List Char) : Option (List Char) :=
  match skipComment (skipSpace s) with
  | [] => some []
  | s => newline? s

/-- Passes blanks, comments and ends of lines, at most `n`. -/
def skipLines : Nat → List Char → List Char
  | 0, s => s
  | n + 1, s =>
    let s := skipComment (skipSpace s)
    match newline? s with
    | some s => skipLines n s
    | none => s

/-! ## Texts -/

/-- The character of a code point in hexadecimal digits. -/
def codePoint? (d : List Char) : Option Char :=
  let n := natOf 16 d
  if d.all Text.isHexDigit ∧ (n < 0xD800 ∨ 0xE000 ≤ n ∧ n < 0x110000) then some (Char.ofNat n)
  else none

/-- What a backslash with what follows it stands for, and the rest. -/
def escape? : List Char → Option (Char × List Char)
  | 'b' :: s => some ('\x08', s)
  | 'f' :: s => some ('\x0c', s)
  | 'n' :: s => some ('\n', s)
  | 'r' :: s => some ('\r', s)
  | 't' :: s => some ('\t', s)
  | '"' :: s => some ('"', s)
  | '\\' :: s => some ('\\', s)
  | 'u' :: s => if s.length < 4 then none else (codePoint? (s.take 4)).map fun c => (c, s.drop 4)
  | 'U' :: s => if s.length < 8 then none else (codePoint? (s.take 8)).map fun c => (c, s.drop 8)
  | _ => none

/-- The rest of a text between quotation marks, which is on one line. -/
def basic? : Nat → List Char → List Char → Option (List Char × List Char)
  | 0, _, _ => none
  | n + 1, out, s =>
    match s with
    | '"' :: s => some (out.reverse, s)
    | '\\' :: s => do
      let (c, s) ← escape? s
      basic? n (c :: out) s
    | c :: s => if isInLine c then basic? n (c :: out) s else none
    | [] => none

/-- The rest of a text between apostrophes, in which nothing is escaped. -/
def literal? (s : List Char) : Option (List Char × List Char) :=
  let inside (c : Char) : Bool := isInLine c && c != '\''
  match s.dropWhile inside with
  | '\'' :: rest => some (s.takeWhile inside, rest)
  | _ => none

/-- The rest of a text over lines, after three marks up to three marks; up to two more may stand before
those. A backslash at the end of a line takes the blanks after it away, where it escapes. -/
def long? (mark : Char) (escapes : Bool) : Nat → List Char → List Char →
    Option (List Char × List Char)
  | 0, _, _ => none
  | n + 1, out, s =>
    match s with
    | [] => none
    | c :: r =>
      if c = mark then
        let run := (s.takeWhile (· == mark)).length
        if run < 3 then long? mark escapes n (List.replicate run mark ++ out) (s.drop run)
        else
          let extra := min (run - 3) 2
          some ((List.replicate extra mark ++ out).reverse, s.drop (extra + 3))
      else if c = '\\' ∧ escapes then
        match newline? (skipSpace r) with
        | some r => long? mark escapes n out (skipBlanks r.length r)
        | none => do
          let (d, r) ← escape? r
          long? mark escapes n (d :: out) r
      else
        match newline? s with
        | some r => long? mark escapes n ('\n' :: out) r
        | none => if isInLine c then long? mark escapes n (c :: out) r else none
where
  /-- Passes blanks and ends of lines. -/
  skipBlanks : Nat → List Char → List Char
    | 0, s => s
    | n + 1, s =>
      match newline? (skipSpace s) with
      | some s => skipBlanks n s
      | none => skipSpace s

/-- A text over lines after its three marks; the end of a line right after them does not count. -/
def longText? (mark : Char) (escapes : Bool) (s : List Char) : Option (List Char × List Char) :=
  let s := (newline? s).getD s
  long? mark escapes (s.length + 1) [] s

/-- A text of any kind. -/
def text? : List Char → Option (List Char × List Char)
  | '"' :: '"' :: '"' :: s => longText? '"' true s
  | '\'' :: '\'' :: '\'' :: s => longText? '\'' false s
  | '"' :: s => basic? (s.length + 1) [] s
  | '\'' :: s => literal? s
  | _ => none

/-! ## Keys -/

def isKeyPart (c : Char) : Bool := c.isAlphanum || c == '_' || c == '-'

/-- One part of a key. -/
def keyPart? : List Char → Option (List Char × List Char)
  | '"' :: s => basic? (s.length + 1) [] s
  | '\'' :: s => literal? s
  | s => if (s.takeWhile isKeyPart).isEmpty then none else some (s.takeWhile isKeyPart, s.dropWhile isKeyPart)

/-- The parts of a key, at most `n`, with the blanks around it. -/
def key? : Nat → List Char → Option (List String × List Char)
  | 0, _ => none
  | n + 1, s => do
    let (part, s) ← keyPart? (skipSpace s)
    match skipSpace s with
    | '.' :: s =>
      let (parts, s) ← key? n s
      pure (String.ofList part :: parts, s)
    | s => pure ([String.ofList part], s)

/-! ## Values -/

mutual

/-- A value, with at most `n` steps and `depth` more levels. -/
def value? : Nat → Nat → List Char → Option (Value × List Char)
  | 0, _, _ => none
  | n + 1, depth, s =>
    match s with
    | '"' :: _ | '\'' :: _ => (text? s).map fun (t, s) => (.text (String.ofList t), s)
    | '[' :: s =>
      match depth with
      | 0 => none
      | depth + 1 => (items? n depth s).map fun (vs, s) => (.list vs, s)
    | '\x7b' :: s =>
      match depth with
      | 0 => none
      | depth + 1 =>
        match skipSpace s with
        | '\x7d' :: s => some (.table .inline [], s)
        | s => (pairs? n depth [] s).map fun (fs, s) => (.table .inline fs, s)
    | s =>
      let (w, rest) := wordAhead s
      (scalar? w).map fun v => (v, rest)

/-- The values up to the closing bracket. -/
def items? : Nat → Nat → List Char → Option (List Value × List Char)
  | 0, _, _ => none
  | n + 1, depth, s =>
    match skipLines (s.length + 1) s with
    | ']' :: s => some ([], s)
    | s => do
      let (v, s) ← value? n depth s
      match skipLines (s.length + 1) s with
      | ']' :: s => pure ([v], s)
      | ',' :: s =>
        let (vs, s) ← items? n depth s
        pure (v :: vs, s)
      | _ => none

/-- The keys with their values up to the closing brace, added to those before. -/
def pairs? : Nat → Nat → Fields → List Char → Option (Fields × List Char)
  | 0, _, _, _ => none
  | n + 1, depth, fs, s => do
    let (keys, s) ← key? maxDepth s
    match s with
    | '=' :: s =>
      let (v, s) ← value? n depth (skipSpace s)
      let fs ← fs.assign? .braces keys v
      match skipSpace s with
      | '\x7d' :: s => pure (fs, s)
      | ',' :: s => pairs? n depth fs s
      | _ => none
    | _ => none

end

/-! ## Lines -/

/-- A header: its keys, and what follows its closing mark. -/
def header? (close : List Char) (s : List Char) : Option (List String × List Char) := do
  let (keys, s) ← key? maxDepth s
  if close.isPrefixOf s then pure (keys, s.drop close.length) else none

/-- The lines of a document, at most `n`; `path` is the header above them. -/
def lines? : Nat → List String → Fields → List Char → Option Fields
  | 0, _, _, _ => none
  | n + 1, path, fs, s =>
    match skipSpace s with
    | [] => some fs
    | '#' :: s => do lines? n path fs (← endLine? ('#' :: s))
    | '[' :: '[' :: s => do
      let (keys, s) ← header? "]]".toList s
      lines? n keys (← fs.openRow? keys) (← endLine? s)
    | '[' :: s => do
      let (keys, s) ← header? "]".toList s
      lines? n keys (← fs.openTable? keys) (← endLine? s)
    | s =>
      match newline? s with
      | some s => lines? n path fs s
      | none => do
        let (keys, s) ← key? maxDepth s
        match s with
        | '=' :: s =>
          let (v, s) ← value? (2 * s.length + 2) maxDepth (skipSpace s)
          lines? n path (← fs.assignWithin? path keys v) (← endLine? s)
        | _ => none

/-- The table that a text writes. A mark of the byte order may stand before it. -/
def read? (s : List Char) : Option Fields :=
  let s := match s with
    | '\ufeff' :: s => s
    | s => s
  lines? (s.length + 1) [] [] s

end AppMend.Toml
