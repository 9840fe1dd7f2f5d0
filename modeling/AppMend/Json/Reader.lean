import AppMend.Json.Value

/-!
# Reading documents

The reader takes a text to the value it writes, or to the reason why it writes none and the place
where that shows. A place is a line and the number of bytes passed in it. Some reasons are seen at the
character just taken, others at the one still ahead; `Cursor.fail` and `Cursor.failAhead` tell them
apart. Nesting is bounded, which also bounds the recursion.
-/

namespace AppMend.Json

open AppMend.Number

/-- Why a text is no document. -/
inductive Reason where
  | endInList
  | endInObject
  | endInText
  | endInValue
  | expectedColon
  | expectedListEnd
  | expectedObjectEnd
  | expectedIdent
  | expectedValue
  | invalidEscape
  | invalidNumber
  | numberOutOfRange
  | controlCharacter
  | keyNotText
  | loneSurrogate
  | endOfHexEscape
  | trailingComma
  | trailingCharacters
  | tooDeep
deriving DecidableEq

def Reason.message : Reason → String
  | .endInList => "EOF while parsing a list"
  | .endInObject => "EOF while parsing an object"
  | .endInText => "EOF while parsing a string"
  | .endInValue => "EOF while parsing a value"
  | .expectedColon => "expected `:`"
  | .expectedListEnd => "expected `,` or `]`"
  | .expectedObjectEnd => "expected `,` or `\x7d`"
  | .expectedIdent => "expected ident"
  | .expectedValue => "expected value"
  | .invalidEscape => "invalid escape"
  | .invalidNumber => "invalid number"
  | .numberOutOfRange => "number out of range"
  | .controlCharacter => "control character (\\u0000-\\u001F) found while parsing a string"
  | .keyNotText => "key must be a string"
  | .loneSurrogate => "lone leading surrogate in hex escape"
  | .endOfHexEscape => "unexpected end of hex escape"
  | .trailingComma => "trailing comma"
  | .trailingCharacters => "trailing characters"
  | .tooDeep => "recursion limit exceeded"

/-- A reason with its place. -/
structure ReadError where
  reason : Reason
  line : Nat
  column : Nat
deriving DecidableEq

def ReadError.message (e : ReadError) : String :=
  s!"{e.reason.message} at line {e.line} column {e.column}"

/-- What is left to read, with the place that was reached. -/
structure Cursor where
  rest : List Char
  line : Nat
  column : Nat

namespace Cursor

def start (s : List Char) : Cursor := ⟨s, 1, 0⟩

/-- Passes one character. -/
def next (c : Cursor) : Cursor :=
  match c.rest with
  | [] => c
  | '\n' :: s => ⟨s, c.line + 1, 0⟩
  | d :: s => ⟨s, c.line, c.column + d.utf8Size⟩

/-- The place after the first byte of what is ahead. -/
def ahead (c : Cursor) : Nat × Nat :=
  match c.rest with
  | [] => (c.line, c.column)
  | '\n' :: _ => (c.line + 1, 0)
  | _ :: _ => (c.line, c.column + 1)

def fail (c : Cursor) (r : Reason) : Except ReadError α := .error ⟨r, c.line, c.column⟩

def failAhead (c : Cursor) (r : Reason) : Except ReadError α := .error ⟨r, c.ahead.1, c.ahead.2⟩

/-- Passes `n` characters. -/
def skip (c : Cursor) : Nat → Cursor
  | 0 => c
  | n + 1 => c.next.skip n

theorem rest_next {c : Cursor} {d : Char} {s : List Char} (h : c.rest = d :: s) : c.next.rest = s := by
  unfold next
  rw [h]
  by_cases hd : d = '\n' <;> simp [hd]

theorem rest_skip (c : Cursor) (n : Nat) : (c.skip n).rest = c.rest.drop n := by
  induction n generalizing c with
  | zero => rfl
  | succ n ih =>
      rw [skip, ih]
      cases h : c.rest with
      | nil => simp [next, h]
      | cons d s => rw [rest_next h, List.drop_succ_cons]

def isSpace (d : Char) : Bool := d == ' ' || d == '\n' || d == '\t' || d == '\r'

/-- Passes the blanks ahead. -/
def skipSpace (c : Cursor) : Cursor := c.skip (c.rest.takeWhile isSpace).length

end Cursor

/-- What reads a value of a type from a place on. -/
abbrev Step (α : Type) := Cursor → Except ReadError (α × Cursor)

/-! ## Words and numbers -/

/-- Reads the rest of a word such as `true`. -/
def readWord (v : α) : List Char → Step α
  | [], c => .ok (v, c)
  | w :: ws, c =>
    match c.rest with
    | [] => c.fail .endInValue
    | d :: _ => if d = w then readWord v ws c.next else c.next.fail .expectedIdent

def digitValue (d : Char) : Nat := d.toNat - 48

/-- The greatest significand that is kept; further digits only scale it. -/
def maxSignificand : Nat := Nat.pow 2 64 - 1

/-- Takes digits into the significand as long as they fit. -/
def takeDigits : Nat → Nat → Nat → Cursor → Nat × Nat × Cursor
  | 0, sig, taken, c => (sig, taken, c)
  | fuel + 1, sig, taken, c =>
    match c.rest with
    | d :: _ =>
      if d.isDigit ∧ sig * 10 + digitValue d ≤ maxSignificand then
        takeDigits fuel (sig * 10 + digitValue d) (taken + 1) c.next
      else (sig, taken, c)
    | [] => (sig, taken, c)

/-- The number of digits ahead, and the place after them. -/
def passDigits (c : Cursor) : Nat × Cursor :=
  let n := (c.rest.takeWhile Char.isDigit).length
  (n, c.skip n)

/-- The double nearest to a power of ten that is in range. -/
private def powerOfTen (n : Nat) : Nat × Int :=
  match Format.double.round false (Nat.pow 10 n) 1 with
  | .finite _ m e => (m, e)
  | _ => (0, 0)

/-- `sig · 10 ^ exponent` as it is scaled here: the significand is rounded first, then multiplied or
divided by a rounded power of ten, in steps of `10 ^ 308` where the exponent is far below. -/
def scaled (negative : Bool) (sig : Nat) (exponent : Int) : Option Binary :=
  go 8 (Format.double.round negative sig 1) exponent
where
  go : Nat → Binary → Int → Option Binary
    | 0, x, _ => some x
    | fuel + 1, x, exponent =>
      match x with
      | .finite s m e =>
        if exponent.natAbs ≤ 308 then
          let (pm, pe) := powerOfTen exponent.natAbs
          if 0 ≤ exponent then
            match Format.double.mul s m e pm pe with
            | .infinite _ => none
            | y => some y
          else some (Format.double.div s m e pm pe)
        else if m = 0 then some x
        else if 0 ≤ exponent then none
        else
          let (pm, pe) := powerOfTen 308
          go fuel (Format.double.div s m e pm pe) (exponent + 308)
      | y => some y

def finishFloat (negative : Bool) (sig : Nat) (exponent : Int) : Step Value := fun c =>
  match scaled negative sig exponent with
  | some x => .ok (.num (.float x), c)
  | none => c.fail .numberOutOfRange

def expDigits : Nat → Nat → Cursor → Nat × Bool × Cursor
  | 0, n, c => (n, false, c)
  | fuel + 1, n, c =>
    match c.rest with
    | d :: _ =>
      if d.isDigit then
        if n * 10 + digitValue d < Nat.pow 2 31 then expDigits fuel (n * 10 + digitValue d) c.next
        else (n, true, c.next)
      else (n, false, c)
    | [] => (n, false, c)

/-- Reads the digits of an exponent, which may have been told to go down. -/
def readExponentDigits (negative : Bool) (sig : Nat) (exponent : Int) (down : Bool) : Step Value := fun c =>
  match c.rest with
  | [] => c.fail .endInValue
  | d :: s =>
    if d.isDigit then
      match expDigits s.length (digitValue d) c.next with
      | (_, true, c) =>
        if sig ≠ 0 ∧ !down then c.fail .numberOutOfRange
        else .ok (.num (.float (.finite negative 0 Format.double.minExp)), (passDigits c).2)
      | (n, false, c) =>
        finishFloat negative sig (if down then exponent - Int.ofNat n else exponent + Int.ofNat n) c
    else c.next.fail .invalidNumber

/-- Reads an exponent, from its letter on. -/
def readExponent (negative : Bool) (sig : Nat) (exponent : Int) : Step Value := fun c =>
  match c.next.rest with
  | '+' :: _ => readExponentDigits negative sig exponent false c.next.next
  | '-' :: _ => readExponentDigits negative sig exponent true c.next.next
  | _ => readExponentDigits negative sig exponent false c.next

/-- Goes on after the digits: an exponent, or the end of the number. -/
def afterDigits (negative : Bool) (sig : Nat) (exponent : Int) : Step Value := fun c =>
  match c.rest with
  | 'e' :: _ | 'E' :: _ => readExponent negative sig exponent c
  | _ => finishFloat negative sig exponent c

/-- Reads a fraction, from its point on. -/
def readFraction (negative : Bool) (sig : Nat) (exponent : Int) : Step Value := fun c =>
  let c := c.next
  let (sig, taken, c) := takeDigits c.rest.length sig 0 c
  let exponent := exponent - Int.ofNat taken
  if (c.rest.head?.map Char.isDigit).getD false then
    afterDigits negative sig exponent (passDigits c).2
  else if taken = 0 then
    c.failAhead (if c.rest.isEmpty then .endInValue else .invalidNumber)
  else afterDigits negative sig exponent c

/-- A whole number that may be too small or, with a minus sign, zero. -/
def wholeNumber (negative : Bool) (sig : Nat) : Value :=
  if negative then
    if sig = 0 ∨ Nat.pow 2 63 < sig then .num (.float (Format.double.round true sig 1))
    else .num (.int (-Int.ofNat sig))
  else .num (.int sig)

/-- Reads a number after its sign. -/
def readNumber (negative : Bool) : Step Value := fun c =>
  match c.rest with
  | [] => c.fail .endInValue
  | d :: s =>
    if d = '0' ∧ (s.head?.map Char.isDigit).getD false then c.next.failAhead .invalidNumber
    else if d.isDigit then
      let (sig, _, c) := if d = '0' then (0, 1, c.next) else takeDigits c.rest.length 0 0 c
      if d ≠ '0' ∧ (c.rest.head?.map Char.isDigit).getD false then
        let (n, c) := passDigits c
        match c.rest with
        | '.' :: _ => readFraction negative sig n c
        | _ => afterDigits negative sig n c
      else
        match c.rest with
        | '.' :: _ => readFraction negative sig 0 c
        | 'e' :: _ | 'E' :: _ => readExponent negative sig 0 c
        | _ => .ok (wholeNumber negative sig, c)
    else c.next.fail .invalidNumber

/-! ## Texts -/

def hexValue? (d : Char) : Option Nat :=
  if d.isDigit then some (d.toNat - 48)
  else if 'a' ≤ d ∧ d ≤ 'f' then some (d.toNat - 87)
  else if 'A' ≤ d ∧ d ≤ 'F' then some (d.toNat - 55)
  else none

/-- Four hexadecimal digits. -/
def readHex : Step Nat := fun c =>
  match c.rest with
  | a :: b :: d :: e :: _ =>
    match hexValue? a, hexValue? b, hexValue? d, hexValue? e with
    | some a, some b, some d, some e => .ok (((a * 16 + b) * 16 + d) * 16 + e, c.skip 4)
    | _, _, _, _ => (c.skip 4).fail .invalidEscape
  | _ => (c.skip 4).fail .endInText

/-- The character of an escape by code point, which may take two escapes. -/
def readCodePoint : Step Char := fun c => do
  let (n, c) ← readHex c
  if 0xDC00 ≤ n ∧ n ≤ 0xDFFF then c.fail .loneSurrogate
  else if n < 0xD800 ∨ 0xDBFF < n then .ok (Char.ofNat n, c)
  else
    match c.rest with
    | [] => c.fail .endInText
    | '\\' :: s =>
      let c := c.next
      match s with
      | [] => c.fail .endInText
      | 'u' :: _ =>
        let (m, c) ← readHex c.next
        if m < 0xDC00 ∨ 0xDFFF < m then c.fail .loneSurrogate
        else .ok (Char.ofNat ((n - 0xD800) * 1024 + (m - 0xDC00) + 0x10000), c)
      | _ => c.next.fail .endOfHexEscape
    | _ => c.next.fail .endOfHexEscape

/-- The character of an escape, after its backslash. -/
def readEscape : Step Char := fun c =>
  match c.rest with
  | [] => c.fail .endInText
  | '"' :: _ => .ok ('"', c.next)
  | '\\' :: _ => .ok ('\\', c.next)
  | '/' :: _ => .ok ('/', c.next)
  | 'b' :: _ => .ok ('\x08', c.next)
  | 'f' :: _ => .ok ('\x0c', c.next)
  | 'n' :: _ => .ok ('\n', c.next)
  | 'r' :: _ => .ok ('\r', c.next)
  | 't' :: _ => .ok ('\t', c.next)
  | 'u' :: _ => readCodePoint c.next
  | _ :: _ => c.next.fail .invalidEscape

/-- The characters up to the closing quotation mark. -/
def readChars : Nat → List Char → Step String
  | 0, _, c => c.fail .endInText
  | fuel + 1, done, c =>
    match c.rest with
    | [] => c.fail .endInText
    | '"' :: _ => .ok (String.ofList done.reverse, c.next)
    | '\\' :: _ => do
      let (d, c) ← readEscape c.next
      readChars fuel (d :: done) c
    | d :: _ =>
      if d.toNat < 32 then c.next.fail .controlCharacter else readChars fuel (d :: done) c.next

/-- A text after its opening quotation mark. -/
def readText : Step String := fun c => readChars (c.rest.length + 1) [] c

/-! ## Lists and objects -/

/-- The items after `[`, or after an item; `first` tells which. -/
def readItems (item : Step Value) : Nat → Bool → List Value → Step (List Value)
  | 0, _, _, c => c.failAhead .endInList
  | fuel + 1, first, done, c =>
    let c := c.skipSpace
    match c.rest with
    | [] => c.failAhead .endInList
    | ']' :: _ => .ok (done.reverse, c.next)
    | d :: _ => do
      let c ←
        if first then pure c
        else if d = ',' then
          let c := c.next.skipSpace
          match c.rest with
          | ']' :: _ => c.failAhead .trailingComma
          | [] => c.failAhead .endInValue
          | _ => pure c
        else c.failAhead .expectedListEnd
      let (v, c) ← item c
      readItems item fuel false (v :: done) c

/-- The value of a field, after its name. -/
def readNamed (item : Step Value) (c : Cursor) : Except ReadError (Value × Cursor) :=
  let c := c.skipSpace
  match c.rest with
  | ':' :: _ => item c.next
  | [] => c.failAhead .endInObject
  | _ => c.failAhead .expectedColon

/-- The fields after the opening brace, or after a field. -/
def readFields (item : Step Value) : Nat → Bool → List (String × Value) → Step Value
  | 0, _, _, c => c.failAhead .endInObject
  | fuel + 1, first, done, c =>
    let c := c.skipSpace
    match c.rest with
    | [] => c.failAhead .endInObject
    | d :: _ =>
      if d = '\x7d' then .ok (.obj done, c.next)
      else do
        let c ←
          if first then (if d = '"' then pure c else c.failAhead .keyNotText)
          else if d = ',' then
            let c := c.next.skipSpace
            match c.rest with
            | '"' :: _ => pure c
            | e :: _ => c.failAhead (if e = '\x7d' then .trailingComma else .keyNotText)
            | [] => c.failAhead .endInValue
          else c.failAhead .expectedObjectEnd
        let (name, c) ← readText c.next
        let (v, c) ← readNamed item c
        readFields item fuel false (Value.insertField name v done) c

/-- Reads a value in which lists and objects nest less than `depth` times. -/
def readValue : Nat → Step Value
  | 0, c => c.failAhead .tooDeep
  | depth + 1, c =>
    let c := c.skipSpace
    match c.rest with
    | [] => c.failAhead .endInValue
    | 'n' :: _ => readWord .null ['u', 'l', 'l'] c.next
    | 't' :: _ => readWord (.bool true) ['r', 'u', 'e'] c.next
    | 'f' :: _ => readWord (.bool false) ['a', 'l', 's', 'e'] c.next
    | '-' :: _ => readNumber true c.next
    | '"' :: _ => do
      let (s, c) ← readText c.next
      pure (.str s, c)
    | '[' :: s =>
      if depth = 0 then c.failAhead .tooDeep
      else do
        let (vs, c) ← readItems (readValue depth) (s.length + 1) true [] c.next
        pure (.arr vs, c)
    | d :: s =>
      if d = '\x7b' then
        if depth = 0 then c.failAhead .tooDeep
        else readFields (readValue depth) (s.length + 1) true [] c.next
      else if d.isDigit then readNumber false c
      else c.failAhead .expectedValue

/-- Lists and objects may nest this deep, less one. -/
def maxDepth : Nat := 128

/-- The value that a text writes. -/
def read (s : List Char) : Except ReadError Value := do
  let (v, c) ← readValue maxDepth (.start s)
  let c := c.skipSpace
  if c.rest.isEmpty then pure v else c.failAhead .trailingCharacters

end AppMend.Json
