import AppMend.Number.Binary
import AppMend.Text.Letter
import AppMend.Toml.Value

/-!
# Words of settings documents

Truth values, numbers and times, each told by the whole of a word. Digits of a number may be parted by
single underscores. An integer has to fit in sixty-four bits; a date has to be in the calendar.
-/

namespace AppMend.Toml

open AppMend.Number Text

/-- Digits of a class with single underscores between them, without the underscores. -/
def digitRun? (isDigit : Char → Bool) : List Char → Option (List Char)
  | [] => none
  | [c] => if isDigit c then some [c] else none
  | c :: '_' :: s => if isDigit c then (digitRun? isDigit s).map (c :: ·) else none
  | c :: s => if isDigit c then (digitRun? isDigit s).map (c :: ·) else none

/-- The value of an ASCII digit or letter. -/
def digitOf (c : Char) : Nat :=
  if c.isDigit then c.toNat - 48 else if c.isLower then c.toNat - 87 else c.toNat - 55

def natOf (base : Nat) (s : List Char) : Nat := s.foldl (fun n c => n * base + digitOf c) 0

/-- A sign and what follows it. -/
def signed : List Char → Bool × List Char
  | '+' :: s => (false, s)
  | '-' :: s => (true, s)
  | s => (false, s)

/-- Decimal digits of which the first is no zero unless it is alone. -/
def decimalDigits? (s : List Char) : Option (List Char) :=
  match s with
  | '0' :: _ :: _ => none
  | s => digitRun? Char.isDigit s

/-- An integer if it is in range. -/
def ranged (n : Int) : Option Value :=
  if -0x8000000000000000 ≤ n ∧ n < 0x8000000000000000 then some (.int n) else none

def integer? (w : List Char) : Option Value :=
  match w with
  | '0' :: 'x' :: s => (digitRun? isHexDigit s).bind fun d => ranged (natOf 16 d)
  | '0' :: 'o' :: s => (digitRun? (fun c => '0' ≤ c && c ≤ '7') s).bind fun d => ranged (natOf 8 d)
  | '0' :: 'b' :: s => (digitRun? (fun c => c == '0' || c == '1') s).bind fun d => ranged (natOf 2 d)
  | w =>
    let (negative, s) := signed w
    (decimalDigits? s).bind fun d => ranged (if negative then -Int.ofNat (natOf 10 d) else natOf 10 d)

/-- The exponent of a number, without its mark; nothing is zero. -/
def exponent? : List Char → Option Int
  | [] => some 0
  | _ :: s =>
    let (negative, s) := signed s
    (digitRun? Char.isDigit s).map fun d =>
      if negative then -Int.ofNat (natOf 10 d) else natOf 10 d

/-- A number with a fraction or an exponent. Only a positive one can be too great. -/
def fraction? (w : List Char) : Option Value :=
  let (negative, s) := signed w
  let isMark (c : Char) : Bool := c == 'e' || c == 'E'
  let mantissa := s.takeWhile (!isMark ·)
  let tail := s.dropWhile (!isMark ·)
  let whole := mantissa.takeWhile (· != '.')
  match mantissa.dropWhile (· != '.') with
  | [] => if tail.isEmpty then none else number negative whole [] tail
  | _ :: f => (digitRun? Char.isDigit f).bind fun f => number negative whole f tail
where
  number (negative : Bool) (whole f tail : List Char) : Option Value := do
    let whole ← decimalDigits? whole
    let e ← exponent? tail
    match Format.double.ofDecimal negative (natOf 10 (whole ++ f)) (e - f.length) with
    | .infinite false => none
    | _ => some .float

def special? (w : List Char) : Option Value :=
  let (_, s) := signed w
  if s = "inf".toList ∨ s = "nan".toList then some .float else none

/-! ## Times -/

/-- A number of exactly `n` digits that is in a range, and what follows. -/
def field? (n lo hi : Nat) (s : List Char) : Option (Nat × List Char) :=
  let d := s.take n
  let v := natOf 10 d
  if d.length = n ∧ d.all Char.isDigit ∧ lo ≤ v ∧ v ≤ hi then some (v, s.drop n) else none

/-- What follows a character. -/
def after? (c : Char) : List Char → Option (List Char)
  | d :: s => if d = c then some s else none
  | [] => none

def daysIn (year month : Nat) : Nat :=
  if month = 2 then
    if year % 4 = 0 ∧ (year % 100 ≠ 0 ∨ year % 400 = 0) then 29 else 28
  else if [4, 6, 9, 11].contains month then 30
  else 31

/-- What follows a date. -/
def date? (s : List Char) : Option (List Char) := do
  let (year, s) ← field? 4 0 9999 s
  let (month, s) ← field? 2 1 12 (← after? '-' s)
  let (_, s) ← field? 2 1 (daysIn year month) (← after? '-' s)
  pure s

/-- The fraction of a second after its point: at most nine digits count, and zeros at the end do not. -/
def fractionText (digits : List Char) : List Char :=
  match ((digits.take 9).reverse.dropWhile (· == '0')).reverse with
  | [] => []
  | kept => '.' :: kept

/-- A time of the day, and what follows. -/
def clock? (s : List Char) : Option (List Char × List Char) := do
  let whole := s.take 8
  let (_, s) ← field? 2 0 23 s
  let (_, s) ← field? 2 0 59 (← after? ':' s)
  let (_, s) ← field? 2 0 60 (← after? ':' s)
  match s with
  | '.' :: c :: s =>
    if c.isDigit then
      some (whole ++ fractionText (c :: s.takeWhile Char.isDigit), s.dropWhile Char.isDigit)
    else none
  | '.' :: [] => none
  | s => some (whole, s)

/-- The difference from universal time, which may be left out. None has no sign. -/
def offset? : List Char → Option (List Char)
  | [] => some []
  | c :: s =>
    if c = 'Z' ∨ c = 'z' then if s.isEmpty then some ['Z'] else none
    else if c = '+' ∨ c = '-' then do
      let (hours, t) ← field? 2 0 23 s
      let (minutes, t) ← field? 2 0 59 (← after? ':' t)
      if t.isEmpty then some ((if hours + minutes = 0 then '+' else c) :: s) else none
    else none

/-- A time of the day with an offset. -/
def clockWithOffset? (s : List Char) : Option (List Char) := do
  let (clock, s) ← clock? s
  pure (clock ++ (← offset? s))

/-- A date, a time of the day, or both, as it is kept. -/
def time? (w : List Char) : Option (List Char) :=
  match date? w with
  | some [] => some w
  | some (c :: s) =>
    if c = 'T' ∨ c = 't' ∨ c = ' ' then (clockWithOffset? s).map (w.take 10 ++ 'T' :: ·) else none
  | none =>
    match clock? w with
    | some (clock, []) => some clock
    | _ => none

/-! ## Words -/

/-- A character that a word may have. -/
def isWordPart (c : Char) : Bool := c.isAlphanum || "_+-.:".toList.contains c

/-- A word that stands for a value. -/
def scalar? (w : List Char) : Option Value :=
  if w = "true".toList then some (.bool true)
  else if w = "false".toList then some (.bool false)
  else
    match time? w with
    | some t => some (.time (String.ofList t))
    | none => ((special? w).or (fraction? w)).or (integer? w)

/-- The word ahead and what follows. A blank after a date does not end it when a time follows. -/
def wordAhead (s : List Char) : List Char × List Char :=
  let w := s.takeWhile isWordPart
  let rest := s.dropWhile isWordPart
  match date? w, rest with
  | some [], ' ' :: c :: d :: ':' :: s =>
    if c.isDigit ∧ d.isDigit then
      (w ++ ' ' :: c :: d :: ':' :: s.takeWhile isWordPart, s.dropWhile isWordPart)
    else (w, rest)
  | _, _ => (w, rest)

end AppMend.Toml
