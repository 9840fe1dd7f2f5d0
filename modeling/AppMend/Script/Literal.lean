import AppMend.Number.Binary
import AppMend.Script.Syntax
import AppMend.Script.Token

/-!
# Literals in a printed script

The text of numbers and strings in the code that is written out. A number takes the shortest of a few
spellings: plain, hexadecimal, or with an exponent. A string stands in double quotation marks, and
nothing in it can end a script element, because the slash of a closing script tag is escaped.
-/

namespace AppMend.Script

open Number

/-! ## Numbers -/

private def zeros (n : Nat) : String := String.ofList (List.replicate n '0')

/-- The usual text of `d · 10 ^ k`: positional for numbers from `1e-6` below `1e21`. -/
def decimalText (d : Nat) (k : Int) : String :=
  let digits := toString d
  let len := digits.length
  let point := Int.ofNat len + k
  if 0 ≤ k ∧ point ≤ 21 then digits ++ zeros k.toNat
  else if 0 < point ∧ point ≤ 21 then
    String.ofList (digits.toList.take point.toNat) ++ "." ++
      String.ofList (digits.toList.drop point.toNat)
  else if -6 < point ∧ point ≤ 0 then "0." ++ zeros (-point).toNat ++ digits
  else
    let e := point - 1
    String.ofList (digits.toList.take 1) ++
      (if 1 < len then "." ++ String.ofList (digits.toList.drop 1) else "") ++
      "e" ++ (if e < 0 then "-" else "+") ++ toString e.natAbs

/-- Hexadecimal digits in lower case. -/
def hexText (n : Nat) : String := String.ofList (Nat.toDigits 16 n)

/-- The first of the shortest texts. -/
def shortestText (first : String) (more : List String) : String :=
  more.foldl (fun best s => if s.length < best.length then s else best) first

/-- The digits after any zeros at the start, and how many zeros those are. -/
private def dropZeros (s : List Char) : Nat × List Char :=
  ((s.takeWhile (· == '0')).length, s.dropWhile (· == '0'))

/-- Spellings of a number that has the usual text `s`, with `whole` if it is a whole number. -/
def spellings (whole : Option Nat) (s : String) : List String :=
  let chars := s.toList
  let hex := (whole.map fun n => "0x" ++ hexText n).toList
  match chars with
  | '.' :: '0' :: _ =>
    let (n, digits) := dropZeros (chars.drop 1)
    [String.ofList digits ++ "e-" ++ toString (digits.length + n)] ++ hex
  | _ =>
    let trailing := (chars.reverse.takeWhile (· == '0')).length
    if 0 < trailing ∧ !chars.contains 'e' ∧ !chars.contains '.' then
      hex ++ [String.ofList (chars.take (chars.length - trailing)) ++ "e" ++ toString trailing]
    else
      let mantissa := chars.takeWhile (· != 'e')
      match chars.drop (mantissa.length + 1) with
      | [] => hex
      | exponent =>
        let whole := mantissa.takeWhile (· != '.')
        match mantissa.drop (whole.length + 1) with
        | [] => hex
        | fraction =>
          let value : Int := match exponent with
            | '-' :: e => -Int.ofNat ((String.ofList e).toNat?.getD 0)
            | e => Int.ofNat ((String.ofList e).toNat?.getD 0)
          hex ++ [String.ofList (whole ++ fraction) ++ "e" ++ toString (value - Int.ofNat fraction.length)]

/-- The value of a finite number if it is whole. -/
def wholeValue? (m : Nat) (e : Int) : Option Nat :=
  if 0 ≤ e then some (m * Nat.pow 2 e.toNat)
  else if m % Nat.pow 2 (-e).toNat = 0 then some (m / Nat.pow 2 (-e).toNat) else none

/-- The text of a number that is not negative. -/
def magnitudeText : Binary → String
  | .infinite _ => "Infinity"
  | .nan => "NaN"
  | .finite _ m e =>
    let whole := wholeValue? m e
    let (d, k) := Format.double.shortest m e
    let (d, k) := stripZeros 20 d k
    if (whole.map fun n => decide (n < 1000)).getD false then toString (whole.getD 0)
    else
      let s := (decimalText d k).toList.filter (· != '+')
      let s := match s with
        | '0' :: '.' :: t => '.' :: t
        | s => s
      let s := String.ofList s
      shortestText s (spellings whole s)

/-- Whether a number's text is digits alone, so that a point after it would join it. -/
def isBareDigits (s : String) : Bool := s.toList.all Char.isDigit

/-- Drops what separates digits. -/
private def unseparated (s : List Char) : List Char := s.filter (· != '_')

private def radixValue (radix : Nat) (s : List Char) : Nat :=
  s.foldl (fun n d => n * radix + (hexDigit? d).getD 0) 0

/-- The value of a number as it is written. -/
def numberValue (text : String) : Binary :=
  match unseparated text.toList with
  | '0' :: x :: ds =>
    if x = 'x' ∨ x = 'X' then Format.double.round false (radixValue 16 ds) 1
    else if x = 'o' ∨ x = 'O' then Format.double.round false (radixValue 8 ds) 1
    else if x = 'b' ∨ x = 'B' then Format.double.round false (radixValue 2 ds) 1
    else if (x :: ds).all fun d => '0' ≤ d && d ≤ '7' then
      Format.double.round false (radixValue 8 (x :: ds)) 1
    else decimal ('0' :: x :: ds)
  | s => decimal s
where
  decimal (s : List Char) : Binary :=
    let mantissa := s.takeWhile fun c => c != 'e' && c != 'E'
    let exponent : Int := match s.drop (mantissa.length + 1) with
      | '-' :: e => -Int.ofNat ((String.ofList e).toNat?.getD 0)
      | '+' :: e => Int.ofNat ((String.ofList e).toNat?.getD 0)
      | e => Int.ofNat ((String.ofList e).toNat?.getD 0)
    let whole := mantissa.takeWhile (· != '.')
    let fraction := mantissa.drop (whole.length + 1)
    Format.double.ofDecimal false (radixValue 10 (whole ++ fraction))
      (exponent - Int.ofNat fraction.length)

/-- The digits of a big integer as it is written, in decimal. -/
def bigintDigits (s : String) : String :=
  match unseparated s.toList with
  | '0' :: x :: ds =>
    let digits := ds.filter (· != 'n')
    if x = 'x' ∨ x = 'X' then toString (radixValue 16 digits)
    else if x = 'o' ∨ x = 'O' then toString (radixValue 8 digits)
    else if x = 'b' ∨ x = 'B' then toString (radixValue 2 digits)
    else "0"
  | ds => String.ofList (ds.filter (· != 'n'))

/-! ## Regular expressions -/

/-- A regular expression with its flags in their usual order. -/
def regexText (s : String) : String :=
  let flags := (s.toList.reverse.takeWhile (· != '/')).reverse
  String.ofList (s.toList.take (s.length - flags.length) ++ "gimsuydv".toList.filter flags.contains)

/-! ## Strings -/

/-- The closing script tag without its bracket. -/
private def scriptTail : List Nat := pointsOf "/script"

private def lowerPoint (n : Nat) : Nat := if 65 ≤ n ∧ n ≤ 90 then n + 32 else n

/-- Whether a closing script tag goes on here after its bracket. -/
def startsScriptTail (s : List Nat) : Bool :=
  scriptTail.isPrefixOf ((s.take scriptTail.length).map lowerPoint)

/-- A code point within double quotation marks, before the rest of its string. -/
def escapePoint (n : Nat) (rest : List Nat) : List Char :=
  if n = 0 then
    if (rest.head?.map fun d => 48 ≤ d && d ≤ 57).getD false then "\\x00".toList else "\\0".toList
  else if n = 7 then "\\x07".toList
  else if n = 8 then "\\b".toList
  else if n = 10 then "\\n".toList
  else if n = 11 then "\\v".toList
  else if n = 12 then "\\f".toList
  else if n = 13 then "\\r".toList
  else if n = 27 then "\\x1B".toList
  else if n = 34 then "\\\"".toList
  else if n = 92 then "\\\\".toList
  else if n = 0xA0 then "\\xA0".toList
  else if n = 0x2028 then "\\u2028".toList
  else if n = 0x2029 then "\\u2029".toList
  else if n = 60 ∧ startsScriptTail rest then "<\\".toList
  else if 0xD800 ≤ n ∧ n ≤ 0xDFFF then "\\u".toList ++ (hexText n).toList
  else [Char.ofNat n]

/-- The characters of a string between its marks. -/
def stringChars : List Nat → List Char
  | [] => []
  | n :: rest => escapePoint n rest ++ stringChars rest

/-- A string in double quotation marks. -/
def stringText (value : List Nat) : String := "\"" ++ String.ofList (stringChars value) ++ "\""

/-- Text that is written as it stands, but for closing script tags. -/
def escapeScriptTags : List Char → List Char
  | [] => []
  | c :: s =>
    (if c = '<' ∧ startsScriptTail ((s.take 7).map (·.toNat)) then ['<', '\\'] else [c]) ++
      escapeScriptTags s

def rawText (s : String) : String := String.ofList (escapeScriptTags s.toList)

end AppMend.Script
