import AppMend.Number.Binary

/-!
# Numbers as a user writes them

A decimal number with an optional sign, fraction and exponent, or the name of a number that is not
finite, in either case. Nothing may stand around it.
-/

namespace AppMend.Number

/-- The digits at the start of a text, and what follows them. -/
private def digitsAhead (s : List Char) : List Char × List Char :=
  (s.takeWhile Char.isDigit, s.dropWhile Char.isDigit)

private def valueOf (digits : List Char) : Nat :=
  digits.foldl (fun n c => n * 10 + (c.toNat - 48)) 0

/-- The exponent at the end of a number; nothing is zero. -/
private def exponentOf? : List Char → Option Int
  | [] => some 0
  | c :: s =>
    if c = 'e' ∨ c = 'E' then
      let (negative, digits) := match s with
        | '-' :: d => (true, d)
        | '+' :: d => (false, d)
        | d => (false, d)
      if digits.isEmpty ∨ !digits.all Char.isDigit then none
      else some (if negative then -Int.ofNat (valueOf digits) else valueOf digits)
    else none

/-- A number without its sign. -/
private def magnitude? (f : Format) (negative : Bool) (s : List Char) : Option Binary :=
  let word := s.map Char.toLower
  if word = "inf".toList ∨ word = "infinity".toList then some (.infinite negative)
  else if word = "nan".toList then some .nan
  else
    let (whole, rest) := digitsAhead s
    let (part, rest) := match rest with
      | '.' :: r => digitsAhead r
      | r => ([], r)
    if whole.isEmpty ∧ part.isEmpty then none
    else (exponentOf? rest).map fun e =>
      f.ofDecimal negative (valueOf (whole ++ part)) (e - part.length)

/-- The number that a text writes. -/
def Format.ofText? (f : Format) (s : String) : Option Binary :=
  match s.toList with
  | '-' :: r => magnitude? f true r
  | '+' :: r => magnitude? f false r
  | r => magnitude? f false r

end AppMend.Number
