/-!
# Binary floating point

A floating point number is an integer times a power of two. A `Format` bounds the integer and the
exponent, and `Format.round` takes a ratio of naturals to the nearest number of the format, a tie to
the even integer. All arithmetic is on naturals, so nothing is lost before the one rounding.

`Format.shortest` goes the other way: among the decimals that round to a number it finds one with the
fewest digits, and of those the nearest.
-/

namespace AppMend.Number

/-- A binary format: `precision` bits, and the least and greatest exponent of the unit. -/
structure Format where
  precision : Nat
  minExp : Int
  maxExp : Int
deriving DecidableEq

/-- Sixty-four bits. -/
def Format.double : Format := ⟨53, -1074, 971⟩

/-- Thirty-two bits. -/
def Format.single : Format := ⟨24, -149, 104⟩

/-- `finite negative m e` is `m · 2 ^ e`, or its opposite. -/
inductive Binary where
  | finite (negative : Bool) (m : Nat) (e : Int)
  | infinite (negative : Bool)
  | nan
deriving DecidableEq, Inhabited

/-- The ratio `num / den` scaled by `2 ^ -e`. -/
def scaleDown (num den : Nat) (e : Int) : Nat × Nat :=
  if 0 ≤ e then (num, den * Nat.pow 2 e.toNat) else (num * Nat.pow 2 (-e).toNat, den)

/-- The integer nearest to `num / den`; a half goes to the even neighbour. -/
def nearest (num den : Nat) : Nat :=
  let q := num / den
  let r := 2 * (num % den)
  if r < den then q else if den < r then q + 1 else if q % 2 = 0 then q else q + 1

namespace Format

/-- The number of the format nearest to `num / den`. -/
def round (f : Format) (negative : Bool) (num den : Nat) : Binary :=
  if num = 0 then .finite negative 0 f.minExp
  else
    let guess : Int := Int.ofNat num.log2 - Int.ofNat den.log2 - f.precision
    let e := max f.minExp guess
    let (n, d) := scaleDown num den e
    let e := if n / d < Nat.pow 2 f.precision then e else e + 1
    let (n, d) := scaleDown num den e
    let m := nearest n d
    let (m, e) := if m < Nat.pow 2 f.precision then (m, e) else (m / 2, e + 1)
    if f.maxExp < e then .infinite negative else .finite negative m e

/-- The number nearest to `digits · 10 ^ exponent`. Exponents far out of range decide by themselves. -/
def ofDecimal (f : Format) (negative : Bool) (digits : Nat) (exponent : Int) : Binary :=
  if digits = 0 then .finite negative 0 f.minExp
  else if 400 < exponent then .infinite negative
  else if exponent + Int.ofNat (digits.log2 / 3 + 1) < -400 then .finite negative 0 f.minExp
  else if 0 ≤ exponent then f.round negative (digits * Nat.pow 10 exponent.toNat) 1
  else f.round negative digits (Nat.pow 10 (-exponent).toNat)

/-- A number of one format in another. -/
def convert (f : Format) : Binary → Binary
  | .finite negative m e =>
    if 0 ≤ e then f.round negative (m * Nat.pow 2 e.toNat) 1 else f.round negative m (Nat.pow 2 (-e).toNat)
  | x => x

/-- The product of the magnitudes of two finite numbers. -/
def mul (f : Format) (negative : Bool) (m₁ : Nat) (e₁ : Int) (m₂ : Nat) (e₂ : Int) : Binary :=
  f.convert (.finite negative (m₁ * m₂) (e₁ + e₂))

/-- The quotient of the magnitudes of two finite numbers, the second not zero. -/
def div (f : Format) (negative : Bool) (m₁ : Nat) (e₁ : Int) (m₂ : Nat) (e₂ : Int) : Binary :=
  let e := e₁ - e₂
  if 0 ≤ e then f.round negative (m₁ * Nat.pow 2 e.toNat) m₂
  else f.round negative m₁ (m₂ * Nat.pow 2 (-e).toNat)

/-- A finite number as an integer times `2 ^ e`, for an `e` that is at most its own exponent. -/
private def scaledTo (negative : Bool) (m : Nat) (e' e : Int) : Int :=
  let n := Int.ofNat (m * Nat.pow 2 (e' - e).toNat)
  if negative then -n else n

/-- The number nearest to `n · 2 ^ e`. -/
def ofScaled (f : Format) (n e : Int) : Binary := f.convert (.finite (n < 0) n.natAbs e)

/-- A result computed on two finite numbers as integers times one power of two. -/
def onCommonScale (f : Format) (op : Int → Int → Int) (n₁ : Bool) (m₁ : Nat) (e₁ : Int) (n₂ : Bool)
    (m₂ : Nat) (e₂ : Int) : Binary :=
  let e := min e₁ e₂
  f.ofScaled (op (scaledTo n₁ m₁ e₁ e) (scaledTo n₂ m₂ e₂ e)) e

/-- A ratio as a fraction of `10 ^ k`. -/
private def scaleTen (num den : Nat) (k : Int) : Nat × Nat :=
  if 0 ≤ k then (num, den * Nat.pow 10 k.toNat) else (num * Nat.pow 10 (-k).toNat, den)

/-- The exponent of the leading decimal digit of `num / den`, sought upwards from `k`. -/
private def leadingExponent (num den : Nat) : Nat → Int → Int
  | 0, k => k
  | fuel + 1, k =>
    let (n, d) := scaleTen num den (k + 1)
    if d ≤ n then leadingExponent num den fuel (k + 1) else k

/-- Decimal digits `d` and an exponent `k` such that `d · 10 ^ k` rounds to `m · 2 ^ e`, with as few
digits as can be, and of those the nearest. -/
def shortest (f : Format) (m : Nat) (e : Int) : Nat × Int :=
  if m = 0 then (0, 0)
  else
    let below := if m = Nat.pow 2 (f.precision - 1) ∧ f.minExp < e then 1 else 2
    let quarter (n : Nat) : Nat × Nat :=
      if 2 ≤ e then (n * Nat.pow 2 (e - 2).toNat, 1) else (n, Nat.pow 2 (2 - e).toNat)
    let (v, den) := quarter (4 * m)
    let (lo, _) := quarter (4 * m - below)
    let (hi, _) := quarter (4 * m + 2)
    let start := (Int.ofNat m.log2 + e) * 30103 / 100000 - 2
    let top := leadingExponent v den 6 start
    let inside (c : Nat) (k : Int) : Bool :=
      let x := if 0 ≤ k then c * Nat.pow 10 k.toNat * den else c * den
      let s := if 0 ≤ k then 1 else Nat.pow 10 (-k).toNat
      if m % 2 = 0 then lo * s ≤ x && x ≤ hi * s else lo * s < x && x < hi * s
    let rec go : Nat → Nat → Nat × Int
      | 0, n => (nearest (scaleTen v den (top - n + 1)).1 (scaleTen v den (top - n + 1)).2, top - n + 1)
      | fuel + 1, n =>
        let k := top - n + 1
        let (num, d) := scaleTen v den k
        let c := num / d
        let c' := nearest num d
        if inside c' k then (c', k)
        else if inside c k then (c, k)
        else if inside (c + 1) k then (c + 1, k)
        else go fuel (n + 1)
    go 17 1

end Format

/-- Drops the zeros at the end of the digits. -/
def stripZeros : Nat → Nat → Int → Nat × Int
  | 0, d, k => (d, k)
  | fuel + 1, d, k => if d ≠ 0 ∧ d % 10 = 0 then stripZeros fuel (d / 10) (k + 1) else (d, k)

/-- How a number is laid out: the range of leading exponents that are written without an exponent, and
the look of an exponent. -/
structure Layout where
  plainFrom : Int
  plainTo : Int
  plusSign : Bool
  exponentDigits : Nat
deriving DecidableEq

private def padZeros (n : Nat) (s : String) : String :=
  String.ofList (List.replicate (n - s.length) '0') ++ s

/-- The text of a positive decimal `d · 10 ^ k`. Without an exponent there is always a digit after the
point. -/
def Layout.decimal (l : Layout) (d : Nat) (k : Int) : String :=
  let digits := toString d
  let len := Int.ofNat digits.length
  let top := len - 1 + k
  if l.plainFrom ≤ top ∧ top ≤ l.plainTo then
    if 0 ≤ k then digits ++ String.ofList (List.replicate k.toNat '0') ++ ".0"
    else if 0 ≤ top then
      let n := (top + 1).toNat
      String.ofList (digits.toList.take n) ++ "." ++ String.ofList (digits.toList.drop n)
    else "0." ++ String.ofList (List.replicate (-top - 1).toNat '0') ++ digits
  else
    let mantissa := String.ofList (digits.toList.take 1) ++
      (if 1 < digits.length then "." ++ String.ofList (digits.toList.drop 1) else "")
    let sign := if top < 0 then "-" else if l.plusSign then "+" else ""
    mantissa ++ "e" ++ sign ++ padZeros l.exponentDigits (toString top.natAbs)

/-- The text of a number of a format, with the fewest digits that read back. -/
def Layout.text (l : Layout) (f : Format) : Binary → String
  | .finite negative m e =>
    let (d, k) := f.shortest m e
    let (d, k) := stripZeros 20 d k
    (if negative then "-" else "") ++ (if d = 0 then "0.0" else l.decimal d k)
  | .infinite negative => if negative then "-inf" else "inf"
  | .nan => "NaN"

/-- Numbers within a document: plain from `1e-5` below `1e16`; an exponent has a sign and two digits. -/
def Layout.document : Layout := ⟨-5, 15, true, 2⟩

/-- Numbers shown to a reader: plain from `1e-4` below `1e16`. -/
def Layout.display : Layout := ⟨-4, 15, false, 1⟩

end AppMend.Number
