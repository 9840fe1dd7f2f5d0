import AppMend.Number.Binary

/-!
# Arithmetic on floating point numbers

The sum, the product, the quotient, the remainder and the power of any two numbers, with the infinite
ones among them. Where two finite numbers meet, the result is exact before its one rounding.
-/

namespace AppMend.Number

namespace Binary

/-- Whether the sign of a number is a minus. -/
def isNegative : Binary → Bool
  | .finite negative _ _ | .infinite negative => negative
  | .nan => false

def isZero : Binary → Bool
  | .finite _ m _ => m == 0
  | _ => false

/-- The number of the opposite sign. -/
def neg : Binary → Binary
  | .finite negative m e => .finite (!negative) m e
  | .infinite negative => .infinite (!negative)
  | .nan => .nan

/-- The value of a finite number if it is whole. -/
def whole? : Binary → Option Int
  | .finite negative m e =>
    let magnitude : Option Nat :=
      if 0 ≤ e then some (m * Nat.pow 2 e.toNat)
      else if m % Nat.pow 2 (-e).toNat = 0 then some (m / Nat.pow 2 (-e).toNat) else none
    magnitude.map fun n => if negative then -Int.ofNat n else Int.ofNat n
  | _ => none

end Binary

namespace Format

def add (f : Format) : Binary → Binary → Binary
  | .finite n₁ m₁ e₁, .finite n₂ m₂ e₂ => f.onCommonScale (· + ·) n₁ m₁ e₁ n₂ m₂ e₂
  | .infinite n₁, .infinite n₂ => if n₁ = n₂ then .infinite n₁ else .nan
  | .infinite n, .finite .. | .finite .., .infinite n => .infinite n
  | .nan, _ | _, .nan => .nan

def sub (f : Format) (x y : Binary) : Binary := f.add x y.neg

def times (f : Format) : Binary → Binary → Binary
  | .finite n₁ m₁ e₁, .finite n₂ m₂ e₂ => f.mul (n₁ != n₂) m₁ e₁ m₂ e₂
  | .nan, _ | _, .nan => .nan
  | x, y => if x.isZero || y.isZero then .nan else .infinite (x.isNegative != y.isNegative)

def quotient (f : Format) : Binary → Binary → Binary
  | .finite n₁ m₁ e₁, .finite n₂ m₂ e₂ =>
    if m₂ = 0 then (if m₁ = 0 then .nan else .infinite (n₁ != n₂))
    else f.div (n₁ != n₂) m₁ e₁ m₂ e₂
  | .infinite n₁, .finite n₂ _ _ => .infinite (n₁ != n₂)
  | .finite n₁ _ _, .infinite n₂ => .finite (n₁ != n₂) 0 f.minExp
  | _, _ => .nan

/-- The remainder of a division toward zero. -/
def mod (f : Format) : Binary → Binary → Binary
  | .finite n₁ m₁ e₁, .finite n₂ m₂ e₂ =>
    if m₂ = 0 then .nan else f.onCommonScale Int.tmod n₁ m₁ e₁ n₂ m₂ e₂
  | .finite n m e, .infinite _ => .finite n m e
  | _, _ => .nan

/-- The power of a finite number to a whole exponent that is not too large to be worked out. -/
private def wholePower? (f : Format) (negative : Bool) (m : Nat) (e k : Int) : Option Binary :=
  let n := k.natAbs
  if 4096 < n then none
  else
    let sign := negative && n % 2 == 1
    let (num, den) : Nat × Nat :=
      if 0 ≤ e then (Nat.pow m n * Nat.pow 2 (e.toNat * n), 1)
      else (Nat.pow m n, Nat.pow 2 ((-e).toNat * n))
    if 0 ≤ k then some (f.round sign num den)
    else if num = 0 then some (.infinite sign) else some (f.round sign den num)

/-- The power of a number, where it can be worked out exactly. -/
def power? (f : Format) (x y : Binary) : Option Binary :=
  if y.isZero || x.whole? == some 1 then some (f.round false 1 1)
  else
    match x, y with
    | .nan, _ | _, .nan => some .nan
    | .finite n m e, .finite .. => y.whole?.bind fun k => wholePower? f n m e k
    | .finite n m e, .infinite down =>
      if x.whole? == some (-1) then some (f.round false 1 1)
      else
        let isSmall := match f.sub (.finite false m e) (f.round false 1 1) with
          | .finite negative d _ => negative && d != 0
          | _ => false
        if n && m == 0 then some (if down then .infinite false else .finite false 0 f.minExp)
        else some (if isSmall == down then .infinite false else .finite false 0 f.minExp)
    | .infinite n, y =>
      let isOdd := (y.whole?.map fun k => k % 2 == 1).getD false
      some (if y.isNegative then .finite (n && isOdd) 0 f.minExp else .infinite (n && isOdd))

end Format

end AppMend.Number
