import AppMend.Number.Arithmetic
import AppMend.Script.Literal

/-!
# Constants

A value that is known before a script runs: a number or a text. `Expr.constant?` works out the value of
an expression that is made of constants and of members of enumerations whose values are known.
-/

namespace AppMend.Script

open Number

/-- A value that is known before a script runs. -/
inductive Constant where
  | number (x : Binary)
  | string (value : List Nat)
deriving DecidableEq

namespace Constant

/-- A whole number. -/
def ofInt (n : Int) : Constant := number (Format.double.ofScaled n 0)

/-- A number as a signed integer of 32 bits; what is no finite number counts as zero. -/
def word : Binary → Int
  | .finite negative m e =>
    let n : Int := Int.ofNat (if 0 ≤ e then m * Nat.pow 2 e.toNat else m / Nat.pow 2 (-e).toNat)
    Int.bmod (if negative then -n else n) (Nat.pow 2 32)
  | _ => 0

/-- The result of an operator on words. -/
private def wordOp (f : Int → Int → Int) (x y : Binary) : Constant :=
  ofInt (Int.bmod (f (word x) (word y)) (Nat.pow 2 32))

private def bits (f : Nat → Nat → Nat) (a b : Int) : Int :=
  Int.ofNat (f (a % Nat.pow 2 32).toNat (b % Nat.pow 2 32).toNat)

/-- How far a number shifts another. -/
private def shift (b : Int) : Nat := (b % 32).toNat

/-- The result of an operator on two numbers. -/
def arithmetic? (op : String) (x y : Binary) : Option Constant :=
  match op with
  | "+" => some (number (Format.double.add x y))
  | "-" => some (number (Format.double.sub x y))
  | "*" => some (number (Format.double.times x y))
  | "/" => some (number (Format.double.quotient x y))
  | "%" => some (number (Format.double.mod x y))
  | "**" => (Format.double.power? x y).map number
  | "|" => some (wordOp (bits (· ||| ·)) x y)
  | "&" => some (wordOp (bits (· &&& ·)) x y)
  | "^" => some (wordOp (bits (· ^^^ ·)) x y)
  | "<<" => some (wordOp (fun a b => a * Nat.pow 2 (shift b)) x y)
  | ">>" => some (wordOp (fun a b => a / Nat.pow 2 (shift b)) x y)
  | ">>>" => some (ofInt ((word x % Nat.pow 2 32) / Nat.pow 2 (shift (word y))))
  | _ => none

/-- A constant as text. -/
def text : Constant → List Nat
  | string value => value
  | number (.finite negative m e) =>
    let (d, k) := Format.double.shortest m e
    let (d, k) := stripZeros 20 d k
    pointsOf ((if negative && m != 0 then "-" else "") ++ decimalText d k)
  | number (.infinite negative) => pointsOf (if negative then "-Infinity" else "Infinity")
  | number .nan => pointsOf "NaN"

/-- The constant as an expression. -/
def expr : Constant → Expr
  | string value => .string value
  | number (.finite true m e) => .unary "-" (.number (.finite false m e))
  | number (.finite false m e) => .number (.finite false m e)
  | number (.infinite true) => .unary "-" (.name "Infinity")
  | number (.infinite false) => .name "Infinity"
  | number .nan => .name "NaN"

/-- The result of an operator before a constant. A text is no number, and a plus leaves it alone. -/
def unary? (op : String) : Constant → Option Constant
  | number x =>
    match op with
    | "-" => some (number x.neg)
    | "+" => some (number x)
    | "~" => some (ofInt (-word x - 1))
    | _ => none
  | string value =>
    match op with
    | "-" => some (number .nan)
    | "~" => some (ofInt (-1))
    | _ => some (string value)

/-- The result of an operator between two constants. A plus joins texts. -/
def binary? (op : String) : Constant → Constant → Option Constant
  | number x, number y => arithmetic? op x y
  | a, b => if op = "+" then some (string (a.text ++ b.text)) else none

end Constant

/-- The members of an enumeration, the last one first, with the values that are known. -/
abbrev KnownMembers := List (List Nat × Option Constant)

/-- What is known where a value is worked out: the members so far, and the enumerations before. -/
structure Known where
  members : KnownMembers
  enums : List (String × KnownMembers)

/-- The value of a member of another enumeration. -/
def Known.member? (k : Known) (enum : String) (member : List Nat) : Option Constant :=
  (k.enums.lookup enum).bind fun ms => (ms.lookup member).join

/-- The value that a name stands for. -/
def Known.name? (k : Known) (x : String) : Option Constant :=
  match x with
  | "Infinity" => some (.number (.infinite false))
  | "NaN" => some (.number .nan)
  | _ => (k.members.lookup (pointsOf x)).join

namespace Expr

mutual

/-- The value of an expression, if it is known. -/
def constant? (k : Known) : Expr → Option Constant
  | .number x => some (.number x)
  | .string value => some (.string value)
  | .template parts holes => (holesText? k parts holes).map .string
  | .parens _ e => e.constant? k
  | .name x => k.name? x
  | .member (.name e) x false => k.member? e (pointsOf x)
  | .index (.name e) (.string x) false => k.member? e x
  | .unary op e => (e.constant? k).bind (Constant.unary? op)
  | .binary op l r =>
    match l.constant? k, r.constant? k with
    | some a, some b => Constant.binary? op a b
    | _, _ => none
  | _ => none

/-- The text of a template, if all that its holes hold is known. -/
def holesText? (k : Known) : List String → List Expr → Option (List Nat)
  | [], _ => some []
  | p :: _, [] => some (partText p)
  | p :: ps, e :: es =>
    match e.constant? k, holesText? k ps es with
    | some c, some rest => some (partText p ++ c.text ++ rest)
    | _, _ => none
where
  partText (p : String) : List Nat := cookedPoints (p.length + 1) p.toList

end

end Expr

end AppMend.Script
