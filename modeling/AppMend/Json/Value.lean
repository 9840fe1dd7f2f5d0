import AppMend.Number.Binary

/-!
# Documents

A document value is a null, a truth value, a number, a text, a list or an object. An object keeps its
fields by name in ascending order, one value for each name: `Object.insert` is the only way to build
one, so two objects with the same fields are equal.
-/

namespace AppMend.Json

open AppMend.Number

/-- A whole number, or a floating point number. -/
inductive Numeral where
  | int (i : Int)
  | float (x : Binary)
deriving DecidableEq, Inhabited

inductive Value where
  | null
  | bool (b : Bool)
  | num (n : Numeral)
  | str (s : String)
  | arr (items : List Value)
  | obj (fields : List (String × Value))
deriving Inhabited

namespace Value

/-- Puts a field into a list that ascends by name; a field of that name is replaced. -/
def insertField (name : String) (v : Value) : List (String × Value) → List (String × Value)
  | [] => [(name, v)]
  | (n, w) :: fs =>
    if name < n then (name, v) :: (n, w) :: fs
    else if name = n then (name, v) :: fs
    else (n, w) :: insertField name v fs

/-- An object of the given fields; the last of one name wins. -/
def object (fields : List (String × Value)) : Value :=
  .obj (fields.foldl (fun fs (n, v) => insertField n v fs) [])

/-- The field of a name. -/
def field? (name : String) : Value → Option Value
  | .obj fs => (fs.find? (·.1 == name)).map (·.2)
  | _ => none

def str? : Value → Option String
  | .str s => some s
  | _ => none

def bool? : Value → Option Bool
  | .bool b => some b
  | _ => none

def int? : Value → Option Int
  | .num (.int i) => some i
  | _ => none

def nat? : Value → Option Nat
  | .num (.int i) => if 0 ≤ i then some i.toNat else none
  | _ => none

def arr? : Value → Option (List Value)
  | .arr xs => some xs
  | _ => none

def obj? : Value → Option (List (String × Value))
  | .obj fs => some fs
  | _ => none

/-- The value, unless it is null. -/
def present? : Value → Option Value
  | .null => none
  | v => some v

/-- A field that is there and not null. -/
def given? (name : String) (v : Value) : Option Value := (v.field? name).bind present?

def ofNat (n : Nat) : Value := .num (.int n)

def ofOption (f : α → Value) : Option α → Value
  | some a => f a
  | none => .null

/-- The fields of an object that have a value. -/
def objectOf (fields : List (String × Option Value)) : Value :=
  object (fields.filterMap fun (n, v) => v.map fun v => (n, v))

instance : Coe String Value := ⟨.str⟩
instance : Coe Bool Value := ⟨.bool⟩
instance : Coe Nat Value := ⟨ofNat⟩

end Value

end AppMend.Json
