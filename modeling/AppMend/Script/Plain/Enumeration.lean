import AppMend.Script.Plain.Basic

/-!
# Enumerations as objects

An enumeration is an object that a function fills: a member with a number also maps that number back to
the member's name. The value of a member is worked out beforehand where it only depends on constants
and on members that are known; a member without a value counts on from the one before it.
-/

namespace AppMend.Script.Plain

/-- A member of an enumeration as a member of its object. -/
private def slot (enum : String) (name : List Nat) : Expr := .index (.name enum) (.string name) false

/-- What is known before a member of an enumeration: the members so far, and the one right before. -/
structure Progress where
  known : Known
  previous : Option (List Nat × Option Constant) := none

namespace Progress

/-- The progress after a member. -/
def after (p : Progress) (name : List Nat) (value : Option Constant) : Progress :=
  { known := { p.known with members := (name, value) :: p.known.members }, previous := some (name, value) }

/-- The value of a member that has none of its own, and how it is written. -/
def counted (p : Progress) (enum : String) : Option Constant × Expr :=
  let written (c : Constant) : Option Constant × Expr := (some c, c.expr)
  match p.previous with
  | none => written (.ofInt 0)
  | some (name, some (.number x)) =>
    match Constant.arithmetic? "+" x (Number.Format.double.ofScaled 1 0) with
    | some c => written c
    | none => (none, slot enum name)
  | some (name, _) => (none, .binary "+" (Constant.ofInt 1).expr (slot enum name))

/-- The setting in which the value of a member is written: members are named by their enumeration. -/
def setting (p : Progress) (enum : String) (name : List Nat) (s : Setting) : Setting :=
  let names := (name :: p.known.members.map (·.1)).map textOf
  { s with renames := names.map (·, enum) ++ s.renames, isTop := false, space := none }

end Progress

/-- The statement that fills in a member. -/
def fillMember (enum : String) (name : List Nat) (value : Expr) : Stmt :=
  let set := Expr.assign "=" (.target (slot enum name)) value
  match value with
  | .string _ => .expr set
  | _ => .expr (.assign "=" (.target (.index (.name enum) set false)) (.string name))

/-- Whether the value of a member may have effects, as far as its form tells. -/
def hasEffects : Member → Bool
  | .slot _ _ (some (.call ..)) | .slot _ _ (some (.new ..)) => true
  | .placed _ _ _ m => hasEffects m
  | _ => false

/-- Puts an enumeration down among those that were passed, and tells whether one of its name was. -/
def passEnumeration (enum : String) (members : KnownMembers) : Plain Bool := do
  let s ← get
  set { s with enums := (enum, members) :: s.enums }
  pure (s.enums.lookup enum).isSome

/-- The call that makes an enumeration from what was there before. -/
private def enumerationCall (enum : String) (filling : List Stmt) (isPure : Bool) (stop : Nat)
    (before : Expr) : Expr :=
  let body := filling ++ [.return (some (.name enum))]
  .call (.function (.mk {} none [.name enum] [] body stop)) [before] false isPure 0

/-- An enumeration: an assignment if one of its name was passed before, and a variable else. One that
no other can go on with begins with an empty object. -/
def enumerationStatement (enum : String) (filling : List Stmt) (isPure : Bool) (stop : Nat)
    (again isOwn : Bool) : Stmt :=
  let call := enumerationCall enum filling isPure stop
  let orFresh := Expr.binary "||" (.name enum) (.object [] false)
  if again then .expr (.assign "=" (.name enum) (call orFresh))
  else if isOwn then .vars .let [.withDefault (.name enum) (call (.object [] false))]
  else .vars .var [.withDefault (.name enum) (call orFresh)]

end AppMend.Script.Plain
