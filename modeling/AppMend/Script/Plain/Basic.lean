import AppMend.Script.Binding
import AppMend.Script.Constant
import AppMend.Script.Grammar

/-!
# What a script in plain form is made with

On the way to plain form names are made up that no one uses yet, functions are imported that create
elements, and the enumerations that were passed are remembered with their members.
-/

namespace AppMend.Script

namespace Plain

/-- A function that is imported under a name of its own. -/
structure Helper where
  source : String
  imported : String
  localName : String
deriving DecidableEq

structure State where
  /-- The names that begin with an underscore and are taken. -/
  names : List String
  /-- The enumerations so far, the last one first. -/
  enums : List (String × KnownMembers) := []
  /-- What is imported besides what the script imports itself. -/
  helpers : List Helper := []

/-- How elements are written. -/
inductive ElementStyle where
  /-- By a function that is called with the tag, the attributes and the contents. -/
  | named (factory fragment : Expr)
  /-- By functions that are imported; the contents stand among the attributes. -/
  | imported (source : String)

/-- Where a part of a script stands. -/
structure Setting where
  style : ElementStyle
  /-- Names of members of an enumeration, with its name. -/
  renames : List (String × String) := []
  /-- Whether the part is a statement of the module itself. -/
  isTop : Bool := true
  /-- The object of the namespace that a statement belongs to. -/
  space : Option String := none

end Plain

/-- What makes a part of a script in plain form. -/
abbrev Plain (α : Type) := StateT Plain.State (Except Fault) α

namespace Plain

/-! ## Names -/

/-- The part of a name that a name made from it keeps. -/
private def core (x : String) : String :=
  let s := x.toList.dropWhile (· == '_')
  String.ofList (s.reverse.dropWhile Char.isDigit).reverse

/-- How often a name was made from another, if `y` is one that may have been: a number follows from the
second one on. -/
private def madeFrom? (base y : String) : Option Nat :=
  let mark := "_".toList ++ base.toList
  if mark.isPrefixOf y.toList then
    let digits := y.toList.drop mark.length
    if digits.isEmpty then some 1 else (String.ofList digits).toNat?
  else none

/-- A name that is not taken, made from another. -/
def fresh (x : String) : Plain String := do
  let base := core x
  let s ← get
  let last := (s.names.filterMap (madeFrom? base)).foldl max 0
  let y := "_" ++ base ++ (if last = 0 then "" else toString (last + 1))
  set { s with names := y :: s.names }
  pure y

/-- The name under which a function is imported from a source. -/
def helper (source imported base : String) : Plain Expr := do
  let found := (← get).helpers.find? fun h => h.source == source && h.imported == imported
  match found with
  | some h => pure (.name h.localName)
  | none =>
    let x ← fresh base
    modify fun s => { s with helpers := s.helpers ++ [⟨source, imported, x⟩] }
    pure (.name x)

/-! ## Settings -/

namespace Setting

/-- A setting in which some names stand for something else than members of an enumeration. -/
def hide (names : Unit → List String) (s : Setting) : Setting :=
  if s.renames.isEmpty then s
  else
    let hidden := names ()
    { s with renames := s.renames.filter fun (x, _) => !hidden.contains x }

/-- The setting within a function or a block with some names of its own. -/
def within (names : Unit → List String) (s : Setting) : Setting :=
  { s.hide names with isTop := false, space := none }

end Setting

/-! ## Places -/

/-- A statement at a place. -/
def placed (start : Nat) (s : Stmt) : Stmt := if start = 0 then s else .placed start s

/-- Where an argument starts that starts at a place when types are written at it. -/
def argumentStart (start : Nat) (e : Expr) : Nat := if e.isTyped then e.untypedStart start else start

/-- Whether a statement is written by those alone who write types. -/
def isTypeSyntax : Stmt → Bool
  | .placed _ s => isTypeSyntax s
  | .types _ | .ambient _ | .enumeration .. | .space .. | .importAlias .. | .importRequest ..
  | .unwritable .. => true
  | _ => false

/-- What a branch or a loop holds in plain form: nothing where it held what only types need. -/
def unlessTypes (s : Stmt) (plain : Plain Stmt) : Plain Stmt :=
  if isTypeSyntax s then pure (.block []) else plain

/-- Statements as one that another statement can hold. -/
def joined : List Stmt → Stmt
  | [s] => s
  | [] => .empty
  | ss => .block ss

end Plain

end AppMend.Script
