import AppMend.Outline.Basic

/-!
# Tracks

A track is one way of reading a script up to a place: a stack of what was read, with the state of the
grammar's machine after each. With what was read goes a tally, which tells what the faults in it cost
and how many trees it shows: a construct that leaves no node of its own shows what it consists of.
-/

namespace AppMend.Outline

structure Tally where
  /-- What the faults within cost. -/
  cost : Nat := 0
  /-- Whether it shows as one tree. -/
  isShown : Bool := true
  /-- How many trees show right below. -/
  tops : Nat := 0
  /-- How many trees show below in all. -/
  below : Nat := 0
deriving Inhabited

namespace Tally

/-- How many trees show at the top. -/
def width (t : Tally) : Nat := if t.isShown then 1 else t.tops

/-- The tally of what consists of other things. -/
def around (isShown : Bool) (parts : List Tally) : Tally :=
  parts.foldl (fun t p =>
    { t with
      cost := t.cost + p.cost
      tops := t.tops + p.width
      below := t.below + p.below + (if p.isShown then 1 else 0) }) { isShown }

end Tally

/-- A stretch of a script that was passed over. -/
structure Passed where
  start : Nat
  stop : Nat
  /-- How many lines end within it. -/
  lines : Nat
  /-- How many trees show in it. -/
  trees : Nat
  /-- What the faults cost that were met within it before. -/
  inner : Nat
  /-- The nodes in it, the last one first. -/
  nodes : List Outline
deriving Inhabited

/-- What was read, and the state after it. -/
structure Frame where
  state : Nat
  start : Nat
  stop : Nat
  /-- The nodes read, the last one first. -/
  nodes : List Outline := []
  tally : Tally := {}
  /-- Whether it may stand between any two words: a comment, or what was passed over. -/
  isExtra : Bool := false
  passed : Option Passed := none
deriving Inhabited

structure Track where
  /-- What was read, the last first; at the bottom is the first state. -/
  frames : List Frame
  pos : Nat
  rest : List Char
  favour : Int := 0
deriving Inhabited

/-- The state on a stack. -/
def stateOn (frames : List Frame) : Nat := (frames.head?.map (·.state)).getD 0

/-- Whether two stacks go through the same states. -/
def sameStates (fs gs : List Frame) : Bool := fs.map (·.state) == gs.map (·.state)

end AppMend.Outline
