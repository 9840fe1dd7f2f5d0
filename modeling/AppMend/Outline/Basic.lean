/-!
# Outlines of scripts

An outline is the tree of a script as far as the checks on its structure and its elements look at it:
the elements with their tags, attributes and contents, and the places that could not be read. Each node
tells where it starts and which text names it. Whatever else a script holds appears only by the
elements within it.
-/

namespace AppMend

inductive NodeKind where
  /-- A whole script, or anything that is told apart no further. -/
  | other
  /-- An element with an opening and a closing tag. -/
  | element
  | openTag
  | closeTag
  | selfClosingTag
  | attribute
  | name
  /-- A stretch in braces: a value, a content, or a spread. -/
  | braces
  | object
  | string
  | text
  | reference
  | comment
deriving DecidableEq, Inhabited

/-- Whether a node was read, could not be read, or was not there. -/
inductive NodeStatus where
  | sound
  | error
  | missing
deriving DecidableEq, Inhabited

inductive Outline where
  | node (kind : NodeKind) (status : NodeStatus) (start : Nat) (text : String) (children : List Outline)

namespace Outline

def kind : Outline → NodeKind
  | node k _ _ _ _ => k

def status : Outline → NodeStatus
  | node _ s _ _ _ => s

def start : Outline → Nat
  | node _ _ n _ _ => n

def text : Outline → String
  | node _ _ _ t _ => t

def children : Outline → List Outline
  | node _ _ _ _ cs => cs

instance : Inhabited Outline := ⟨node .other .sound 0 "" []⟩

/-- Whether the node itself could not be read or was not there. -/
def isFaulty (t : Outline) : Bool := t.status != .sound

/-- A node that was read. -/
def sound (kind : NodeKind) (start : Nat) (text : String) (children : List Outline) : Outline :=
  node kind .sound start text children

mutual

/-- Whether a node or one below it is faulty. -/
def hasFault : Outline → Bool
  | node _ s _ _ cs => s != .sound || anyHasFault cs

def anyHasFault : List Outline → Bool
  | [] => false
  | t :: ts => t.hasFault || anyHasFault ts

/-- The first faulty node, a node before those below it. -/
def firstFault? : Outline → Option Outline
  | node k s n x cs => if s != .sound then some (node k s n x cs) else firstFaultOf? cs

def firstFaultOf? : List Outline → Option Outline
  | [] => none
  | t :: ts =>
    match t.firstFault? with
    | some f => some f
    | none => firstFaultOf? ts

/-- All nodes, a node before those below it. -/
def preorder : Outline → List Outline
  | node k s n x cs => node k s n x cs :: preorderOf cs

def preorderOf : List Outline → List Outline
  | [] => []
  | t :: ts => t.preorder ++ preorderOf ts

end

end Outline

end AppMend
