/-!
# Rules of a grammar

A rule says what a construct consists of: tokens, other constructs, one part after another, one of
several parts, or a part any number of times. Which of two readings of a text holds is decided by how
tightly their parts bind. A part may carry a rank and a side for that purpose; the last word of a part
that stands before the end of its construct binds like the construct around it.

The categories of constructs, the kinds of tokens and the names of ranks are parameters.
-/

namespace AppMend.Grammar

/-- Which way constructs of equal rank group. -/
inductive Side where
  | left
  | right
deriving BEq, DecidableEq, Hashable, Inhabited

/-- How tightly a part binds: unranked, by a number, or by the name of a rank. -/
inductive Rank (ρ : Type) where
  | unranked
  | number (n : Int)
  | named (r : ρ)
deriving BEq, DecidableEq, Inhabited

structure Strength (ρ : Type) where
  rank : Rank ρ := .unranked
  side : Option Side := none
deriving BEq, DecidableEq, Inhabited

inductive Rule (κ τ ρ : Type) where
  | empty
  /-- A token that is always written the same way. -/
  | text (s : String)
  | token (t : τ)
  /-- A construct of a category. -/
  | item (c : κ)
  | seq (a b : Rule κ τ ρ)
  | alt (a b : Rule κ τ ρ)
  /-- A part once or more often. -/
  | many (a : Rule κ τ ρ)
  | ranked (s : Strength ρ) (a : Rule κ τ ρ)
  /-- A part whose ranks do not depend on where it stands. -/
  | apart (a : Rule κ τ ρ)
deriving BEq, Inhabited

namespace Rule

variable {κ τ ρ : Type}

instance : Coe String (Rule κ τ ρ) := ⟨.text⟩
instance : Coe κ (Rule κ τ ρ) := ⟨.item⟩

/-- One part after another. -/
def all : List (Rule κ τ ρ) → Rule κ τ ρ
  | [] => .empty
  | [r] => r
  | r :: rs => .seq r (all rs)

/-- One of several parts. -/
def any : List (Rule κ τ ρ) → Rule κ τ ρ
  | [] => .empty
  | [r] => r
  | r :: rs => .alt r (any rs)

def maybe (r : Rule κ τ ρ) : Rule κ τ ρ := .alt r .empty

/-- A part any number of times. -/
def repeated (r : Rule κ τ ρ) : Rule κ τ ρ := maybe (.many r)

/-- A part once or more often, with a separator between. -/
def listed (separator r : Rule κ τ ρ) : Rule κ τ ρ := .seq r (repeated (.seq separator r))

/-- A part once or more often, with commas between. -/
def commas (r : Rule κ τ ρ) : Rule κ τ ρ := listed (.text ",") r

def leftward (r : Rule κ τ ρ) : Rule κ τ ρ := .ranked ⟨.number 0, some .left⟩ r

def rightward (r : Rule κ τ ρ) : Rule κ τ ρ := .ranked ⟨.number 0, some .right⟩ r

/-- A part of a rank that groups neither way. -/
def binding (rank : ρ) (r : Rule κ τ ρ) : Rule κ τ ρ := .ranked ⟨.named rank, none⟩ r

def bindingLeft (rank : ρ) (r : Rule κ τ ρ) : Rule κ τ ρ := .ranked ⟨.named rank, some .left⟩ r

def bindingRight (rank : ρ) (r : Rule κ τ ρ) : Rule κ τ ρ := .ranked ⟨.named rank, some .right⟩ r

/-- The tokens of a rule that are always written the same way. -/
def texts : Rule κ τ ρ → List String
  | .text s => [s]
  | .seq a b | .alt a b => a.texts ++ b.texts
  | .many a | .ranked _ a | .apart a => a.texts
  | .empty | .token _ | .item _ => []

end Rule

end AppMend.Grammar
