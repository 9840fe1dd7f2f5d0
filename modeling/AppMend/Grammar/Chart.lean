import AppMend.Grammar.Rule
import Std.Data.HashMap

/-!
# Charts of grammars

A chart lays the rules of a grammar out as places: one for each word of a rule, with the places that may
follow it within the rule and whether the rule may end there. Each step from place to place tells how
strongly the word before it binds on that way through the rule. A part that may stand any number of
times is a construct of its own, which ends with its last repetition and is shared by all rules that
repeat the same part.

From the places follow the tokens that a construct may begin with, and the constructs that may begin
where another one begins, with the tokens that may follow them there.

A grammar numbers its tokens below 256. A set of tokens is kept as four words of 64 bits, so that unions
and tests take no time worth counting.
-/

namespace AppMend.Grammar

/-! ## Sets of tokens -/

structure TokenSet where
  w0 : UInt64
  w1 : UInt64
  w2 : UInt64
  w3 : UInt64
deriving BEq, Hashable, DecidableEq, Inhabited

namespace TokenSet

def empty : TokenSet := ⟨0, 0, 0, 0⟩

instance : EmptyCollection TokenSet := ⟨empty⟩

def isEmpty (s : TokenSet) : Bool := (s.w0 ||| s.w1 ||| s.w2 ||| s.w3) == 0

/-- The set of one token. -/
def single (t : Nat) : TokenSet :=
  let bit := (1 : UInt64) <<< (t % 64).toUInt64
  match t / 64 with
  | 0 => ⟨bit, 0, 0, 0⟩
  | 1 => ⟨0, bit, 0, 0⟩
  | 2 => ⟨0, 0, bit, 0⟩
  | _ => ⟨0, 0, 0, bit⟩

def union (s t : TokenSet) : TokenSet := ⟨s.w0 ||| t.w0, s.w1 ||| t.w1, s.w2 ||| t.w2, s.w3 ||| t.w3⟩

def contains (s : TokenSet) (t : Nat) : Bool :=
  let word := match t / 64 with
    | 0 => s.w0
    | 1 => s.w1
    | 2 => s.w2
    | _ => s.w3
  (word >>> (t % 64).toUInt64) &&& 1 == 1

def unionOf (sets : List TokenSet) : TokenSet := sets.foldl union empty

theorem union_empty (s : TokenSet) : s.union empty = s := by
  simp [union, empty]

theorem empty_union (s : TokenSet) : empty.union s = s := by
  simp [union, empty]

theorem union_self (s : TokenSet) : s.union s = s := by
  simp [union]

end TokenSet

/-- An entry in a list of what binds more tightly than what: a rank, or a category of constructs. -/
inductive Mark (κ ρ : Type) where
  | rank (r : ρ)
  | category (c : κ)

structure Grammar (κ τ ρ : Type) where
  /-- What the constructs of each category consist of. -/
  rules : List (κ × Rule κ τ ρ)
  tokens : List τ
  /-- The token at the end of a text. -/
  last : τ
  /-- Lists of marks, those that bind most tightly first. -/
  orders : List (List (Mark κ ρ))
  start : κ

/-- A word of a rule: a token or a construct, by number. -/
inductive Word where
  | token (t : Nat)
  | construct (c : Nat)
deriving BEq, DecidableEq, Hashable, Inhabited

structure Place (ρ : Type) where
  word : Word
  /-- The construct whose rule it belongs to. -/
  owner : Nat
  /-- The places that may follow, and how strongly the word binds on the way there. -/
  next : List (Strength ρ × Nat) := []
  /-- How strongly the word binds if the rule ends here; the rule cannot end here if there is none. -/
  ends : List (Strength ρ) := []
deriving Inhabited

/-! ## Laying out -/

namespace Chart

/-- A way out of a part: the place it leaves, how strongly that binds by itself and by the parts around. -/
structure Exit (ρ : Type) where
  place : Nat
  own : Strength ρ
  around : Strength ρ

def Exit.strength {ρ : Type} (e : Exit ρ) : Strength ρ where
  rank := match e.own.rank with
    | .unranked => e.around.rank
    | r => r
  side := e.own.side <|> e.around.side

/-- A part that is laid out: whether it may be absent, where it begins and where it ends. -/
structure Stretch (ρ : Type) where
  mayBeAbsent : Bool
  first : List Nat
  last : List (Exit ρ)

structure Layout (κ τ ρ : Type) where
  places : Array (Place ρ) := #[]
  /-- The first places of each construct. -/
  first : Array (List Nat) := #[]
  /-- The repeated parts and their constructs. -/
  repeats : List (Rule κ τ ρ × Nat) := []

/-- The numbers of categories, kinds of tokens and texts. -/
structure Numbering (κ τ : Type) where
  category : κ → Nat
  token : τ → Nat
  text : String → Nat

variable {κ τ ρ : Type} [BEq κ] [BEq τ] [BEq ρ]

abbrev Laying (κ τ ρ : Type) := StateM (Layout κ τ ρ)

def addPlace (owner : Nat) (w : Word) (around : Strength ρ) : Laying κ τ ρ (Stretch ρ) := do
  let n := (← get).places.size
  modify fun l => { l with places := l.places.push { word := w, owner } }
  pure ⟨false, [n], [⟨n, {}, around⟩]⟩

/-- Lets the places of `entries` follow those that `exits` leave. -/
def connect (exits : List (Exit ρ)) (entries : List Nat) : Laying κ τ ρ Unit :=
  modify fun l =>
    { l with
      places := exits.foldl (fun ps e =>
        ps.modify e.place fun p => { p with next := p.next ++ entries.map (e.strength, ·) }) l.places }

/-- Lets a construct begin where a part begins and end where it ends. -/
def close (owner : Nat) (s : Stretch ρ) : Laying κ τ ρ Unit :=
  modify fun l =>
    { l with
      places := s.last.foldl (fun ps e =>
        ps.modify e.place fun p =>
          if p.ends.contains e.strength then p else { p with ends := p.ends ++ [e.strength] }) l.places
      first := l.first.modify owner (s.first ++ ·) }

/-- Lays out a part of the rule of `owner`. Around it parts bind with the strength `around`; `atEnd`
tells that nothing is written after it in the rule. -/
def layOut (num : Numbering κ τ) (owner : Nat) (around : Strength ρ) (atEnd : Bool) :
    Rule κ τ ρ → Laying κ τ ρ (Stretch ρ)
  | .empty => pure ⟨true, [], []⟩
  | .text s => addPlace owner (.token (num.text s)) around
  | .token t => addPlace owner (.token (num.token t)) around
  | .item c => addPlace owner (.construct (num.category c)) around
  | .seq a b => do
    let x ← layOut num owner around false a
    let y ← layOut num owner around atEnd b
    connect x.last y.first
    pure
      { mayBeAbsent := x.mayBeAbsent && y.mayBeAbsent
        first := if x.mayBeAbsent then x.first ++ y.first else x.first
        last := if y.mayBeAbsent then x.last ++ y.last else y.last }
  | .alt a b => do
    let x ← layOut num owner around atEnd a
    let y ← layOut num owner around atEnd b
    pure ⟨x.mayBeAbsent || y.mayBeAbsent, x.first ++ y.first, x.last ++ y.last⟩
  | .ranked s a => do
    let within : Strength ρ :=
      ⟨match s.rank with | .unranked => around.rank | r => r, s.side <|> around.side⟩
    let x ← layOut num owner within atEnd a
    if atEnd then pure x
    else
      let left (t : Strength ρ) : Strength ρ :=
        ⟨match s.rank with | .unranked => t.rank | _ => around.rank,
          if s.side.isSome then around.side else t.side⟩
      pure { x with last := x.last.map fun e => { e with around := left e.around } }
  | .apart a => do
    let x ← layOut num owner {} true a
    pure { x with last := x.last.map fun e => ⟨e.place, e.strength, around⟩ }
  | .many a => do
    let known := (← get).repeats.find? (·.1 == a)
    let c ← match known with
      | some (_, c) => pure c
      | none => do
        let c := (← get).first.size
        modify fun l => { l with first := l.first.push [], repeats := (a, c) :: l.repeats }
        let again ← addPlace c (.construct c) {}
        let x ← layOut num c {} true a
        connect again.last x.first
        close c ⟨false, again.first ++ x.first, x.last⟩
        pure c
    addPlace owner (.construct c) around

end Chart

/-! ## Charts -/

/-- A construct that may begin where another one begins. -/
structure Opening where
  construct : Nat
  /-- The tokens that may follow it. -/
  follow : TokenSet
  /-- Whether it may also be followed by what follows the other one. -/
  isFinal : Bool
deriving Inhabited

structure Chart (κ τ ρ : Type) where
  places : Array (Place ρ)
  /-- The first places of each construct. -/
  first : Array (List Nat)
  /-- The texts that are tokens, from the number of kinds of tokens on. -/
  texts : Array String
  /-- How many kinds of tokens there are. -/
  kinds : Nat
  /-- How many constructs are categories; the others are repeated parts. -/
  named : Nat
  start : Nat
  /-- The number of the token at the end of a text. -/
  last : Nat
  /-- The tokens that each construct may begin with. -/
  begins : Array TokenSet
  /-- The tokens that stand at the first places of each construct. -/
  leads : Array TokenSet
  /-- For each place, the tokens that may come next within its rule. -/
  after : Array TokenSet
  /-- The constructs that may begin where a construct begins, itself among them. -/
  openings : Array (Array Opening)
  /-- The first places, by the word that stands there. -/
  starts : Std.HashMap Word (List (Nat × Nat))
  /-- Lists of ranks and constructs, those that bind most tightly first. -/
  orders : List (List (Mark Nat ρ))

namespace Chart

variable {κ τ ρ : Type} [BEq κ] [Hashable κ] [BEq τ] [Hashable τ] [BEq ρ]

/-- The tokens a word may begin with. -/
def beginsOf (begins : Array TokenSet) : Word → TokenSet
  | .token t => .single t
  | .construct c => begins.getD c ∅

/-- The tokens each construct may begin with, found by going through the first places until nothing
changes, at most `fuel` times. -/
def findBegins (places : Array (Place ρ)) (first : Array (List Nat)) :
    Nat → Array TokenSet → Array TokenSet
  | 0, sets => sets
  | fuel + 1, sets =>
    let better := (List.range first.size).foldl (fun sets c =>
      sets.modify c fun own =>
        (first.getD c []).foldl
          (fun own p => own.union (beginsOf sets (places.getD p default).word)) own) sets
    if better == sets then sets else findBegins places first fuel better

/-- The heads of a construct: the constructs at its first places, what may follow them within it, and
whether it may end with them. -/
def headsOf (places : Array (Place ρ)) (after : Array TokenSet) (first : List Nat) : List Opening :=
  first.foldl (fun hs n =>
    let p := places.getD n default
    match p.word with
    | .token _ => hs
    | .construct c =>
      let head : Opening := ⟨c, after.getD n ∅, !p.ends.isEmpty⟩
      match hs.find? (·.construct == c) with
      | none => head :: hs
      | some h =>
        ⟨c, h.follow.union head.follow, h.isFinal || head.isFinal⟩ :: hs.filter (·.construct != c)) []

/-- Adds what may begin where the constructs of `todo` begin, as long as it tells something new. -/
def findOpenings (heads : Array (List Opening)) :
    Nat → List Opening → Array (Option Opening) → Array (Option Opening)
  | 0, _, found => found
  | _, [], found => found
  | fuel + 1, o :: todo, found =>
    let known := (found.getD o.construct none).getD ⟨o.construct, ∅, false⟩
    let now : Opening := ⟨o.construct, known.follow.union o.follow, known.isFinal || o.isFinal⟩
    let isNew := (found.getD o.construct none).isNone || now.follow != known.follow ||
      now.isFinal != known.isFinal
    if isNew then
      let below := (heads.getD o.construct []).map fun h =>
        ⟨h.construct, if h.isFinal then h.follow.union now.follow else h.follow, h.isFinal && now.isFinal⟩
      findOpenings heads fuel (below ++ todo) (found.setIfInBounds o.construct (some now))
    else findOpenings heads fuel todo found

private def numbersOf {α : Type} [BEq α] [Hashable α] (xs : List α) (base : Nat) : Std.HashMap α Nat :=
  (xs.zipIdx base).foldl (fun m x => m.insert x.1 x.2) ∅

/-- The chart of a grammar. -/
def of (g : Grammar κ τ ρ) : Chart κ τ ρ :=
  let rules := g.rules.map (·.2)
  let categories := numbersOf (g.rules.map (·.1)) 0
  let tokens := numbersOf g.tokens 0
  let texts := (rules.flatMap Rule.texts).eraseDups
  let textNumbers := numbersOf texts g.tokens.length
  let num : Numbering κ τ := ⟨(categories.getD · 0), (tokens.getD · 0), (textNumbers.getD · 0)⟩
  let named := g.rules.length
  let layout : Layout κ τ ρ :=
    ((rules.zipIdx.forM fun (r, c) => do
        close c (← layOut num c {} true r) : Laying κ τ ρ Unit).run
      { first := Array.replicate named [] }).2
  let places := layout.places.map fun p => { p with next := p.next.eraseDups }
  let first := layout.first
  let begins := findBegins places first first.size (Array.replicate first.size ∅)
  let wordOf (n : Nat) : Word := (places.getD n default).word
  let after := places.map fun p => .unionOf (p.next.map fun x => beginsOf begins (wordOf x.2))
  let heads := first.map (headsOf places after)
  let openings := (Array.range first.size).map fun c =>
    let found := findOpenings heads (1000 * first.size) [⟨c, ∅, true⟩] (Array.replicate first.size none)
    found.filterMap id
  { places, first, texts := texts.toArray, kinds := g.tokens.length, named
    start := num.category g.start
    last := num.token g.last
    begins, after, openings
    leads := first.map fun ps => .unionOf (ps.map fun n =>
      match wordOf n with
      | .token t => .single t
      | .construct _ => ∅)
    starts := first.toList.zipIdx.foldl (fun m (ps, c) =>
      ps.foldl (fun m n => m.alter (wordOf n) fun known => some ((c, n) :: known.getD [])) m) ∅
    orders := g.orders.map fun ms => ms.map fun
      | .rank r => .rank r
      | .category c => .category (num.category c) }

end Chart

end AppMend.Grammar
