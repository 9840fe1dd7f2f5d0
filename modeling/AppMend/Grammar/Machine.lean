import AppMend.Grammar.Chart

/-!
# The machine of a grammar

A state of the machine tells where in which rules a reader may be: the places just passed, each with how
many words of its rule were read and which tokens may follow the whole construct, and the constructs
that may begin here. The states are made when a text leads to them, and kept.

At a token a state calls for actions: to take the token, or to complete a construct. Where both are
possible, or two constructs may be completed, the one that binds more tightly wins; if neither does, the
side on which a construct groups decides; if nothing decides, all are tried.
-/

namespace AppMend.Grammar

/-- A place just passed. -/
structure Standing where
  place : Nat
  /-- How many words of its rule were read. -/
  length : Nat
  /-- The tokens that may follow the construct. -/
  look : TokenSet
deriving BEq, Hashable, DecidableEq, Inhabited

structure Situation where
  standings : List Standing
  /-- For each construct, the tokens that may follow it if it begins here; none if it cannot. -/
  opens : Array TokenSet
  /-- The tokens that may come next. -/
  valid : TokenSet
deriving Inhabited

inductive Action where
  /-- Take the token and go to a state. -/
  | take (state : Nat)
  /-- Complete a construct from so many words. -/
  | complete (construct length : Nat)
deriving BEq, DecidableEq, Inhabited

/-! ## What binds more tightly -/

namespace Chart

variable {κ τ ρ : Type} [BEq ρ]

private def isMarked (rank : Rank ρ) (constructs : List Nat) : Mark Nat ρ → Bool
  | .rank r => match rank with
    | .named x => x == r
    | _ => false
  | .category c => constructs.contains c

/-- What a list of marks says of two sides. -/
private def orderBy (x y : Rank ρ) (xs ys : List Nat) :
    List (Mark Nat ρ) → Bool → Bool → Option Ordering
  | [], _, _ => none
  | m :: ms, sawX, sawY =>
    if isMarked x xs m then if sawY then some .lt else orderBy x y xs ys ms true sawY
    else if isMarked y ys m then if sawX then some .gt else orderBy x y xs ys ms sawX true
    else orderBy x y xs ys ms sawX sawY

/-- How two ranks compare, each with the constructs that carry it. An unranked part counts as 0 beside
a number; otherwise the first list of marks that knows both sides decides. -/
def compareRanks (c : Chart κ τ ρ) (x : Rank ρ) (xs : List Nat) (y : Rank ρ) (ys : List Nat) :
    Ordering :=
  let byOrders := (c.orders.findSome? fun ms => orderBy x y xs ys ms false false).getD .eq
  match x, y with
  | .number a, .number b => if a != 0 || b != 0 then compare a b else byOrders
  | .number a, .unranked => if a != 0 then compare a 0 else byOrders
  | .unranked, .number b => if b != 0 then compare 0 b else byOrders
  | _, _ => byOrders

/-! ## Actions -/

/-- Adds a standing to a list in order; equal places unite what may follow. -/
def insertStanding (s : Standing) : List Standing → List Standing
  | [] => [s]
  | t :: ts =>
    if t.place == s.place && t.length == s.length then { t with look := t.look.union s.look } :: ts
    else if s.place < t.place || (s.place == t.place && s.length < t.length) then s :: t :: ts
    else t :: insertStanding s ts

private def placeAt (c : Chart κ τ ρ) (n : Nat) : Place ρ := c.places.getD n default

/-- The places passed after a word. -/
def standingsAfter (c : Chart κ τ ρ) (at_ : Situation) (w : Word) : List Standing :=
  let going := at_.standings.flatMap fun s =>
    (c.placeAt s.place).next.filterMap fun x =>
      if (c.placeAt x.2).word == w then some { s with place := x.2, length := s.length + 1 } else none
  let beginning := (c.starts.getD w []).filterMap fun x =>
    let look := at_.opens.getD x.1 ∅
    if look.isEmpty then none else some ⟨x.2, 1, look⟩
  (going ++ beginning).foldl (fun ss s => insertStanding s ss) []

/-- Opens a construct that may be followed by given tokens, and all that may begin where it begins. -/
def openConstruct (c : Chart κ τ ρ) (opens : Array TokenSet) (construct : Nat) (look : TokenSet) :
    Array TokenSet :=
  (c.openings.getD construct #[]).foldl (fun opens o =>
    opens.modify o.construct fun known =>
      known.union (if o.isFinal then o.follow.union look else o.follow)) opens

/-- A state, from the places just passed. -/
def situationOf (c : Chart κ τ ρ) (standings : List Standing) (opens : Array TokenSet) : Situation :=
  let next := standings.flatMap fun s => (c.placeAt s.place).next.map fun x => (s, x.2)
  let wanted := next.foldl (fun (m : List (Nat × TokenSet)) (s, n) =>
    match (c.placeAt n).word with
    | .token _ => m
    | .construct x =>
      let look := (c.after.getD n ∅).union (if (c.placeAt n).ends.isEmpty then ∅ else s.look)
      match m.find? (·.1 == x) with
      | none => (x, look) :: m
      | some (_, known) => (x, known.union look) :: m.filter (·.1 != x)) []
  let opens := wanted.foldl (fun opens (x, look) => c.openConstruct opens x look) opens
  let direct := next.foldl (fun set (_, n) =>
    match (c.placeAt n).word with
    | .token t => set.union (.single t)
    | .construct _ => set) (∅ : TokenSet)
  let complete := standings.foldl (fun set s =>
    if (c.placeAt s.place).ends.isEmpty then set else set.union s.look) (∅ : TokenSet)
  let leading := opens.zipIdx.foldl (fun set (look, x) =>
    if look.isEmpty then set else set.union (c.leads.getD x ∅)) (∅ : TokenSet)
  ⟨standings, opens, (direct.union complete).union leading⟩

/-- The constructs that may be completed at a token and have survived so far, with the rank and the
constructs that speak for them and the sides on which they group. -/
private structure Completions (ρ : Type) where
  actions : List Action := []
  rank : Rank ρ := .unranked
  constructs : List Nat := []
  sides : List (Option Side) := []

private def addCompletion (c : Chart κ τ ρ) (done : Completions ρ) (construct length : Nat)
    (s : Strength ρ) : Completions ρ :=
  let action := Action.complete construct length
  let order :=
    if done.actions.isEmpty then .eq else c.compareRanks s.rank [construct] done.rank done.constructs
  match order with
  | .lt => done
  | .gt => ⟨[action], s.rank, [construct], [s.side]⟩
  | .eq =>
    ⟨if done.actions.contains action then done.actions else done.actions ++ [action], s.rank,
      if done.constructs.contains construct then done.constructs else construct :: done.constructs,
      s.side :: done.sides⟩

/-- What a token calls for in a state in which it may be taken or constructs may be completed. -/
private def decide_ (c : Chart κ τ ρ) (at_ : Situation) (t : Nat) (take : Action)
    (done : Completions ρ) : List Action :=
  let rivals := at_.standings.flatMap fun s =>
    (c.placeAt s.place).next.filterMap fun x =>
      if (beginsOf c.begins (c.placeAt x.2).word).contains t then
        some (x.1.rank, (c.placeAt s.place).owner)
      else none
  let completed := at_.standings.filterMap fun s =>
    if s.look.contains t && !(c.placeAt s.place).ends.isEmpty then some (c.placeAt s.place).owner else none
  let owners := rivals.map (·.2) ++ completed
  match owners with
  | o :: os =>
    if o ≥ c.named && os.all (· == o) then done.actions
    else
      let orders := rivals.map fun r => c.compareRanks r.1 [r.2] done.rank done.constructs
      let isMore := orders.contains .gt
      let isLess := orders.contains .lt
      if isMore && !isLess then [take]
      else if isLess && !isMore then done.actions
      else if !isMore && !isLess && done.sides.all (· == some .left) then done.actions
      else if !isMore && !isLess && done.sides.all (· == some .right) then [take]
      else done.actions ++ [take]
  | [] => done.actions ++ [take]

/-- What a token calls for in a state; `take` is the action of taking it, if that is possible. -/
def actionsAt (c : Chart κ τ ρ) (at_ : Situation) (t : Nat) (take : Option Action) : List Action :=
  let done := at_.standings.foldl (fun done s =>
    let p := c.placeAt s.place
    if s.look.contains t then
      p.ends.foldl (fun done e => c.addCompletion done p.owner s.length e) done
    else done) ({} : Completions ρ)
  match take with
  | none => done.actions
  | some a => if done.actions.isEmpty then [a] else c.decide_ at_ t a done

end Chart

/-! ## States that are kept -/

/-- The states made so far, and what was found out about them. -/
structure Machine where
  situations : Array Situation := #[]
  index : Std.HashMap (List Standing) Nat := ∅
  actions : Std.HashMap (Nat × Nat) (List Action) := ∅
  moves : Std.HashMap (Nat × Nat) (Option Nat) := ∅
deriving Inhabited

namespace Machine

variable {κ τ ρ : Type} [BEq ρ]

/-- The machine in its first state, in which the whole text is yet to come. -/
def initial (c : Chart κ τ ρ) : Machine :=
  let opens := c.openConstruct (Array.replicate c.first.size ∅) c.start (.single c.last)
  { situations := #[c.situationOf [] opens] }

def situation (m : Machine) (state : Nat) : Situation := m.situations.getD state default

/-- The state with given places just passed; none if there is no such place. -/
def stateOf (c : Chart κ τ ρ) (m : Machine) (standings : List Standing) : Option Nat × Machine :=
  if standings.isEmpty then (none, m)
  else
    match m.index[standings]? with
    | some n => (some n, m)
    | none =>
      let n := m.situations.size
      let made := c.situationOf standings (Array.replicate c.first.size ∅)
      (some n, { m with situations := m.situations.push made, index := m.index.insert standings n })

/-- The state after a construct was completed. -/
def move (c : Chart κ τ ρ) (m : Machine) (state construct : Nat) : Option Nat × Machine :=
  match m.moves[(state, construct)]? with
  | some r => (r, m)
  | none =>
    let (r, m) := m.stateOf c (c.standingsAfter (m.situation state) (.construct construct))
    (r, { m with moves := m.moves.insert (state, construct) r })

/-- What a token calls for in a state. -/
def actionsOn (c : Chart κ τ ρ) (m : Machine) (state token : Nat) : List Action × Machine :=
  match m.actions[(state, token)]? with
  | some r => (r, m)
  | none =>
    let at_ := m.situation state
    if !at_.valid.contains token then ([], m)
    else
      let (next, m) := m.stateOf c (c.standingsAfter at_ (.token token))
      let r := c.actionsAt at_ token (next.map Action.take)
      (r, { m with actions := m.actions.insert (state, token) r })

end Machine

end AppMend.Grammar
