import AppMend.Text.Letter

/-!
# Patterns over text

A pattern describes a stretch of text with choice, repetition, groups and tests of the place. A match
is sought at each offset from the left; at one offset the first alternative wins, a greedy repetition
takes another round before it stops, and a lazy one stops before it takes another. `Pattern.run`
hands each way to match, in this order, to the rest of the search until that one succeeds.
-/

namespace AppMend.Text

inductive Pattern where
  /-- The empty stretch. -/
  | nothing
  /-- One character of a class. -/
  | one (is : Char → Bool)
  | seq (a b : Pattern)
  /-- The first alternative, or else the second. -/
  | alt (a b : Pattern)
  /-- Any number of rounds, as many as possible. -/
  | many (a : Pattern)
  /-- Any number of rounds, as few as possible. -/
  | few (a : Pattern)
  /-- Remembers the stretch under a number. -/
  | group (i : Nat) (a : Pattern)
  /-- The place between a character of a word and one that is none. -/
  | wordEdge
  /-- The start of the text, or the place after a line feed. -/
  | lineStart

namespace Pattern

/-- Where a search stands: what it passed, in reverse; what is left; and the groups closed so far, as
the offsets where each starts and ends. -/
structure Cursor where
  before : List Char
  rest : List Char
  groups : List (Nat × Nat × Nat)

def Cursor.offset (c : Cursor) : Nat := c.before.length

/-- Whether a character of a word is next to a character that is none. -/
def Cursor.atWordEdge (c : Cursor) : Bool :=
  (c.before.head?.map isWord).getD false != (c.rest.head?.map isWord).getD false

def Cursor.atLineStart (c : Cursor) : Bool :=
  match c.before with
  | [] => true
  | d :: _ => d == '\n'

/-- At most `n` rounds of `round`, as many as possible; a round that passes nothing ends it. -/
def rounds (round : Cursor → (Cursor → Option α) → Option α) :
    Nat → Cursor → (Cursor → Option α) → Option α
  | 0, c, k => k c
  | n + 1, c, k =>
    match round c fun d => if d.rest.length < c.rest.length then rounds round n d k else none with
    | some a => some a
    | none => k c

/-- At most `n` rounds of `round`, as few as possible. -/
def fewRounds (round : Cursor → (Cursor → Option α) → Option α) :
    Nat → Cursor → (Cursor → Option α) → Option α
  | 0, c, k => k c
  | n + 1, c, k =>
    match k c with
    | some a => some a
    | none =>
      round c fun d => if d.rest.length < c.rest.length then fewRounds round n d k else none

/-- Matches at a place and goes on with `k`, over all ways to match until one succeeds. -/
def run : Pattern → Cursor → (Cursor → Option α) → Option α
  | nothing, c, k => k c
  | one is, c, k =>
    match c.rest with
    | d :: s => if is d then k { c with before := d :: c.before, rest := s } else none
    | [] => none
  | seq a b, c, k => run a c fun d => run b d k
  | alt a b, c, k =>
    match run a c k with
    | some x => some x
    | none => run b c k
  | many a, c, k => rounds (run a) c.rest.length c k
  | few a, c, k => fewRounds (run a) c.rest.length c k
  | group i a, c, k =>
    run a c fun d => k { d with groups := (i, c.offset, d.offset) :: d.groups }
  | wordEdge, c, k => if c.atWordEdge then k c else none
  | lineStart, c, k => if c.atLineStart then k c else none

/-! ## Building patterns -/

/-- Exactly the characters of a text. -/
def chars : List Char → Pattern
  | [] => nothing
  | c :: s => seq (one (· == c)) (chars s)

def word (s : String) : Pattern := chars s.toList

/-- The characters of an ASCII text in either case. -/
def anyCase (s : String) : Pattern := (s.toList.map fun c => one (isCaseOf c)).foldr seq nothing

/-- The patterns one after another. -/
def all (ps : List Pattern) : Pattern := ps.foldr seq nothing

/-- The first of the patterns that leads to a match. -/
def any : List Pattern → Pattern
  | [] => one fun _ => false
  | [p] => p
  | p :: ps => alt p (any ps)

/-- The pattern or nothing. -/
def opt (p : Pattern) : Pattern := alt p nothing

/-- At least one round. -/
def some1 (p : Pattern) : Pattern := seq p (many p)

/-- One of the given characters. -/
def oneOf (s : String) : Pattern := one fun c => s.toList.contains c

/-- A character that is not among the given ones. -/
def noneOf (s : String) : Pattern := one fun c => !s.toList.contains c

/-- Blanks, as many as there are. -/
def blanks : Pattern := many (one isBlank)

/-! ## Matches -/

/-- A match: where it starts and ends, and its groups. -/
structure Found where
  start : Nat
  stop : Nat
  groups : List (Nat × Nat × Nat)
deriving DecidableEq

/-- The stretch of `s` between two offsets. -/
def stretch (s : List Char) (start stop : Nat) : List Char := (s.drop start).take (stop - start)

/-- The text of a match. -/
def Found.text (f : Found) (s : List Char) : List Char := stretch s f.start f.stop

/-- The offsets of a group. -/
def Found.span? (f : Found) (i : Nat) : Option (Nat × Nat) :=
  (f.groups.find? (·.1 == i)).map (·.2)

/-- The text of a group, empty when the group took no part. -/
def Found.group (f : Found) (s : List Char) (i : Nat) : List Char :=
  match f.span? i with
  | some (a, b) => stretch s a b
  | none => []

/-- The match that starts at a place, if there is one. -/
def matchAt (p : Pattern) (c : Cursor) : Option Cursor := p.run { c with groups := [] } some

/-- The first match from a place on, with the cursor after it. -/
def searchFrom (p : Pattern) (before : List Char) : List Char → Option (Found × Cursor)
  | [] =>
    (p.matchAt ⟨before, [], []⟩).map fun d => (⟨before.length, d.offset, d.groups⟩, d)
  | c :: s =>
    match p.matchAt ⟨before, c :: s, []⟩ with
    | some d => some (⟨before.length, d.offset, d.groups⟩, d)
    | none => searchFrom p (c :: before) s

/-- The matches from a place on, at most `n`. -/
def findFrom (p : Pattern) : Nat → List Char → List Char → List Found
  | 0, _, _ => []
  | n + 1, before, s =>
    match searchFrom p before s with
    | some (f, d) =>
      if f.start < f.stop then f :: findFrom p n d.before d.rest
      else
        match d.rest with
        | c :: r => f :: findFrom p n (c :: d.before) r
        | [] => [f]
    | none => []

/-- All matches of a text from left to right, none overlapping another. -/
def findAll (p : Pattern) (s : List Char) : List Found := findFrom p (s.length + 1) [] s

/-- The first match. -/
def find? (p : Pattern) (s : List Char) : Option Found := (searchFrom p [] s).map (·.1)

/-- Whether the pattern matches anywhere. -/
def occursIn (p : Pattern) (s : List Char) : Bool := (p.find? s).isSome

end Pattern

end AppMend.Text
