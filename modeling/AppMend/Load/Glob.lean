import AppMend.Text.Pattern

/-!
# Globs

A glob is a text that names many paths. It is matched against all of a path, byte by byte: a question
mark stands for a byte and a star for a run of them, but never for a slash. Two stars alone between
slashes stand for any directories, also for none. A class in brackets stands for one of its bytes,
braces hold branches between commas, and a backslash takes the next character as it is.
-/

namespace AppMend

open Text (Pattern)

namespace Glob

/-- The bytes of a text, each as the character of its number. -/
def bytesOf (s : List Char) : List Char :=
  (String.ofList s).toUTF8.toList.map fun b => Char.ofNat b.toNat

/-- One byte within a segment. -/
def oneByte : Pattern := .one (· != '/')

/-- A run of bytes within a segment. -/
def run : Pattern := .many oneByte

/-- Any bytes. -/
def anything : Pattern := .many (.one fun _ => true)

/-- The directories before a segment, with the slash after them. -/
def leading : Pattern := .any [.seq anything (.word "/"), .opt (.word "/")]

/-- The directories between two segments, with the slashes around them. -/
def between : Pattern := .any [.word "/", .all [.word "/", anything, .word "/"]]

/-- All below a directory. -/
def below : Pattern := .seq (.word "/") anything

/-! ## Classes -/

/-- The bytes from one character to another. A character of several bytes gives each of them. -/
def byteRanges (lo hi : Char) : List (Char × Char) :=
  let same (bs : List Char) := bs.map fun b => (b, b)
  if lo = hi then same (bytesOf [lo])
  else
    match (bytesOf [lo]).reverse, bytesOf [hi] with
    | a :: before, b :: after => same before ++ (a, b) :: same after
    | _, _ => []

/-- What stands in brackets. -/
inductive ClassText where
  | closed (ranges : List (Char × Char)) (rest : List Char)
  | unclosed
  /-- It has a range that ends before it starts. -/
  | reversed

/-- Reads a class on from the ranges found so far, which are given in reverse. The first character
stands for itself; later a bracket ends the class and a dash makes a range. -/
def readRanges (ranges : List (Char × Char)) (first dash : Bool) : List Char → ClassText
  | [] => .unclosed
  | c :: s =>
    if c = ']' ∧ !first then .closed (if dash then ('-', '-') :: ranges else ranges) s
    else if c = '-' ∧ !first ∧ !dash then readRanges ranges false true s
    else
      match dash, ranges with
      | true, (lo, _) :: ranges =>
        if c < lo then .reversed else readRanges ((lo, c) :: ranges) false false s
      | _, ranges => readRanges ((c, c) :: ranges) false false s

/-- Whether a class is one of the bytes that it does not list, and what it lists. -/
def readClass : List Char → Bool × ClassText
  | '!' :: s | '^' :: s => (true, readRanges [] true false s)
  | s => (false, readRanges [] true false s)

def classOf (negated : Bool) (ranges : List (Char × Char)) : Pattern :=
  let bytes := ranges.flatMap fun r => byteRanges r.1 r.2
  .one fun c => (bytes.any fun (lo, hi) => lo ≤ c && c ≤ hi) != negated

/-! ## Reading -/

/-- An open brace: what stood before it, and its branches so far. Both are given in reverse. -/
structure Brace where
  before : List Pattern
  branches : List (List Pattern)

def isNothing : Pattern → Bool
  | .nothing => true
  | _ => false

/-- The branches of a brace. Those that are empty do not count. -/
def branched (branches : List (List Pattern)) : Pattern :=
  match branches.filter fun ps => !ps.all isNothing with
  | [] => .nothing
  | bs => .any (bs.map fun ps => .all ps.reverse)

/-- Whether a segment ends here. -/
def endsSegment (inBrace : Bool) : List Char → Bool
  | [] => true
  | c :: _ => c == '/' || (inBrace && (c == ',' || c == '\x7d'))

/-- Reads a glob on from the parts found so far, which are given in reverse, within the braces that are
open. -/
def readParts : Nat → List Pattern → List Brace → List Char → Option Pattern
  | 0, _, _, _ => none
  | _ + 1, ps, [], [] => some (.all ps.reverse)
  | _ + 1, _, _ :: _, [] => none
  | n + 1, ps, bs, c :: s =>
    let more (p : Pattern) (s : List Char) := readParts n (p :: ps) bs s
    match c, s with
    | '\\', d :: s => more (.chars (bytesOf [d])) s
    | '\\', [] => none
    | '?', s => more oneByte s
    | '[', s =>
      match readClass s with
      | (negated, .closed ranges s) => more (classOf negated ranges) s
      | (_, .unclosed) => more (.word "[") s
      | (_, .reversed) => none
    | '\x7b', s => readParts n [] (⟨ps, []⟩ :: bs) s
    | '\x7d', s =>
      match bs with
      | [] => none
      | b :: bs => readParts n (branched (ps :: b.branches) :: b.before) bs s
    | ',', s =>
      match bs with
      | [] => more (.word ",") s
      | b :: bs => readParts n [] ({ b with branches := ps :: b.branches } :: bs) s
    | '*', '*' :: s =>
      if !ps.isEmpty then more run s
      else
        match s with
        | [] => if bs.isEmpty then some anything else none
        | '/' :: '*' :: '*' :: t =>
          if endsSegment false t then readParts n ps bs ('*' :: '*' :: t) else more leading ('*' :: '*' :: t)
        | '/' :: s => more leading s
        | s => more run s
    | '*', s => more run s
    | '/', '*' :: '*' :: s =>
      let inBrace := !bs.isEmpty
      match s with
      | '/' :: '*' :: '*' :: t =>
        if endsSegment inBrace t then readParts n ps bs ('/' :: '*' :: '*' :: t)
        else more between ('*' :: '*' :: t)
      | '/' :: s => more between s
      | s => if endsSegment inBrace s then more below s else readParts n (run :: .word "/" :: ps) bs s
    | c, s => more (.chars (bytesOf [c])) s

end Glob

/-- A text that names many paths. -/
structure Glob where
  pattern : Pattern

namespace Glob

/-- The glob that a text writes, unless it leaves a brace open, closes one too many, has a range that
ends before it starts or ends in a backslash. -/
def parse? (s : List Char) : Option Glob := (readParts (s.length + 1) [] [] s).map Glob.mk

/-- Whether a glob names a path. -/
def names (g : Glob) (path : List Char) : Bool :=
  (g.pattern.run ⟨[], bytesOf path, []⟩ fun c => if c.rest.isEmpty then some () else none).isSome

end Glob

end AppMend
